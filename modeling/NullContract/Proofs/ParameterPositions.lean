import NullContract.Proofs.CheckReturns

namespace NullContract

structure Signature.WellFormed (sig : Signature) : Prop where
  defaults : sig.defaults.length ≤ (sig.positionalOnly ++ sig.positional).length
  keywords : sig.keywordDefaults.length = sig.keywordOnly.length

inductive Signature.Declares (read : Reader) (sig : Signature) : String → Nullness → Prop where
  | positional {k : Nat} {p : Parameter} {v : Nullness}
      (stands : (sig.positionalOnly ++ sig.positional).reverse[k]? = some p)
      (judged : declaredNullness read p sig.defaults.reverse[k]? = .ok v) : Declares read sig p.name v
  | variadic {p : Parameter} (stands : sig.variadic = some p) : Declares read sig p.name .nonNull
  | keywordOnly {k : Nat} {p : Parameter} {default : Option Expr} {v : Nullness}
      (stands : sig.keywordOnly[k]? = some p) (paired : sig.keywordDefaults[k]? = some default)
      (judged : declaredNullness read p default = .ok v) : Declares read sig p.name v
  | keywordVariadic {p : Parameter} (stands : sig.keywordVariadic = some p) : Declares read sig p.name .nonNull

theorem getElem?_map_some_append {α : Type} (xs : List α) {count k : Nat} (hk : k < xs.length + count) :
    (xs.map some ++ List.replicate count none)[k]? = some xs[k]? := by
  by_cases hlt : k < xs.length
  · rw [List.getElem?_append_left (by simpa using hlt), List.getElem?_map, List.getElem?_eq_getElem hlt, Option.map_some]
  · have hrest : k - (xs.map some).length < count := by
      rw [List.length_map]
      omega
    rw [List.getElem?_append_right (by simpa using hlt), List.getElem?_replicate_of_lt hrest,
      List.getElem?_eq_none (by omega)]

theorem mem_zip_aligned {α β : Type} {xs : List α} {ys : List β} (h : ys.length ≤ xs.length) {x : α} {y : Option β} :
    (x, y) ∈ xs.zip (List.replicate (xs.length - ys.length) none ++ ys.map some) ↔
      ∃ k : Nat, xs.reverse[k]? = some x ∧ y = ys.reverse[k]? := by
  have hlength : xs.length = (List.replicate (xs.length - ys.length) none ++ ys.map some).length := by
    rw [List.length_append, List.length_replicate, List.length_map]
    omega
  rw [← List.mem_reverse, List.zip_eq_zipWith, List.reverse_zipWith hlength, ← List.zip_eq_zipWith,
    List.mem_iff_getElem?, List.reverse_append, List.reverse_replicate, ← List.map_reverse]
  refine exists_congr fun k => ?_
  rw [List.getElem?_zip_eq_some]
  refine and_congr_right fun hx => ?_
  have hk : k < xs.length := by simpa using (List.getElem?_eq_some_iff.mp hx).1
  have hpadded : k < ys.reverse.length + (xs.length - ys.length) := by
    rw [List.length_reverse]
    omega
  rw [getElem?_map_some_append _ hpadded, Option.some.injEq, eq_comm]

theorem mem_of_mapM_ok {ε α β : Type} {f : α → Except ε β} {xs : List α} {ys : List β} (h : xs.mapM f = .ok ys)
    {y : β} : y ∈ ys ↔ ∃ x ∈ xs, f x = .ok y := by
  have hall := forall₂_of_mapM_ok h
  constructor
  · exact exists_of_mem_right hall y
  · rintro ⟨x, hx, hy⟩
    obtain ⟨y', hy', hxy⟩ := exists_of_mem_right hall.flip x hx
    rw [hxy] at hy
    exact Except.ok.inj hy ▸ hy'

section

variable {read : Reader} {sig : Signature} {declared : List (String × Nullness)}

theorem mem_positionalDefaults (hsig : sig.WellFormed) {p : Parameter} {default : Option Expr} :
    (p, default) ∈ sig.positionalDefaults ↔
      ∃ k : Nat, (sig.positionalOnly ++ sig.positional).reverse[k]? = some p ∧ default = sig.defaults.reverse[k]? :=
  mem_zip_aligned hsig.defaults

theorem mem_keywordOnlyDefaults {p : Parameter} {default : Option Expr} :
    (p, default) ∈ sig.keywordOnlyDefaults ↔
      ∃ k : Nat, sig.keywordOnly[k]? = some p ∧ sig.keywordDefaults[k]? = some default := by
  rw [Signature.keywordOnlyDefaults, List.mem_iff_getElem?]
  simp only [List.getElem?_zip_eq_some]

theorem mem_declare {ps : List (Parameter × Option Expr)} {ds : List (String × Nullness)}
    (h : ps.mapM (fun p => return (p.1.name, ← declaredNullness read p.1 p.2)) = .ok ds) {x : String} {v : Nullness} :
    (x, v) ∈ ds ↔ ∃ p default, (p, default) ∈ ps ∧ p.name = x ∧ declaredNullness read p default = .ok v := by
  rw [mem_of_mapM_ok h]
  constructor
  · rintro ⟨⟨p, default⟩, hp, hx⟩
    obtain ⟨v', hv', hx⟩ := bind_eq_ok.mp hx
    cases hx
    exact ⟨p, default, hp, rfl, hv'⟩
  · rintro ⟨p, default, hp, rfl, hv⟩
    exact ⟨(p, default), hp, bind_eq_ok.mpr ⟨v, hv, rfl⟩⟩

theorem mem_declared (hsig : sig.WellFormed) (h : sig.declared read = .ok declared) {x : String} {v : Nullness} :
    (x, v) ∈ declared ↔ sig.Declares read x v := by
  obtain ⟨positional, hpositional, h⟩ := bind_eq_ok.mp h
  obtain ⟨keywordOnly, hkeywordOnly, h⟩ := bind_eq_ok.mp h
  cases h
  simp only [List.mem_append, mem_declare hpositional, mem_declare hkeywordOnly, mem_positionalDefaults hsig,
    mem_keywordOnlyDefaults, Option.mem_toList, Option.map_eq_some_iff, Prod.mk.injEq]
  constructor
  · rintro (((⟨p, _, ⟨k, hp, rfl⟩, rfl, hv⟩ | ⟨p, hp, rfl, rfl⟩) | ⟨p, default, ⟨k, hp, hdefault⟩, rfl, hv⟩) |
      ⟨p, hp, rfl, rfl⟩)
    · exact .positional hp hv
    · exact .variadic hp
    · exact .keywordOnly hp hdefault hv
    · exact .keywordVariadic hp
  · intro hdeclares
    cases hdeclares with
    | positional hp hv => exact .inl (.inl (.inl ⟨_, _, ⟨_, hp, rfl⟩, rfl, hv⟩))
    | variadic hp => exact .inl (.inl (.inr ⟨_, hp, rfl, rfl⟩))
    | keywordOnly hp hdefault hv => exact .inl (.inr ⟨_, _, ⟨_, hp, hdefault⟩, rfl, hv⟩)
    | keywordVariadic hp => exact .inr ⟨_, hp, rfl, rfl⟩

end

section

variable {antecedent : List Constraint} {parameters : List String} {x : String}

theorem getElem?_assumptions_eq_none (hnodup : parameters.Nodup) (hx : ∀ p ∈ antecedent.zip parameters, p.2 ≠ x) :
    (assumptions antecedent parameters)[x]? = none := by
  have hnone : (antecedent.zip parameters).find? (·.2 = x) = none := by
    apply List.find?_eq_none.mpr
    intro p hp hpx
    exact hx p hp (of_decide_eq_true hpx)
  rw [getElem?_assumptions hnodup, hnone]
  rfl

theorem getElem?_assumptions_of_not_mem (hnodup : parameters.Nodup) (hx : x ∉ parameters) :
    (assumptions antecedent parameters)[x]? = none := by
  apply getElem?_assumptions_eq_none hnodup
  rintro p hp rfl
  exact hx (List.of_mem_zip hp).2

theorem getElem?_assumptions_at (hnodup : parameters.Nodup) {i : Nat} (hx : parameters[i]? = some x) :
    (assumptions antecedent parameters)[x]? = antecedent[i]?.bind Constraint.assumption? := by
  cases hconstraint : antecedent[i]? with
  | some constraint =>
    have hzip : (constraint, x) ∈ antecedent.zip parameters :=
      List.mem_of_getElem? (List.getElem?_zip_eq_some.mpr ⟨hconstraint, hx⟩)
    rw [getElem?_assumptions hnodup, find?_of_mem ((map_snd_zip_sublist _ _).nodup hnodup) hzip]
    rfl
  | none =>
    apply getElem?_assumptions_eq_none hnodup
    rintro ⟨constraint, _⟩ hp rfl
    -- The name stands at one position only, and there the antecedent says nothing.
    obtain ⟨j, hj⟩ := List.mem_iff_getElem?.mp hp
    obtain ⟨hj, hparameter⟩ := List.getElem?_zip_eq_some.mp hj
    have hi := (List.getElem?_eq_some_iff.mp hx).1
    rw [(List.getElem?_inj hi hnodup).mp (hx.trans hparameter.symm), hj] at hconstraint
    cases hconstraint

end

section

variable {declared : List (String × Nullness)} {assumed : Env} {x : String}

theorem getElem?_foldl_declared (hx : x ∉ declared.map (·.1)) (env : Env) :
    (declared.foldl (fun env p => env.insert p.1 (assumed[p.1]?.getD p.2)) env)[x]? = env[x]? := by
  induction declared generalizing env with
  | nil => rfl
  | cons p rest ih =>
    rw [List.map_cons, List.mem_cons, not_or] at hx
    rw [List.foldl_cons, ih hx.2, Env.getElem?_insert, if_neg (Ne.symm hx.1)]

theorem getElem?_seed_of_not_mem (hx : x ∉ declared.map (·.1)) : (seed assumed declared)[x]? = none := by
  rw [seed, getElem?_foldl_declared hx, Std.ExtTreeMap.getElem?_empty]

theorem getElem?_seed_of_mem (hnodup : (declared.map (·.1)).Nodup) {v : Nullness} (hx : (x, v) ∈ declared) :
    (seed assumed declared)[x]? = some (assumed[x]?.getD v) := by
  obtain ⟨before, after, rfl⟩ := List.append_of_mem hx
  rw [List.map_append, List.map_cons] at hnodup
  have hafter : x ∉ after.map (·.1) := (List.nodup_cons.mp hnodup.of_append_right).1
  rw [seed, List.foldl_append, List.foldl_cons, getElem?_foldl_declared hafter, Env.getElem?_insert, if_pos rfl]

end

def Header.HasReceiver (header : Header) (isMethod : Bool) : Prop :=
  isMethod = true ∧ header.signature.positionalOnly ++ header.signature.positional ≠ [] ∧
    header.hasDecorator "staticmethod" = false

structure Env.StartsFrom (entry : Env) (read : Reader) (sig : Signature) (formal : List String)
    (antecedent : List Constraint) : Prop where
  nonNull : ∀ (i : Nat) (x : String), formal[i]? = some x → antecedent[i]? = some .nonNull →
    entry[x]? = some .nonNull
  null : ∀ (i : Nat) (x : String), formal[i]? = some x → antecedent[i]? = some .null → entry[x]? = some .null
  other : ∀ (x : String) (v : Nullness), sig.Declares read x v →
    (∀ i : Nat, formal[i]? = some x → antecedent[i]? ≠ some .nonNull ∧ antecedent[i]? ≠ some .null) →
    entry[x]? = some v
  absent : ∀ x : String, x ∉ sig.names → entry[x]? = none

section

variable {read : Reader} {header : Header} {isMethod : Bool} {declared : List (String × Nullness)}

theorem formalParameters_of_receiver (h : header.HasReceiver isMethod) :
    ∃ p rest, header.signature.positionalOnly ++ header.signature.positional = p :: rest ∧
      header.signature.names = p.name :: header.formalParameters isMethod := by
  obtain ⟨hmethod, hne, hstatic⟩ := h
  obtain ⟨p, rest, hpositional⟩ := List.exists_cons_of_ne_nil hne
  refine ⟨p, rest, hpositional, ?_⟩
  simp [Header.formalParameters, Signature.hasPositional, Signature.names, hmethod, hstatic, hpositional]

theorem formalParameters_of_not_receiver (h : ¬ header.HasReceiver isMethod) :
    header.formalParameters isMethod = header.signature.names := by
  rw [Header.formalParameters, if_neg]
  intro hreceiver
  simp only [Bool.and_eq_true, Bool.not_eq_true'] at hreceiver
  obtain ⟨⟨hmethod, hpositional⟩, hstatic⟩ := hreceiver
  refine h ⟨hmethod, ?_, hstatic⟩
  intro hnil
  rw [Signature.hasPositional, hnil] at hpositional
  cases hpositional

theorem nodup_formalParameters (h : header.signature.names.Nodup) : (header.formalParameters isMethod).Nodup := by
  rw [Header.formalParameters]
  split
  · exact h.sublist (List.drop_sublist _ _)
  · exact h

theorem assumption?_eq_none {constraint : Option Constraint} (hnonNull : constraint ≠ some .nonNull)
    (hnull : constraint ≠ some .null) : constraint.bind Constraint.assumption? = none := by
  rcases constraint with _ | (_ | _ | _ | _ | _) <;> simp_all [Constraint.assumption?]

theorem startsFrom_seed (hsig : header.signature.WellFormed) (hdeclared : header.signature.declared read = .ok declared)
    (hnames : header.signature.names.Nodup) (antecedent : List Constraint) :
    (seed (assumptions antecedent (header.formalParameters isMethod)) declared).StartsFrom read header.signature
      (header.formalParameters isMethod) antecedent := by
  have hformal : (header.formalParameters isMethod).Nodup := nodup_formalParameters hnames
  have hfst := map_fst_declared hsig.keywords hdeclared
  have hassumed : ∀ (i : Nat) (x : String) (constraint : Constraint) (v : Nullness),
      (header.formalParameters isMethod)[i]? = some x → antecedent[i]? = some constraint →
      constraint.assumption? = some v →
      (seed (assumptions antecedent (header.formalParameters isMethod)) declared)[x]? = some v := by
    intro i x constraint v hx hconstraint hv
    apply getElem?_seed
    · rw [getElem?_assumptions_at hformal hx, hconstraint]
      exact hv
    · rw [hfst]
      exact formalParameters_subset_names header isMethod (List.mem_of_getElem? hx)
  constructor
  · intro i x hx hconstraint
    exact hassumed i x .nonNull .nonNull hx hconstraint rfl
  · intro i x hx hconstraint
    exact hassumed i x .null .null hx hconstraint rfl
  · intro x v hx hothers
    have hnone : (assumptions antecedent (header.formalParameters isMethod))[x]? = none := by
      by_cases hmem : x ∈ header.formalParameters isMethod
      · obtain ⟨i, hi⟩ := List.mem_iff_getElem?.mp hmem
        obtain ⟨hnonNull, hnull⟩ := hothers i hi
        rw [getElem?_assumptions_at hformal hi, assumption?_eq_none hnonNull hnull]
      · exact getElem?_assumptions_of_not_mem hformal hmem
    rw [getElem?_seed_of_mem (by rwa [hfst]) ((mem_declared hsig hdeclared).mpr hx), hnone]
    rfl
  · intro x hx
    apply getElem?_seed_of_not_mem
    rwa [hfst]

end

theorem antecedent_reaches_parameters (read : Reader) (header : Header) (isMethod : Bool)
    (hsig : header.signature.WellFormed) :
    ((∃ declared, header.signature.declared read = .ok declared) ↔
      ∀ hint ∈ header.signature.judgedHints, ∃ admits, hint.admitsNone read = .ok admits) ∧
    ∀ declared, header.signature.declared read = .ok declared →
      (∀ x v, (x, v) ∈ declared ↔ header.signature.Declares read x v) ∧
      (header.HasReceiver isMethod →
        ∃ p rest, header.signature.positionalOnly ++ header.signature.positional = p :: rest ∧
          declared.map (·.1) = p.name :: header.formalParameters isMethod) ∧
      (¬ header.HasReceiver isMethod → declared.map (·.1) = header.formalParameters isMethod) ∧
      (header.signature.names.Nodup →
        ∀ (c : Candidate) (clause : Clause) (reachability : Reachability), c.function.header = header →
          c.subject.parameters = header.formalParameters isMethod →
          ∃ entry checked,
            c.function.entry read (assumptions clause.antecedent c.subject.parameters) = .ok entry ∧
            entry.StartsFrom read header.signature c.subject.parameters clause.antecedent ∧
            checkBody (flowOracle read) reachability c clause = .ok checked ∧
            checked.body =
              some ⟨assumptions clause.antecedent c.subject.parameters, c.function.judged entry⟩) := by
  refine ⟨exists_declared, fun declared hdeclared => ?_⟩
  rw [map_fst_declared hsig.keywords hdeclared]
  refine ⟨fun x v => mem_declared hsig hdeclared, formalParameters_of_receiver,
    fun h => (formalParameters_of_not_receiver h).symm, ?_⟩
  rintro hnames c clause reachability rfl hparameters
  have hentry : c.function.entry read (assumptions clause.antecedent c.subject.parameters) =
      .ok (seed (assumptions clause.antecedent c.subject.parameters) declared) :=
    entry_eq_ok.mpr ⟨declared, hdeclared, rfl⟩
  have hstarts : Env.StartsFrom (seed (assumptions clause.antecedent c.subject.parameters) declared) read
      c.function.header.signature c.subject.parameters clause.antecedent := by
    rw [hparameters]
    exact startsFrom_seed hsig hdeclared hnames clause.antecedent
  exact ⟨_, _, hentry, hstarts, bind_eq_ok.mpr ⟨_, verdicts_of_entry hentry, rfl⟩, rfl⟩

def fetch : Found where
  function := {
    header := {
      name := "fetch"
      isAsync := false
      signature := {
        positionalOnly := [⟨"self", none⟩]
        positional := [⟨"key", none⟩, ⟨"fallback", none⟩]
        variadic := some ⟨"others", none⟩
        keywordOnly := [⟨"kind", some (.literal .none)⟩]
        keywordDefaults := [none]
        keywordVariadic := some ⟨"options", none⟩
        defaults := [.literal .none] }
      returns := none
      decorators := []
      firstLine := 1
      span := default }
    body := [.ret ⟨2, 8⟩ (some (.name "fallback"))] }
  contract := "!null, _, null -> !null"
  scopes := ["Cache"]
  isMethod := true

theorem antecedent_reaches_parameters_fetch :
    fetch.function.header.signature.WellFormed ∧ fetch.function.header.HasReceiver true ∧
    fetch.function.header.signature.names.Nodup ∧
    ∃ clause checked entry, (fetch.candidate "cache.py" "").clause? = some clause ∧
      checkBody (flowOracle readLiteral) Site.reachableUnder (fetch.candidate "cache.py" "") clause = .ok checked ∧
      checked.body.map (·.verdicts) = some (fetch.function.judged entry) ∧
      entry["self"]? = some .unknown ∧ entry["key"]? = some .nonNull ∧ entry["fallback"]? = some .nullable ∧
      entry["others"]? = some .null ∧ entry["kind"]? = some .nullable ∧ entry["options"]? = some .nonNull := by
  have hsig : fetch.function.header.signature.WellFormed := ⟨by decide, by decide⟩
  have hreceiver : fetch.function.header.HasReceiver true := ⟨rfl, by simp [fetch], by decide⟩
  have hnames : fetch.function.header.signature.names.Nodup := by decide
  have hread : (fetch.candidate "cache.py" "").clause?.map (·.antecedent) = some [.nonNull, .any, .null] := by
    decide +kernel
  have hdeclared : ∃ declared, fetch.function.header.signature.declared readLiteral = .ok declared := ⟨_, rfl⟩
  obtain ⟨clause, hclause, hantecedent⟩ := Option.map_eq_some_iff.mp hread
  obtain ⟨declared, hdeclared⟩ := hdeclared
  obtain ⟨-, -, -, hstarts⟩ :=
    (antecedent_reaches_parameters readLiteral fetch.function.header true hsig).2 declared hdeclared
  obtain ⟨entry, checked, -, hentry, hchecked, hbody⟩ :=
    hstarts hnames (fetch.candidate "cache.py" "") clause Site.reachableUnder rfl rfl
  rw [hantecedent] at hentry
  have hother : ∀ x v, fetch.function.header.signature.Declares readLiteral x v → x ≠ "key" → x ≠ "others" →
      entry[x]? = some v := by
    intro x v hx hkey hothers
    apply hentry.other x v hx
    intro i hi
    rcases i with _ | _ | _ | i
    · exact absurd (Option.some.inj hi).symm hkey
    · decide
    · exact absurd (Option.some.inj hi).symm hothers
    · simp
  refine ⟨hsig, hreceiver, hnames, clause, checked, entry, hclause, hchecked, by rw [hbody]; rfl, ?_, ?_, ?_, ?_, ?_, ?_⟩
  · exact hother _ _ (.positional (k := 2) (p := ⟨"self", none⟩) rfl rfl) (by decide) (by decide)
  · exact hentry.nonNull 0 "key" rfl rfl
  · exact hother _ _ (.positional (k := 0) (p := ⟨"fallback", none⟩) rfl rfl) (by decide) (by decide)
  · exact hentry.null 2 "others" rfl rfl
  · exact hother _ _ (.keywordOnly (k := 0) (p := ⟨"kind", some (.literal .none)⟩) rfl rfl rfl) (by decide) (by decide)
  · exact hother _ _ (.keywordVariadic (p := ⟨"options", none⟩) rfl) (by decide) (by decide)

end NullContract
