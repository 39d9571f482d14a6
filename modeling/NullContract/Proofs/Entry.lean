import Mathlib.Data.List.Forall2
import NullContract.Check.Checked
import NullContract.Proofs.StateOrder

namespace NullContract

section

variable {antecedent : List Constraint} {parameters : List String}

theorem map_snd_zip_sublist {α β : Type} (xs : List α) (ys : List β) : ((xs.zip ys).map (·.2)).Sublist ys := by
  induction xs generalizing ys with
  | nil => simp
  | cons x xs ih =>
    cases ys with
    | nil => simp
    | cons y ys => simpa using ih ys

theorem getElem?_assume {ps : List (Constraint × String)} (h : (ps.map (·.2)).Nodup) (env : Env) (x : String) :
    (ps.foldl (fun env p =>
      match p.1.assumption? with
      | some verdict => env.insert p.2 verdict
      | none => env) env)[x]? = ((ps.find? (·.2 = x)).bind (·.1.assumption?)).or env[x]? := by
  induction ps generalizing env with
  | nil => simp
  | cons p ps ih =>
    obtain ⟨constraint, y⟩ := p
    simp only [List.map_cons, List.nodup_cons] at h
    rw [List.foldl_cons, ih h.2]
    by_cases hy : y = x
    · subst hy
      have hnone : ps.find? (·.2 = y) = none := by
        refine List.find?_eq_none.mpr fun q hq hqy => h.1 ?_
        exact List.mem_map.mpr ⟨q, hq, by simpa using hqy⟩
      rw [hnone]
      cases hc : constraint.assumption? <;> simp [hc]
    · cases hc : constraint.assumption? <;> simp [hy]

theorem getElem?_assumptions (h : parameters.Nodup) (x : String) :
    (assumptions antecedent parameters)[x]? =
      ((antecedent.zip parameters).find? (·.2 = x)).bind (·.1.assumption?) := by
  have hnodup := (map_snd_zip_sublist antecedent parameters).nodup h
  have hfold := getElem?_assume hnodup ∅ x
  rw [Std.ExtTreeMap.getElem?_empty, Option.or_none] at hfold
  exact hfold

theorem find?_of_mem {ps : List (Constraint × String)} (h : (ps.map (·.2)).Nodup) {p : Constraint × String}
    (hp : p ∈ ps) : ps.find? (·.2 = p.2) = some p := by
  induction ps with
  | nil => cases hp
  | cons q ps ih =>
    simp only [List.map_cons, List.nodup_cons] at h
    rcases List.mem_cons.mp hp with rfl | hp
    · simp
    · have hne : q.2 ≠ p.2 := fun heq => h.1 (List.mem_map.mpr ⟨p, hp, heq.symm⟩)
      simpa [hne] using ih h.2 hp

end

section

variable {ε α β : Type}

theorem bind_eq_ok {x : Except ε α} {f : α → Except ε β} {b : β} :
    (x >>= f) = .ok b ↔ ∃ a, x = .ok a ∧ f a = .ok b := by
  cases x <;> simp [bind, Except.bind]

theorem forall₂_of_mapM_ok {f : α → Except ε β} {xs : List α} {ys : List β} (h : xs.mapM f = .ok ys) :
    List.Forall₂ (fun x y => f x = .ok y) xs ys := by
  induction xs generalizing ys with
  | nil =>
    cases h
    exact .nil
  | cons x xs ih =>
    rw [List.mapM_cons] at h
    obtain ⟨y, hy, h⟩ := bind_eq_ok.mp h
    obtain ⟨rest, hrest, h⟩ := bind_eq_ok.mp h
    cases h
    exact .cons hy (ih hrest)

theorem exists_of_mem_right {R : α → β → Prop} {xs : List α} {ys : List β} (h : List.Forall₂ R xs ys) :
    ∀ y ∈ ys, ∃ x ∈ xs, R x y := by
  induction h with
  | nil => simp
  | @cons x y xs ys hxy _ ih =>
    refine List.forall_mem_cons.mpr ⟨⟨x, by simp, hxy⟩, fun z hz => ?_⟩
    obtain ⟨w, hw, hwz⟩ := ih z hz
    exact ⟨w, List.mem_cons_of_mem _ hw, hwz⟩

end

section

variable {read : Reader} {sig : Signature} {declared : List (String × Nullness)}

theorem declaredNullness_ne_null {param : Parameter} {default : Option Expr} {v : Nullness}
    (h : declaredNullness read param default = .ok v) : v ≠ .null := by
  have hjudge : ∀ admits : Bool, (if admits || (default.map Expr.isNone).getD false then Nullness.nullable
      else .unknown) ≠ .null := by
    intro admits
    split <;> decide
  unfold declaredNullness at h
  cases hhint : param.hint with
  | none =>
    simp only [hhint] at h
    cases h
    exact hjudge false
  | some hint =>
    simp only [hhint] at h
    obtain ⟨admits, -, h⟩ := bind_eq_ok.mp h
    cases h
    exact hjudge admits

theorem mapM_declare {ps : List (Parameter × Option Expr)} {ds : List (String × Nullness)}
    (h : ps.mapM (fun p => return (p.1.name, ← declaredNullness read p.1 p.2)) = .ok ds) :
    ds.map (·.1) = (ps.map (·.1)).map (·.name) ∧ ∀ d ∈ ds, d.2 ≠ .null := by
  have hall := forall₂_of_mapM_ok h
  clear h
  induction hall with
  | nil => simp
  | cons hp _ ih =>
    obtain ⟨v, hv, hp⟩ := bind_eq_ok.mp hp
    cases hp
    exact ⟨by simpa using ih.1, List.forall_mem_cons.mpr ⟨declaredNullness_ne_null hv, ih.2⟩⟩

theorem map_fst_declared (hkeywords : sig.keywordDefaults.length = sig.keywordOnly.length)
    (h : sig.declared read = .ok declared) : declared.map (·.1) = sig.names := by
  obtain ⟨positional, hpositional, h⟩ := bind_eq_ok.mp h
  obtain ⟨keywordOnly, hkeywordOnly, h⟩ := bind_eq_ok.mp h
  cases h
  have hparams : sig.positionalDefaults.map (·.1) = sig.positionalOnly ++ sig.positional := by
    refine List.map_fst_zip ?_
    simp only [List.length_append, List.length_replicate, List.length_map]
    omega
  have hkeyed : sig.keywordOnlyDefaults.map (·.1) = sig.keywordOnly := List.map_fst_zip (le_of_eq hkeywords.symm)
  simp only [List.map_append, (mapM_declare hpositional).1, (mapM_declare hkeywordOnly).1, hparams, hkeyed,
    Signature.names]
  cases sig.variadic <;> cases sig.keywordVariadic <;> rfl

theorem declared_ne_null (h : sig.declared read = .ok declared) : ∀ p ∈ declared, p.2 ≠ .null := by
  obtain ⟨positional, hpositional, h⟩ := bind_eq_ok.mp h
  obtain ⟨keywordOnly, hkeywordOnly, h⟩ := bind_eq_ok.mp h
  cases h
  have hcollection : ∀ o : Option Parameter,
      ∀ p ∈ (o.map fun p => (p.name, Nullness.nonNull)).toList, p.2 ≠ .null := by
    intro o p hp
    cases o with
    | none => simp at hp
    | some param =>
      rw [Option.map_some, Option.toList_some, List.mem_singleton] at hp
      simp [hp]
  simp only [List.mem_append, or_imp, forall_and]
  exact ⟨⟨⟨(mapM_declare hpositional).2, hcollection _⟩, (mapM_declare hkeywordOnly).2⟩, hcollection _⟩

end

def seed (assumed : Env) (declared : List (String × Nullness)) : Env :=
  declared.foldl (fun env p => env.insert p.1 (assumed[p.1]?.getD p.2)) ∅

theorem entry_eq_ok {read : Reader} {fn : Function} {assumed entry : Env} :
    fn.entry read assumed = .ok entry ↔
      ∃ declared, fn.header.signature.declared read = .ok declared ∧ entry = seed assumed declared := by
  constructor
  · intro h
    obtain ⟨declared, hdeclared, h⟩ := bind_eq_ok.mp h
    cases h
    exact ⟨declared, hdeclared, rfl⟩
  · rintro ⟨declared, hdeclared, rfl⟩
    exact bind_eq_ok.mpr ⟨declared, hdeclared, rfl⟩

theorem getElem?_seed {assumed : Env} {declared : List (String × Nullness)} {x : String} {v : Nullness}
    (hv : assumed[x]? = some v) (hx : x ∈ declared.map (·.1)) : (seed assumed declared)[x]? = some v := by
  have hfold : ∀ env : Env, x ∈ declared.map (·.1) ∨ env[x]? = some v →
      (declared.foldl (fun env p => env.insert p.1 (assumed[p.1]?.getD p.2)) env)[x]? = some v := by
    clear hx
    induction declared with
    | nil => exact fun env h => h.elim (by simp) id
    | cons p rest ih =>
      intro env h
      refine ih _ ?_
      by_cases hp : p.1 = x
      · exact .inr (by simp [hp, hv])
      · rcases h with h | h
        · rcases List.mem_cons.mp h with rfl | h
          · exact absurd rfl hp
          · exact .inl h
        · exact .inr (by simp [hp, h])
  exact hfold ∅ (.inl hx)

theorem formalParameters_subset_names (h : Header) (isMethod : Bool) {x : String}
    (hx : x ∈ h.formalParameters isMethod) : x ∈ h.signature.names := by
  unfold Header.formalParameters at hx
  split at hx
  · exact List.mem_of_mem_drop hx
  · exact hx

/-- The contract speaks of the parameters of the function, which have different names, and every keyword-only
parameter has its entry among the defaults. -/
structure Candidate.Regular (c : Candidate) : Prop where
  parameters : ∃ isMethod, c.subject.parameters = c.function.header.formalParameters isMethod
  distinct : c.subject.parameters.Nodup
  keywords : c.function.header.signature.keywordDefaults.length = c.function.header.signature.keywordOnly.length

theorem Candidate.Regular.entry_nonNull {c : Candidate} (hc : c.Regular) {read : Reader} {antecedent : List Constraint}
    {entry : Env} (hentry : c.function.entry read (assumptions antecedent c.subject.parameters) = .ok entry)
    {x : String} (hx : (.nonNull, x) ∈ antecedent.zip c.subject.parameters) : entry.verdict x = .nonNull := by
  obtain ⟨declared, hdeclared, rfl⟩ := entry_eq_ok.mp hentry
  obtain ⟨isMethod, hparameters⟩ := hc.parameters
  have hnodup := (map_snd_zip_sublist antecedent c.subject.parameters).nodup hc.distinct
  have hassumed : (assumptions antecedent c.subject.parameters)[x]? = some .nonNull := by
    rw [getElem?_assumptions hc.distinct, find?_of_mem hnodup hx]
    rfl
  have hname : x ∈ declared.map (·.1) := by
    rw [map_fst_declared hc.keywords hdeclared]
    refine formalParameters_subset_names _ isMethod ?_
    rw [← hparameters]
    exact (List.of_mem_zip hx).2
  rw [Env.verdict, getElem?_seed hassumed hname, Option.getD_some]

def Function.plain (name : String) (parameters : List String) (body : List Stmt) : Function where
  header := {
    name := name
    isAsync := false
    signature := {
      positionalOnly := []
      positional := parameters.map fun x => ⟨x, none⟩
      variadic := none
      keywordOnly := []
      keywordDefaults := []
      keywordVariadic := none
      defaults := [] }
    returns := none
    decorators := []
    firstLine := 1
    span := default }
  body := body

def readLiteral : Reader := fun text => .ok (.literal (.text text))

def Function.under (fn : Function) (contract : String) : Candidate where
  subject :=
    { name := fn.header.name
      qualname := fn.header.name
      contract := some contract
      parameters := fn.header.formalParameters false
      location := default }
  function := fn
  source := ""

end NullContract
