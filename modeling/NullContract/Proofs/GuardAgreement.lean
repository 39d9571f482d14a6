import NullContract.Proofs.Entry
import NullContract.Proofs.LoopHead
import NullContract.Proofs.Verdicts

namespace NullContract

def Invariant.staysNonNull (p : String) : Invariant where
  holds := fun env => env.verdict p = .nonNull
  binds := (· ≠ p)
  reads := fun _ => True
  yields := fun _ => True
  yields_nonNull := trivial
  yields_unknown := trivial
  yields_join := fun _ _ => trivial
  verdict := fun _ _ => trivial
  join := fun ha hb => by rw [Env.verdict_join, ha, hb, Nullness.join_self]
  insert := fun henv hx _ => by rw [Env.verdict_insert, if_neg hx, henv]
  erase := fun henv hx => by rw [Env.verdict_erase, if_neg hx, henv]
  refine_nonNull := by
    intro env env' x henv _ h
    obtain ⟨-, -, rfl⟩ := Env.refine_eq_some.mp h
    rw [Env.verdict_insert, henv, ite_self]
  refine_null := by
    intro env env' x henv _ _ h
    obtain ⟨hnull, -, rfl⟩ := Env.refine_eq_some.mp h
    have hx : x ≠ p := by
      rintro rfl
      exact hnull ⟨rfl, henv⟩
    rw [Env.verdict_insert, if_neg hx, henv]

theorem staysNonNull_fitsStmt {p : String} {s : Stmt} (h : p ∉ s.binds) : (Invariant.staysNonNull p).FitsStmt s where
  targets := by
    rintro x hx rfl
    exact h (List.mem_append_left _ hx)
  judges := by
    intro e he t ht
    unfold Invariant.FitsNode
    split
    · trivial
    · trivial
    · next target value =>
      refine ⟨?_, trivial⟩
      rintro rfl
      exact h (List.mem_append_right _ (List.mem_flatMap.mpr ⟨e, he, List.mem_filterMap.mpr ⟨_, ht, rfl⟩⟩))
    · trivial
  triesNone := fun _ => trivial

theorem all_exec_nonNull {p : String} {s : Stmt} (h : ∀ t ∈ s.nested, p ∉ t.binds) (state : State)
    (hs : state.All fun env => env.verdict p = .nonNull) : (s.exec state).All fun env => env.verdict p = .nonNull :=
  Invariant.all_exec (I := Invariant.staysNonNull p) (fun t ht => staysNonNull_fitsStmt (h t ht)) hs

theorem assume_nullCheck {e : Expr} {check : NullCheck} (h : e.nullCheck? = some check) {env : Env}
    (henv : env.verdict check.name = .nonNull) : e.meaning.assume check.assertsNull env = none := by
  rw [Expr.assume_of_nullCheck h, if_pos rfl]
  simp [Env.refine, henv]

theorem assume_excluded {p : String} {guard : Guard} (h : guard.excludes p = true) {state : State}
    (hs : state.All fun env => env.verdict p = .nonNull) :
    guard.test.assume (decide (guard.branch = .yes)) state = none := by
  unfold Guard.excludes Guard.nullCheck? at h
  split at h
  · next check hcheck =>
    simp only [Bool.and_eq_true, decide_eq_true_eq, beq_iff_eq] at h
    obtain ⟨rfl, hbranch⟩ := h
    rw [← hbranch]
    cases state with
    | none => rfl
    | some env => exact assume_nullCheck hcheck (State.all_some.mp hs)
  · cases h

def Spared (p : String) (sites : List Site) (states : List State) : Prop :=
  List.Forall₂ (fun site state => site.reachableWhenNonNull p = false → state = none) sites states

section

variable {p : String} {sites : List Site} {xs ys : List State}

theorem Spared.join (hx : Spared p sites xs) (hy : Spared p sites ys) :
    Spared p sites (List.zipWith State.join xs ys) := by
  induction hx generalizing ys with
  | nil =>
    cases hy
    exact .nil
  | cons hx _ ih =>
    cases hy with
    | cons hy hys => exact .cons (fun h => State.join_eq_none.mpr ⟨hx h, hy h⟩) (ih hys)

theorem spared_of_dead (hlen : sites.length = xs.length) (h : ∀ state ∈ xs, state.All fun _ => False) :
    Spared p sites xs := by
  refine List.forall₂_iff_zip.mpr ⟨hlen, fun hmem _ => ?_⟩
  exact State.all_false.mp (h _ (List.of_mem_zip hmem).2)

end

section

variable {p : String} {guards : List Guard} {state : State}

theorem spared_execBlock {b : List Stmt} (hb : ∀ s ∈ b, ∀ t ∈ s.nested, p ∉ t.binds)
    (h : ∀ s ∈ b, ∀ state : State, (state.All fun env => env.verdict p = .nonNull) →
      Spared p (s.sites guards) (s.exec state).returned)
    (hs : state.All fun env => env.verdict p = .nonNull) :
    Spared p (sitesOfBlock b guards) (execBlock b state).returned := by
  induction b generalizing state with
  | nil => exact .nil
  | cons s rest ih =>
    have hexec := all_exec_nonNull (hb s (by simp)) state hs
    have hrest := ih (fun t ht => hb t (List.mem_cons_of_mem _ ht)) (fun t ht => h t (List.mem_cons_of_mem _ ht))
      hexec.next
    exact List.rel_append (h s (by simp) state hs) hrest

theorem spared_branch (guard : Guard) {b : List Stmt} (hg : guards.any (·.excludes p) = false)
    (hs : state.All fun env => env.verdict p = .nonNull)
    (h : (guards ++ [guard]).any (·.excludes p) = false → Spared p (sitesOfBlock b (guards ++ [guard]))
      (execBlock b (guard.test.assume (decide (guard.branch = .yes)) state)).returned) :
    Spared p (sitesOfBlock b (guards ++ [guard]))
      (execBlock b (guard.test.assume (decide (guard.branch = .yes)) state)).returned := by
  cases hexcludes : guard.excludes p with
  | false => exact h (by simp [hg, hexcludes])
  | true =>
    have hlen := length_returned_execBlock (b := b) (fun s _ => length_returned_exec s) none (guards ++ [guard])
    rw [assume_excluded hexcludes hs]
    exact spared_of_dead hlen.symm (execBlock_none b).returned

theorem spared_execHandlers {hs : List Handler} (hb : ∀ c ∈ hs, ∀ s ∈ c.body, ∀ t ∈ s.nested, p ∉ t.binds)
    (hnames : ∀ x ∈ hs.flatMap fun h => h.name.toList, x ≠ p)
    (h : ∀ c ∈ hs, ∀ s ∈ c.body, ∀ state : State, (state.All fun env => env.verdict p = .nonNull) →
      Spared p (s.sites guards) (s.exec state).returned)
    (hstate : state.All fun env => env.verdict p = .nonNull) :
    Spared p (sitesOfHandlers hs guards) (execHandlers hs state).returned := by
  induction hs with
  | nil => exact .nil
  | cons c rest ih =>
    obtain ⟨forGroups, kind, name, body⟩ := c
    simp only [List.flatMap_cons, List.mem_append, or_imp, forall_and, Handler.name] at hnames
    have hentry : State.All (Invariant.staysNonNull p).holds (state.map (·.bindAll name.toList .nonNull)) :=
      hstate.map fun env henv => Invariant.holds_bindAll hnames.1 trivial henv
    have hbody := spared_execBlock (hb _ (List.mem_cons_self ..)) (h _ (List.mem_cons_self ..)) hentry
    exact List.rel_append hbody (ih (fun t ht => hb t (List.mem_cons_of_mem _ ht)) hnames.2
      (fun t ht => h t (List.mem_cons_of_mem _ ht)))

theorem spared_execCases {subject : Expr} {cs : List Case} (hb : ∀ c ∈ cs, ∀ s ∈ c.body, ∀ t ∈ s.nested, p ∉ t.binds)
    (hentry : ∀ c ∈ cs, (caseEntry subject c.pattern c.guard state).All fun env => env.verdict p = .nonNull)
    (h : ∀ c ∈ cs, ∀ s ∈ c.body, ∀ state : State, (state.All fun env => env.verdict p = .nonNull) →
      Spared p (s.sites guards) (s.exec state).returned) :
    Spared p (sitesOfCases cs guards) (execCases subject cs state).returned := by
  induction cs with
  | nil => exact .nil
  | cons c rest ih =>
    have hbody := spared_execBlock (hb c (by simp)) (h c (by simp)) (hentry c (by simp))
    have hrest := ih (fun t ht => hb t (List.mem_cons_of_mem _ ht)) (fun t ht => hentry t (List.mem_cons_of_mem _ ht))
      (fun t ht => h t (List.mem_cons_of_mem _ ht))
    obtain ⟨pattern, guard, body⟩ := c
    exact List.rel_append hbody hrest

theorem spared_iterate {round : State → Outcome} {sites : List Site}
    (hround : ∀ head : State, (head.All fun env => env.verdict p = .nonNull) →
      (round head).All (fun env => env.verdict p = .nonNull) ∧ Spared p sites (round head).returned)
    (fuel : Nat) (hs : state.All fun env => env.verdict p = .nonNull) :
    (iterate round fuel state).1.All (fun env => env.verdict p = .nonNull) ∧
      Spared p sites (iterate round fuel state).2.returned := by
  refine iterate_induction (O := fun o => Spared p sites o.returned) (fun head hhead => ?_) (fun _ _ => Spared.join)
    fuel hs
  obtain ⟨hout, hspared⟩ := hround head hhead
  have hjoin := fun {a b : Env} => (Invariant.staysNonNull p).join (a := a) (b := b)
  exact ⟨hspared, (hhead.join hjoin hout.next).join hjoin hout.continued⟩

end

theorem spared_exec {p : String} {s : Stmt} (h : ∀ t ∈ s.nested, p ∉ t.binds) {guards : List Guard}
    (hg : guards.any (·.excludes p) = false) {state : State} (hs : state.All fun env => env.verdict p = .nonNull) :
    Spared p (s.sites guards) (s.exec state).returned := by
  induction s generalizing guards state with
  | ret position value =>
    refine .cons (fun hsite => ?_) .nil
    simp [Site.reachableWhenNonNull, hg] at hsite
  | forLoop isAsync target iter body orelse ihb iho =>
    obtain ⟨hself, hb, ho⟩ := forall_mem_nested_forLoop.mp h
    have htarget := (staysNonNull_fitsStmt hself).targets
    have hround : ∀ head : State, (head.All fun env => env.verdict p = .nonNull) →
        (execBlock body (head.map (target.bind .unknown))).All (fun env => env.verdict p = .nonNull) ∧
          Spared p (sitesOfBlock body guards) (execBlock body (head.map (target.bind .unknown))).returned := by
      intro head hhead
      have henter : State.All (Invariant.staysNonNull p).holds (head.map (target.bind .unknown)) :=
        hhead.map fun env henv => Invariant.holds_bind htarget trivial henv
      exact ⟨Invariant.all_execBlock (fun s hs => all_exec_nonNull (hb s hs)) henter,
        spared_execBlock hb (fun s hs _ => ihb s hs (hb s hs) hg) henter⟩
    obtain ⟨hhead, hlast⟩ := spared_iterate hround _ hs
    exact List.rel_append hlast (spared_execBlock ho (fun s hs _ => iho s hs (ho s hs) hg) hhead)
  | whileLoop test body orelse ihb iho =>
    obtain ⟨hself, hb, ho⟩ := forall_mem_nested_whileLoop.mp h
    have htest := (staysNonNull_fitsStmt hself).judges test (by simp [Stmt.judges])
    have hround : ∀ head : State, (head.All fun env => env.verdict p = .nonNull) →
        (execBlock body (test.assume true head)).All (fun env => env.verdict p = .nonNull) ∧
          Spared p (sitesOfBlock body guards) (execBlock body (test.assume true head)).returned := by
      intro head hhead
      have henter := Invariant.all_assume htest true hhead
      exact ⟨Invariant.all_execBlock (fun s hs => all_exec_nonNull (hb s hs)) henter,
        spared_execBlock hb (fun s hs _ => ihb s hs (hb s hs) hg) henter⟩
    obtain ⟨hhead, hlast⟩ := spared_iterate hround _ hs
    exact List.rel_append hlast
      (spared_execBlock ho (fun s hs _ => iho s hs (ho s hs) hg) (Invariant.all_assume htest false hhead))
  | ifElse line test body orelse ihb iho =>
    obtain ⟨hself, hb, ho⟩ := forall_mem_nested_ifElse.mp h
    have htest := (staysNonNull_fitsStmt hself).judges test (by simp [Stmt.judges])
    have hstate : State.All (Invariant.staysNonNull p).holds (state.map test.effects) :=
      hs.map fun env henv => Invariant.holds_effects htest henv
    have hbody := spared_branch ⟨line, test, .yes⟩ (b := body) hg hstate fun hg' =>
      spared_execBlock hb (fun s hs _ => ihb s hs (hb s hs) hg') (Invariant.all_assume htest true hstate)
    have horelse := spared_branch ⟨line, test, .no⟩ (b := orelse) hg hstate fun hg' =>
      spared_execBlock ho (fun s hs _ => iho s hs (ho s hs) hg') (Invariant.all_assume htest false hstate)
    exact List.rel_append hbody horelse
  | withBlock isAsync items body ih =>
    obtain ⟨hself, hb⟩ := forall_mem_nested_withBlock.mp h
    have htargets := (staysNonNull_fitsStmt hself).targets
    have hentry : State.All (Invariant.staysNonNull p).holds (state.map (items.foldl bindItem ·)) :=
      hs.map fun env henv => Invariant.holds_bindItem htargets henv
    exact spared_execBlock hb (fun s hs _ => ih s hs (hb s hs) hg) hentry
  | matchCases subject cases ih =>
    obtain ⟨hself, hc⟩ := forall_mem_nested_matchCases.mp h
    have hentry := Invariant.all_caseEntries (staysNonNull_fitsStmt hself) hs
    have hcases := spared_execCases hc hentry fun c hcs s hs _ => ih c hcs s hs (hc c hcs s hs) hg
    simp only [Stmt.exec]
    split <;> exact hcases
  | tryBlock body handlers orelse final ihb ihh iho ihf =>
    obtain ⟨hself, hb, hh, ho, hf⟩ := forall_mem_nested_tryBlock.mp h
    have hnames := (staysNonNull_fitsStmt hself).targets
    have hjoin := fun {a b : Env} => (Invariant.staysNonNull p).join (a := a) (b := b)
    -- The states in which the four parts start keep the name non-null.
    have hbody := Invariant.all_execBlock (I := Invariant.staysNonNull p) (fun s hs => all_exec_nonNull (hb s hs)) hs
    have hentry := hs.join hjoin hbody.raised
    have hhandlers := Invariant.all_execHandlers hnames (fun c hc s hs => all_exec_nonNull (hh c hc s hs)) hentry
    have horelse := Invariant.all_execBlock (fun s hs => all_exec_nonNull (ho s hs)) hbody.next
    have hout := Outcome.All.followedBy hjoin hbody (.merge hjoin hhandlers horelse)
    refine List.rel_append (List.rel_append ?_ (List.rel_append ?_ ?_)) ?_
    · exact spared_execBlock hb (fun s hs _ => ihb s hs (hb s hs) hg) hs
    · exact spared_execHandlers hh hnames (fun c hc s hs _ => ihh c hc s hs (hh c hc s hs) hg) hentry
    · exact spared_execBlock ho (fun s hs _ => iho s hs (ho s hs) hg) hbody.next
    · exact spared_execBlock hf (fun s hs _ => ihf s hs (hf s hs) hg) (Invariant.all_finalEntry hout.next hentry)
  | annAssign target hint value => cases value <;> exact .nil
  | _ => exact .nil

theorem spared_returnStates {fn : Function} {entry : Env} {p : String} (hentry : entry.verdict p = .nonNull)
    (h : ∀ s ∈ nestedOfBlock fn.body, p ∉ s.binds) : Spared p fn.sites (fn.returnStates entry) := by
  have hb := forall_mem_nestedOfBlock.mp h
  exact spared_execBlock hb (fun s hs _ => spared_exec (hb s hs) rfl) (State.all_some.mpr hentry)

theorem returnState_of_excluded {fn : Function} {entry : Env} {p : String} (hentry : entry.verdict p = .nonNull)
    (h : ∀ s ∈ nestedOfBlock fn.body, p ∉ s.binds) {index : Nat} {site : Site} (hsite : fn.sites[index]? = some site)
    (hexcluded : site.reachableWhenNonNull p = false) : (fn.returnStates entry)[index]? = some none := by
  have hspared := spared_returnStates hentry h
  obtain ⟨hi, rfl⟩ := List.getElem?_eq_some_iff.mp hsite
  have hi' : index < (fn.returnStates entry).length := hspared.length_eq ▸ hi
  have hdead : (fn.returnStates entry)[index] = none := hspared.get hi hi' hexcluded
  rw [List.getElem?_eq_getElem hi', hdead]

def Candidate.required (c : Candidate) : List String :=
  match c.clause? with
  | some clause => ((clause.antecedent.zip c.subject.parameters).filter (·.1 = .nonNull)).map (·.2)
  | none => []

section

variable {c : Candidate} {clause : Clause}

theorem reachableUnder_of_mayBeNull (hc : c.Regular) (hclause : c.clause? = some clause)
    (h : ∀ p ∈ c.required, ∀ s ∈ nestedOfBlock c.function.body, p ∉ s.binds) {read : Reader} {entry : Env}
    (hentry : c.function.entry read (assumptions clause.antecedent c.subject.parameters) = .ok entry) {site : Site}
    {v : Nullness} (hsite : (site, v) ∈ c.function.judged entry) (hv : v.mayBeNull = true) :
    site.reachableUnder clause.antecedent c.subject.parameters = true := by
  refine List.all_eq_true.mpr ?_
  rintro ⟨constraint, p⟩ hp
  by_cases hconstraint : constraint = .nonNull
  · subst hconstraint
    have hrequired : p ∈ c.required := by
      rw [Candidate.required, hclause]
      exact List.mem_map.mpr ⟨_, List.mem_filter.mpr ⟨hp, by simp⟩, rfl⟩
    by_contra hreach
    obtain ⟨index, state, hindex, hstate, rfl⟩ := mem_judged hsite
    have hdead := returnState_of_excluded (hc.entry_nonNull hentry hp) (h p hrequired) hindex (by simpa using hreach)
    obtain rfl : state = none := Option.some.inj (hstate.symm.trans hdead)
    cases hv
  · simp [hconstraint]

theorem violationReports_eq (hc : c.Regular) (hclause : c.clause? = some clause)
    (h : ∀ p ∈ c.required, ∀ s ∈ nestedOfBlock c.function.body, p ∉ s.binds) {read : Reader} {entry : Env}
    (hentry : c.function.entry read (assumptions clause.antecedent c.subject.parameters) = .ok entry) :
    violationReports Site.reachableUnder c.subject clause (c.function.judged entry) =
      violationReports (fun _ _ _ => true) c.subject clause (c.function.judged entry) := by
  unfold violationReports
  congr 2
  refine List.filter_congr ?_
  rintro ⟨site, v⟩ hsite
  simpa using reachableUnder_of_mayBeNull hc hclause h hentry hsite

end

theorem guards_agree_with_flow (read : Reader) :
    (∀ (fn : Function) (assumed entry : Env) (p : String), fn.entry read assumed = .ok entry →
      entry.verdict p = .nonNull → (∀ s ∈ nestedOfBlock fn.body, p ∉ s.binds) →
      ∀ (index : Nat) (site : Site), fn.sites[index]? = some site → site.reachableWhenNonNull p = false →
        (fn.returnStates entry)[index]? = some none ∧ flowOracle read fn assumed index site = .ok .nonNull) ∧
    ∀ (deep : Bool) (c : Candidate), c.Regular →
      (∀ p ∈ c.required, ∀ s ∈ nestedOfBlock c.function.body, p ∉ s.binds) →
      (check (flowOracle read) deep c).map (·.diagnostics) =
        (checkBy (flowOracle read) (fun _ _ _ => true) deep c).map (·.diagnostics) := by
  constructor
  · intro fn assumed entry p hentry hp h index site hsite hexcluded
    have hdead := returnState_of_excluded hp h hsite hexcluded
    refine ⟨hdead, ?_⟩
    rw [flowOracle_of_entry hentry, hdead]
    rfl
  · intro deep c hc h
    rcases deepCheckable_or_textual deep c with ⟨clause, hclause, hdeep⟩ | ⟨checked, hchecked, -⟩
    · rw [check, diagnostics_of_deepCheckable hclause hdeep, diagnostics_of_deepCheckable hclause hdeep]
      cases hentry : c.function.entry read (assumptions clause.antecedent c.subject.parameters) with
      | ok entry =>
        rw [verdicts_of_entry hentry]
        simp only [Except.map, violationReports_eq hc hclause h hentry]
      | error e =>
        rw [verdicts_of_entry_error hentry]
        split <;> rfl
    · rw [check, hchecked, hchecked]

def guarded : Function :=
  .plain "guarded" ["x", "y"] [
    .whileLoop (.name "y")
      [.tryBlock [.ifElse 4 (.not (.compare (.name "x") [.isNot] [.literal .none])) [.ret ⟨5, 12⟩ none] [.continue]]
        [] [] [.assign [.name "y"] (.name "x")]]
      [],
    .ret ⟨8, 4⟩ (some (.name "x"))]

theorem guards_agree_with_flow_guarded :
    ((guarded.returnStates (((∅ : Env).insert "x" .nonNull).insert "y" .unknown))[0]? = some none ∧
      flowOracle readLiteral guarded ((∅ : Env).insert "x" .nonNull) 0
        ⟨⟨5, 12⟩, none, [⟨4, .not (.compare (.name "x") [.isNot] [.literal .none]), .yes⟩]⟩ = .ok .nonNull) ∧
    (check (flowOracle readLiteral) true (guarded.under "!null, _ -> !null")).map
        (·.diagnostics) =
      (checkBy (flowOracle readLiteral) (fun _ _ _ => true) true
        (guarded.under "!null, _ -> !null")).map (·.diagnostics) := by
  obtain ⟨hdead, hsame⟩ := guards_agree_with_flow readLiteral
  have hentry : guarded.entry readLiteral ((∅ : Env).insert "x" .nonNull) =
      .ok (((∅ : Env).insert "x" .nonNull).insert "y" .unknown) := rfl
  have hunbound : ∀ s ∈ nestedOfBlock guarded.body, "x" ∉ s.binds := by decide
  have hregular : (guarded.under "!null, _ -> !null").Regular := ⟨⟨false, rfl⟩, by decide, rfl⟩
  have hrequired : (guarded.under "!null, _ -> !null").required = ["x"] := by decide +kernel
  constructor
  · exact hdead guarded _ _ "x" hentry (by decide) hunbound 0 _ rfl (by decide)
  · refine hsame true (guarded.under "!null, _ -> !null") hregular ?_
    rw [hrequired]
    exact List.forall_mem_singleton.mpr hunbound

end NullContract
