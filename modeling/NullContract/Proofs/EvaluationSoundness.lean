import NullContract.Proofs.Evaluation

/-!
The verdict on an expression allows every value that an evaluation may give it, if the verdict is read from names that the
expression does not assign. Assignments on the way then change nothing that matters: the store is looked at only for the
names that the verdict is read from.
-/

namespace NullContract

namespace Expr

mutual
def observed : Expr → List String
  | name id => [id]
  | walrus _ value => value.observed
  | not operand => operand.observed
  | junction _ operands => observedOfList operands
  | compare left ops rights => (NullCheck.ofCompare? left ops rights).toList.map NullCheck.name
  | cond test body orelse => test.observed ++ body.observed ++ orelse.observed
  | call callee args _ => callee.observed ++ (Meaning.typeTest? callee args).toList
  | literal _ | keyword _ _ | member _ _ | subscript _ _ | starred _ | tuple _ | list _ | binary _ _ _ | form _ _ => []

def observedOfList : List Expr → List String
  | [] => []
  | e :: rest => e.observed ++ observedOfList rest
end

/-- An expression whose verdict is read from the given names, none of which it assigns. None of its assignments is to a
name that its own value assigns, and no type test in it hides that it is for `None`. -/
structure JudgedBy (e : Expr) (names : List String) : Prop where
  observed : ∀ x ∈ e.observed, x ∈ names
  assigned : ∀ x ∈ e.assigned, x ∉ names
  settled : ∀ p ∈ e.assignments, p.1 ∉ p.2.assigned
  overt : ∀ kinds ∈ e.testedTypes, ¬ kinds.HidesNone

section

variable {names : List String}

theorem JudgedBy.mono {e c : Expr} (h : e.JudgedBy names) (hassigns : ∀ p ∈ c.assignments, p ∈ e.assignments)
    (hobserved : ∀ x ∈ c.observed, x ∈ e.observed) (htypes : ∀ kinds ∈ c.testedTypes, kinds ∈ e.testedTypes) :
    c.JudgedBy names where
  observed := fun x hx => h.observed x (hobserved x hx)
  assigned := by
    intro x hx
    obtain ⟨v, hv⟩ := mem_assigned.mp hx
    exact h.assigned x (mem_assigned.mpr ⟨v, hassigns _ hv⟩)
  settled := fun p hp => h.settled p (hassigns p hp)
  overt := fun kinds hkinds => h.overt kinds (htypes kinds hkinds)

theorem JudgedBy.child {e c : Expr} (h : e.JudgedBy names) (hc : c ∈ e.children)
    (hobserved : ∀ x ∈ c.observed, x ∈ e.observed) (htypes : ∀ kinds ∈ c.testedTypes, kinds ∈ e.testedTypes) :
    c.JudgedBy names :=
  h.mono (fun _ => mem_assignments_of_child hc) hobserved htypes

theorem JudgedBy.head {op : Junctor} {e : Expr} {rest : List Expr} (h : (junction op (e :: rest)).JudgedBy names) :
    e.JudgedBy names :=
  h.child List.mem_cons_self (fun _ => List.mem_append_left _) fun _ => List.mem_append_left _

theorem JudgedBy.tail {op : Junctor} {e : Expr} {rest : List Expr} (h : (junction op (e :: rest)).JudgedBy names) :
    (junction op rest).JudgedBy names := by
  refine h.mono (fun p hp => ?_) (fun _ => List.mem_append_right _) fun _ => List.mem_append_right _
  obtain ⟨c, hc, hp⟩ := (mem_assignments.mp hp).resolve_left List.not_mem_nil
  exact mem_assignments_of_child (List.mem_cons_of_mem _ hc) hp

theorem JudgedBy.cond {test body orelse : Expr} (h : (cond test body orelse).JudgedBy names) :
    test.JudgedBy names ∧ body.JudgedBy names ∧ orelse.JudgedBy names := by
  refine ⟨h.child ?_ ?_ ?_, h.child ?_ ?_ ?_, h.child ?_ ?_ ?_⟩
  all_goals simp +contextual [children, Expr.observed, testedTypes]

end

end Expr

namespace Store

def only (σ : Store) (names : List String) : Store :=
  fun x => if x ∈ names then σ x else none

variable {σ : Store} {names : List String} {x : String} {env : Env}

theorem only_of_mem (h : x ∈ names) : σ.only names x = σ x :=
  if_pos h

theorem only_of_not_mem (h : x ∉ names) : σ.only names x = none :=
  if_neg h

theorem fits_only (h : ∀ x ∈ names, slotFits env[x]? (σ x)) : (σ.only names).Fits env := by
  intro x
  by_cases hx : x ∈ names
  · rw [only_of_mem hx]
    exact h x hx
  · rw [only_of_not_mem hx]
    trivial

theorem Fits.insert_of_none (h : σ.Fits env) (hx : σ x = none) (n : Nullness) : σ.Fits (env.insert x n) := by
  intro y
  rw [Env.getElem?_insert]
  split
  · next hy =>
    rw [← hy, hx]
    trivial
  · exact h y

theorem Fits.assignAll {ps : List (String × Expr)} (h : σ.Fits env) (hfree : ∀ p ∈ ps, σ p.1 = none) :
    σ.Fits (assignAll ps env) :=
  assignAll_induction (P := σ.Fits) (fun p hp _ n h => h.insert_of_none (hfree p hp) n) h

theorem Fits.effects {e : Expr} (h : σ.Fits env) (hfree : ∀ x ∈ e.assigned, σ x = none) : σ.Fits (e.effects env) := by
  rw [Expr.effects_eq_assignAll]
  exact h.assignAll fun p hp => hfree p.1 (Expr.mem_assigned.mpr ⟨p.2, hp⟩)

end Store

theorem sound_walrus {σ : Store} {env : Env} {x : String} {value : Expr} {v : Value} (henv : σ.Fits env)
    (hfree : ∀ y ∈ (Expr.walrus x value).assigned, σ y = none) (hx : x ∉ value.assigned) (h : Sound σ env value v) :
    Sound σ env (.walrus x value) v where
  value := h.value
  assume := by
    have hfits : σ.Fits ((Expr.walrus x value).effects env) := henv.effects hfree
    have hunbound : σ x = none := hfree x (Expr.target_mem_assigned x value)
    have hverdict : Env.verdict ((Expr.walrus x value).effects env) x = value.evaluate env := by
      rw [Env.verdict, Expr.effects_walrus, Expr.getElem?_effects_of_not_assigned hx, Env.getElem?_insert, if_pos rfl]
      rfl
    change (Meaning.assumeName x v.truth ((Expr.walrus x value).effects env)).Admits σ
    unfold Meaning.assumeName
    split
    · next htrue =>
      have hadmits := h.value
      have hne := Value.ne_none_of_truth htrue
      refine ⟨_, Env.refine_eq_some.mpr ⟨?_, ?_, rfl⟩, hfits.insert_of_none hunbound .nonNull⟩
      · rintro ⟨hnull, -⟩
        cases hnull
      · rintro ⟨-, hnull⟩
        rw [← hverdict, hnull] at hadmits
        exact hne hadmits
    · exact .of_fits hfits

theorem isBuilt_or_isOpen_of_evaluatesParts {e : Expr} (h : e.evaluatesParts = true) :
    e.isBuilt = true ∨ e.isOpen = true := by
  cases e with
  | keyword | member | subscript | starred => exact .inr rfl
  | list | binary => exact .inl rfl
  | form kind parts => cases kind <;> first | exact .inl rfl | exact .inr rfl
  | _ => cases h

theorem isBuilt_of_opensScope {e : Expr} (h : e.opensScope = true) : e.isBuilt = true := by
  cases e with
  | form kind parts => cases kind <;> first | rfl | cases h
  | _ => cases h

namespace Evals

variable {σ σ' : Store} {e : Expr} {v : Value} {made : List (String × Expr)} {names : List String}

theorem only_eq (h : Evals σ e v made σ') (hnames : ∀ x ∈ e.assigned, x ∉ names) : σ'.only names = σ.only names := by
  funext x
  by_cases hx : x ∈ names
  · rw [Store.only_of_mem hx, Store.only_of_mem hx]
    refine h.eq_of_not_made fun hmade => ?_
    obtain ⟨p, hp, rfl⟩ := List.mem_map.mp hmade
    exact hnames p.1 (Expr.mem_assigned.mpr ⟨p.2, h.made_subset hp⟩) hx
  · rw [Store.only_of_not_mem hx, Store.only_of_not_mem hx]

theorem yields_side (h : Evals σ e v made σ') (he : (∃ id ∈ names, e = .name id) ∨ e = .literal .none) :
    Yields (σ.only names) e v := by
  rcases he with ⟨id, hid, rfl⟩ | rfl
  · cases h with
    | name h =>
      refine .name ?_
      rw [Store.only_of_mem hid, h]
    | parts he => cases he
    | scope he => cases he
  · cases h with
    | literal => exact .literal .none
    | parts he => cases he
    | scope he => cases he

theorem sound_nullTest {τ : Store} {env : Env} (henv : (σ.only names).Fits env) {op : Comparison} {asserts : Bool}
    (hop : op.assertsNull? = some asserts) {left right : Expr} {a b : Value} {more : List (String × Expr)}
    (hl : Evals σ left a made τ) (hr : Evals τ right b more σ') (h : (Expr.compare left [op] [right]).JudgedBy names) :
    Sound (σ.only names) env (.compare left [op] [right]) (.ofBool (decide (a = b) = asserts)) := by
  cases hcheck : NullCheck.ofCompare? left [op] [right] with
  | none =>
    refine ⟨Value.ofBool_ne_none _, ?_⟩
    simp only [Expr.meaning, Meaning.compare, hcheck]
    exact .of_fits henv
  | some check =>
    have hname : check.name ∈ names := h.observed _ (by simp [Expr.observed, hcheck])
    have hleft : ∀ x ∈ left.assigned, x ∉ names := by
      intro x hx
      obtain ⟨u, hu⟩ := Expr.mem_assigned.mp hx
      exact h.assigned x (Expr.mem_assigned.mpr ⟨u, Expr.mem_assignments_of_child List.mem_cons_self hu⟩)
    obtain ⟨_, _, _, -, hrights, -, hsides⟩ := NullCheck.ofCompare?_eq_some hcheck
    cases hrights
    have hright : Yields (σ.only names) right b := by
      rw [← hl.only_eq hleft]
      exact hr.yields_side (hsides.symm.imp (fun hs => ⟨_, hname, hs.2⟩) And.right)
    exact NullContract.sound_nullTest henv hop (hl.yields_side (hsides.imp (fun hs => ⟨_, hname, hs.1⟩) And.left)) hright

theorem sound (h : Evals σ e v made σ') (hjudged : e.JudgedBy names) {env : Env} (henv : (σ.only names).Fits env) :
    Sound (σ.only names) env e v := by
  induction h generalizing env with
  | literal lit => exact sound_literal henv lit
  | name h =>
    refine sound_name henv ?_
    rw [Store.only_of_mem (hjudged.observed _ (List.mem_singleton_self _)), h]
  | @walrus σ τ target value v made _ ih =>
    have hvalue : value.JudgedBy names := hjudged.child (List.mem_singleton_self _) (fun _ hx => hx) fun _ hx => hx
    refine sound_walrus henv (fun y hy => Store.only_of_not_mem (hjudged.assigned y hy)) ?_ (ih hvalue henv)
    exact hjudged.settled (target, value) (Expr.mem_assignments.mpr (.inl (List.mem_singleton_self _)))
  | not _ ih => exact sound_not (ih (hjudged.child (List.mem_singleton_self _) (fun _ hx => hx) fun _ hx => hx) henv)
  | lastOperand _ ih => exact sound_lastOperand (ih hjudged.head henv)
  | decides _ hv ih => exact sound_decides (ih hjudged.head henv) hv
  | goesOn h hw _ ih ihrest =>
    refine sound_goesOn (ih hjudged.head henv) hw ?_
    rw [← h.only_eq hjudged.head.assigned]
    exact ihrest hjudged.tail
  | @same _ _ _ op _ _ _ _ _ _ hop _ hl hr _ _ =>
    have hasserts : op.assertsNull? = some true := by rcases hop with rfl | rfl <;> rfl
    simpa using sound_nullTest henv hasserts hl hr hjudged
  | @differs _ _ _ op _ _ _ _ _ _ hop _ hl hr _ _ =>
    have hasserts : op.assertsNull? = some false := by rcases hop with rfl | rfl <;> rfl
    simpa using sound_nullTest henv hasserts hl hr hjudged
  | compare h _ hv _ _ => exact sound_compare henv h hv
  | condTrue ht hw _ iht ih =>
    obtain ⟨htest, hbody, -⟩ := hjudged.cond
    rw [ht.only_eq htest.assigned] at ih
    exact sound_cond henv (iht htest henv) (fun _ _ hfits => (ih hbody hfits).value)
      (fun hf => absurd (hf.symm.trans hw) (by decide))
  | condFalse ht hw _ iht ih =>
    obtain ⟨htest, -, horelse⟩ := hjudged.cond
    rw [ht.only_eq htest.assigned] at ih
    exact sound_cond henv (iht htest henv) (fun ht => absurd (ht.symm.trans hw) (by decide))
      (fun _ _ hfits => (ih horelse hfits).value)
  | call _ h _ =>
    refine sound_call henv ⟨fun id hid hcallee hunbound => ?_, fun id kinds hcallee hargs hkinds htrue => ?_⟩ hjudged.overt
    · subst hcallee
      rw [Store.only_of_mem (hjudged.observed id (by simp [Expr.observed]))] at hunbound
      exact h.builtin id hid rfl hunbound
    · have hquiet : kinds.mentionsNone = false :=
        Expr.mentionsNone_eq_false.mpr fun t ht hnames => hkinds ⟨t, ht, hnames.spellsNone⟩
      have hid : id ∈ names := by
        refine hjudged.observed id ?_
        simp [Expr.observed, hcallee, hargs, Meaning.typeTest?, hquiet]
      rw [Store.only_of_mem hid]
      exact h.typeTest id kinds hcallee hargs hkinds htrue
  | parts he _ hv _ =>
    rcases isBuilt_or_isOpen_of_evaluatesParts he with hbuilt | hopen
    · exact sound_built henv hbuilt (hv hbuilt)
    · exact sound_opens henv hopen
  | scope he _ hv => exact sound_built henv (isBuilt_of_opensScope he) hv
  | nil hv => exact sound_built henv rfl hv
  | cons _ _ hv _ _ => exact sound_built henv rfl hv
  | outside _ hv _ => exact sound_built henv rfl hv

end Evals

end NullContract
