import NullContract.Proofs.EvaluationSoundness

/-!
What the assignments inside an expression leave in the store, against what the analysis takes them to leave. The analysis
makes every assignment, those less deep first. It is right about a name if the assignment it makes last is also the last one
that the evaluation makes, and if up to there it is right about the names that the assigned value is judged by.
-/

namespace NullContract

/-- The assignments lead from the first store to the second. The verdict on each assigned value that is not judged by its own
assignments allows what is assigned, in every environment that allows the names it is judged by. -/
def Replays : List (String × Expr) → Store → Store → Prop
  | [], σ, σ' => σ' = σ
  | (x, v) :: rest, σ, σ' =>
    ∃ w, (v.JudgedBy v.observed → ∀ env, (σ.only v.observed).Fits env → (v.evaluate env).Admits w) ∧
      Replays rest (σ.set x (some w)) σ'

section

variable {made more : List (String × Expr)} {σ σ' : Store}

theorem replays_append : Replays (made ++ more) σ σ' ↔ ∃ τ, Replays made σ τ ∧ Replays more τ σ' := by
  induction made generalizing σ with
  | nil => simp [Replays]
  | cons p made ih =>
    simp only [List.cons_append, Replays, ih]
    constructor
    · rintro ⟨w, hw, τ, hmade, hmore⟩
      exact ⟨τ, ⟨w, hw, hmade⟩, hmore⟩
    · rintro ⟨τ, ⟨w, hw, hmade⟩, hmore⟩
      exact ⟨w, hw, τ, hmade, hmore⟩

theorem Replays.eq_of_not_mem {x : String} (h : Replays made σ σ') (hx : x ∉ made.map Prod.fst) : σ' x = σ x := by
  induction made generalizing σ with
  | nil => rw [h]
  | cons p made ih =>
    obtain ⟨w, -, hrest⟩ := h
    rw [List.map_cons, List.mem_cons, not_or] at hx
    rw [ih hrest hx.2, Store.set, Function.update_of_ne hx.1]

end

theorem Evals.replays {σ σ' : Store} {e : Expr} {v : Value} {made : List (String × Expr)} (h : Evals σ e v made σ') :
    Replays made σ σ' := by
  induction h with
  | literal | name | scope | nil => rfl
  | walrus h ih =>
    refine replays_append.mpr ⟨_, ih, _, fun hjudged env henv => ?_, rfl⟩
    rw [h.only_eq hjudged.assigned] at henv
    exact (h.sound hjudged henv).value
  | not _ ih | lastOperand _ ih | decides _ _ ih | compare _ _ _ _ ih | call _ _ ih | parts _ _ _ ih | outside _ _ ih =>
    exact ih
  | goesOn _ _ _ ih ihrest | same _ _ _ _ ih ihrest | differs _ _ _ _ ih ihrest | condTrue _ _ _ ih ihrest
  | condFalse _ _ _ ih ihrest | cons _ _ _ ih ihrest => exact replays_append.mpr ⟨_, ih, ihrest⟩

/-- `Follows skipped made all x`: the assignments `made` and `all` come to the same for `x`. Neither of them assigns it, or the
last value that both of them assign to it is the same one, it is not judged by its own assignments, and those before it come to
the same for the names that it is judged by. Nothing is said of the names in `skipped`, once they are assigned. -/
inductive Follows (skipped : List String) : List (String × Expr) → List (String × Expr) → String → Prop where
  | untouched {made all : List (String × Expr)} {x : String} (hmade : x ∉ made.map Prod.fst)
      (hall : x ∉ all.map Prod.fst) : Follows skipped made all x
  | assigned {before after before' after' : List (String × Expr)} {x : String} {v : Expr} (hx : x ∉ skipped)
      (hafter : x ∉ after.map Prod.fst) (hafter' : x ∉ after'.map Prod.fst) (hv : v.JudgedBy v.observed)
      (hobserved : ∀ y ∈ v.observed, Follows skipped before before' y) :
      Follows skipped (before ++ (x, v) :: after) (before' ++ (x, v) :: after') x

theorem getElem?_assignAll {before after : List (String × Expr)} {x : String} {v : Expr} (hx : x ∉ after.map Prod.fst)
    (env : Env) : (assignAll (before ++ (x, v) :: after) env)[x]? = some (v.evaluate (assignAll before env)) := by
  rw [assignAll, List.foldl_append, List.foldl_cons]
  refine (getElem?_assignAll_of_not_mem hx).trans ?_
  rw [Env.getElem?_insert, if_pos rfl]
  rfl

namespace Follows

variable {skipped : List String} {made all : List (String × Expr)} {x : String}

theorem slotFits {σ σ' : Store} {env : Env} (h : Follows skipped made all x) (hmade : Replays made σ σ')
    (henv : σ.Fits env) : slotFits (assignAll all env)[x]? (σ' x) := by
  induction h generalizing σ' with
  | untouched hx hall =>
    rw [hmade.eq_of_not_mem hx, getElem?_assignAll_of_not_mem hall]
    exact henv _
  | assigned _ hafter hafter' hv _ ih =>
    obtain ⟨τ, hbefore, w, hw, hrest⟩ := replays_append.mp hmade
    rw [getElem?_assignAll hafter', hrest.eq_of_not_mem hafter, Store.set, Function.update_self]
    exact hw hv _ (Store.fits_only fun y hy => ih y hy hbefore)

theorem of_leavesOut {ordered : List (String × Expr)} (h : Follows skipped ordered all x)
    (hmade : LeavesOut skipped made ordered) : Follows [] made all x := by
  induction h generalizing made with
  | untouched hx hall => exact .untouched (hmade.not_mem_map_fst hx) hall
  | assigned hx hafter hafter' hv _ ih =>
    obtain ⟨before, after, rfl, hbefore, hrest⟩ := hmade.split hx
    exact .assigned List.not_mem_nil (hrest.not_mem_map_fst hafter) hafter' hv fun y hy => ih y hy hbefore

theorem exists_last {ps : List (String × Expr)} (h : x ∈ ps.map Prod.fst) :
    ∃ before v after, ps = before ++ (x, v) :: after ∧ x ∉ after.map Prod.fst := by
  induction ps with
  | nil => cases h
  | cons p ps ih =>
    by_cases hps : x ∈ ps.map Prod.fst
    · obtain ⟨before, v, after, rfl, hafter⟩ := ih hps
      exact ⟨p :: before, v, after, rfl, hafter⟩
    · obtain rfl : x = p.1 := (List.mem_cons.mp h).resolve_right hps
      exact ⟨[], p.2, ps, rfl, hps⟩

theorem of_unique {e u : Expr} (hx : x ∉ skipped) (hunique : ∀ p ∈ e.assignments, p.1 = x → p.2 = u)
    (hu : u.JudgedBy u.observed) (hobserved : ∀ y ∈ u.observed, y ∉ e.assigned) :
    Follows skipped e.inOrder e.assignments x := by
  have hnames : ∀ {y : String}, y ∈ e.inOrder.map Prod.fst ↔ y ∈ e.assignments.map Prod.fst := by
    simp [List.mem_map, Expr.mem_inOrder]
  have hassigned : ∀ {y : String}, y ∈ e.assignments.map Prod.fst → y ∈ e.assigned := by
    intro y hy
    obtain ⟨p, hp, rfl⟩ := List.mem_map.mp hy
    exact Expr.mem_assigned.mpr ⟨p.2, hp⟩
  by_cases hmem : x ∈ e.assignments.map Prod.fst
  · obtain ⟨before, v, after, hordered, hafter⟩ := exists_last (hnames.mpr hmem)
    obtain ⟨before', v', after', hall, hafter'⟩ := exists_last hmem
    obtain rfl : v = u := hunique (x, v) (Expr.mem_inOrder.mp (by simp [hordered])) rfl
    obtain rfl : v' = v := hunique (x, v') (by simp [hall]) rfl
    rw [hordered] at hnames ⊢
    rw [hall] at hnames hassigned ⊢
    refine .assigned hx hafter hafter' hu fun y hy => ?_
    have hfree : y ∉ (before' ++ (x, v') :: after').map Prod.fst := fun h => hobserved y hy (hassigned h)
    refine .untouched (fun h => hfree (hnames.mp ?_)) fun h => hfree ?_
    · rw [List.map_append]
      exact List.mem_append_left _ h
    · rw [List.map_append]
      exact List.mem_append_left _ h
  · exact .untouched (mt hnames.mp hmem) hmem

end Follows

theorem effects_fit_iff {e : Expr} {env : Env} {σ σ' : Store} {v : Value} {made : List (String × Expr)}
    (henv : σ.Fits env) (heval : Evals σ e v made σ') :
    (σ'.Fits (e.effects env) ↔
      ∀ x, ¬ Follows [] made e.assignments x → slotFits (e.effects env)[x]? (σ' x)) ∧
    (∀ x ∉ made.map Prod.fst, σ' x = σ x) ∧
    (∀ x, Follows e.skippable e.inOrder e.assignments x → slotFits (e.effects env)[x]? (σ' x)) ∧
    ∀ x ∉ e.skippable, ∀ u : Expr, (∀ p ∈ e.assignments, p.1 = x → p.2 = u) → u.JudgedBy u.observed →
      (∀ y ∈ u.observed, y ∉ e.assigned) → slotFits (e.effects env)[x]? (σ' x) := by
  have hfollows : ∀ x, Follows [] made e.assignments x → slotFits (e.effects env)[x]? (σ' x) := by
    intro x hx
    rw [Expr.effects_eq_assignAll]
    exact hx.slotFits heval.replays henv
  have hordered : ∀ x, Follows e.skippable e.inOrder e.assignments x → slotFits (e.effects env)[x]? (σ' x) :=
    fun x hx => hfollows x (hx.of_leavesOut heval.leavesOut)
  refine ⟨⟨fun h x _ => h x, fun h x => ?_⟩, fun x hx => heval.eq_of_not_made hx, hordered,
    fun x hx u hunique hu hobserved => hordered x (.of_unique hx hunique hu hobserved)⟩
  by_cases hx : Follows [] made e.assignments x
  · exact hfollows x hx
  · exact h x hx

def passesBoth : Expr :=
  .call (.name "pair") [.walrus "m" (.junction .or [.name "s", .literal (.int 0)]), .walrus "n" (.name "m")] []

theorem inOrder_passesBoth :
    passesBoth.inOrder = [("m", .junction .or [.name "s", .literal (.int 0)]), ("n", .name "m")] := by
  simp [passesBoth, Expr.inOrder_eq, Expr.operands, Expr.children, Expr.ownAssignment]

theorem assignments_passesBoth :
    passesBoth.assignments = [("m", .junction .or [.name "s", .literal (.int 0)]), ("n", .name "m")] := by
  simp [passesBoth, Expr.assignments, Expr.levels_eq, Expr.children, Expr.ownAssignment, Meaning.mergeLevels]

theorem judgedBy_of_assigned_eq_nil {e : Expr} (h : e.assigned = []) (htypes : e.testedTypes = []) :
    e.JudgedBy e.observed := by
  have hnone : ∀ x, x ∉ e.assigned := by simp [h]
  refine ⟨fun _ hx => hx, fun x hx => absurd hx (hnone x), fun p hp => ?_, fun kinds hkinds => ?_⟩
  · exact absurd (Expr.mem_assigned.mpr ⟨p.2, hp⟩) (hnone p.1)
  · rw [htypes] at hkinds
    cases hkinds

theorem follows_passesBoth (x : String) : Follows passesBoth.skippable passesBoth.inOrder passesBoth.assignments x := by
  have hm : ∀ after, "m" ∉ after.map Prod.fst → Follows passesBoth.skippable
      (("m", .junction .or [.name "s", .literal (.int 0)]) :: after)
      (("m", .junction .or [.name "s", .literal (.int 0)]) :: after) "m" := by
    intro after hafter
    refine @Follows.assigned _ [] after [] after "m" _ (by decide) hafter hafter
      (judgedBy_of_assigned_eq_nil (by decide) rfl) fun y _ => ?_
    exact .untouched List.not_mem_nil List.not_mem_nil
  rw [inOrder_passesBoth, assignments_passesBoth]
  by_cases hn : x = "n"
  · subst hn
    refine @Follows.assigned _ [_] [] [_] [] "n" _ (by decide) List.not_mem_nil List.not_mem_nil
      (judgedBy_of_assigned_eq_nil (by decide) rfl) fun y hy => ?_
    obtain rfl : y = "m" := List.mem_singleton.mp hy
    exact hm [] List.not_mem_nil
  · by_cases hx : x = "m"
    · subst hx
      exact hm _ (by simp)
    · exact .untouched (by simp [hn, hx]) (by simp [hn, hx])

def holdsNoText : Store := Store.set (fun _ => none) "s" (some .none)

theorem evals_passesBoth :
    Evals holdsNoText passesBoth .truthy [("m", .junction .or [.name "s", .literal (.int 0)]), ("n", .name "m")]
      ((holdsNoText.set "m" (some .falsy)).set "n" (some .falsy)) := by
  have hdefault : Evals holdsNoText (.junction .or [.name "s", .literal (.int 0)]) .falsy [] holdsNoText :=
    .goesOn (.name rfl) rfl (.lastOperand (.literal (.int 0)))
  have hfirst : Evals holdsNoText (.walrus "m" (.junction .or [.name "s", .literal (.int 0)])) .falsy _ _ := .walrus hdefault
  have hsecond : Evals (holdsNoText.set "m" (some .falsy)) (.walrus "n" (.name "m")) .falsy _ _ := .walrus (.name rfl)
  have hboth := Evals.cons (v := .truthy) hfirst (.cons (v := .truthy) hsecond (.nil (v := .truthy) (by decide)) (by decide))
    (by decide)
  exact .call (.outside (v := .truthy) hboth (by decide)) ⟨fun _ _ _ _ => by decide, nofun⟩

theorem effects_fit_iff_passesBoth :
    holdsNoText.Fits ((∅ : Env).insert "s" .nullable) ∧
    Store.Fits ((holdsNoText.set "m" (some .falsy)).set "n" (some .falsy))
      (passesBoth.effects ((∅ : Env).insert "s" .nullable)) := by
  have hfits : holdsNoText.Fits ((∅ : Env).insert "s" .nullable) := Store.Fits.set (fun _ => trivial) trivial
  exact ⟨hfits, fun x => (effects_fit_iff hfits evals_passesBoth).2.2.1 x (follows_passesBoth x)⟩

def assignsIfTrue : Expr :=
  .junction .and [.name "c", .walrus "x" (.literal (.int 1))]

def assignsTwice : Expr :=
  .walrus "x" (.junction .or [.walrus "x" (.literal .none), .literal (.int 1)])

theorem effects_assignsIfTrue (env : Env) : (assignsIfTrue.effects env)["x"]? = some .nonNull := by
  have heffects : assignsIfTrue.effects env = env.insert "x" .nonNull := rfl
  rw [heffects, Env.getElem?_insert, if_pos rfl]

theorem effects_assignsTwice (env : Env) : (assignsTwice.effects env)["x"]? = some .null := by
  rw [assignsTwice, Expr.effects_walrus]
  generalize env.insert "x" _ = env'
  have heffects : (Expr.junction .or [.walrus "x" (.literal .none), .literal (.int 1)]).effects env' =
      env'.insert "x" .null := rfl
  rw [heffects, Env.getElem?_insert, if_pos rfl]

/-- A skipped assignment is taken for made, and of two assignments the deeper one for the last, though it is made first. -/
theorem not_effects_fit :
    ¬ (∀ (env : Env) (σ σ' : Store) v made, σ.Fits env → Evals σ assignsIfTrue v made σ' →
      σ'.Fits (assignsIfTrue.effects env)) ∧
    ¬ ∀ (env : Env) (σ σ' : Store) v made, σ.Fits env → Evals σ assignsTwice v made σ' →
      σ'.Fits (assignsTwice.effects env) := by
  constructor
  · intro h
    let σ : Store := (Store.set (fun _ => none) "c" (some .falsy)).set "x" (some .none)
    have hfits : σ.Fits (((∅ : Env).insert "c" .unknown).insert "x" .null) :=
      Store.Fits.set (Store.Fits.set (fun _ => trivial) trivial) rfl
    have hx := h _ σ σ .falsy [] hfits (.decides (.name rfl) rfl) "x"
    rw [effects_assignsIfTrue] at hx
    exact hx rfl
  · intro h
    let σ : Store := fun _ => none
    have hnone : Evals σ (.walrus "x" (.literal .none)) .none _ _ := .walrus (.literal .none)
    have hone : Evals (σ.set "x" (some .none)) (.junction .or [.literal (.int 1)]) .truthy [] _ :=
      .lastOperand (.literal (.int 1))
    have hx := h ∅ σ _ .truthy _ (fun _ => trivial) (.walrus (.goesOn hnone rfl hone)) "x"
    rw [effects_assignsTwice] at hx
    cases hx

end NullContract
