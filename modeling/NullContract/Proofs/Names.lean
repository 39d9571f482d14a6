import NullContract.Proofs.Meanings
import NullContract.Proofs.Nested
import NullContract.Syntax.Names

namespace NullContract

namespace Expr

theorem mem_names_of_subterms {e t : Expr} (h : t ∈ e.subterms) {x : String} (hx : t.headName? = some x) :
    x ∈ e.names :=
  List.mem_filterMap.mpr ⟨t, h, hx⟩

theorem mem_names_of_children {e : Expr} {es : List Expr} (hes : ∀ t ∈ subtermsOfList es, t ∈ e.subterms) {c : Expr}
    (hc : c ∈ es) {x : String} (hx : x ∈ c.names) : x ∈ e.names := by
  obtain ⟨t, ht, hhead⟩ := List.mem_filterMap.mp hx
  have hsub := forall_mem_subtermsOfList.mp hes
  exact mem_names_of_subterms (hsub c hc t ht) hhead

theorem mem_targetNamesOfList {es : List Expr} {x : String} :
    x ∈ targetNamesOfList es ↔ ∃ e ∈ es, x ∈ e.targetNames := by
  induction es with
  | nil => simp [targetNamesOfList]
  | cons e rest ih => simp [targetNamesOfList, ih]

theorem targetNames_subset_names {e : Expr} {x : String} (h : x ∈ e.targetNames) : x ∈ e.names := by
  induction e with
  | name id =>
    rw [targetNames, List.mem_singleton] at h
    exact mem_names_of_subterms (mem_subterms_self _) (by rw [h]; rfl)
  | tuple items ih =>
    obtain ⟨e, he, hx⟩ := mem_targetNamesOfList.mp h
    exact mem_names_of_children (e := .tuple items) (fun t ht => List.mem_cons_of_mem _ ht) he (ih e he hx)
  | list items ih =>
    obtain ⟨e, he, hx⟩ := mem_targetNamesOfList.mp h
    exact mem_names_of_children (e := .list items) (fun t ht => List.mem_cons_of_mem _ ht) he (ih e he hx)
  | starred target ih =>
    obtain ⟨t, ht, hx⟩ := List.mem_filterMap.mp (ih h)
    exact mem_names_of_subterms (List.mem_cons_of_mem _ ht) hx
  | _ => simp [targetNames] at h

end Expr

theorem namesOfBlock_eq_flatMap (b : List Stmt) : namesOfBlock b = b.flatMap Stmt.names := by
  induction b with
  | nil => rfl
  | cons s rest ih => simp [namesOfBlock, ih]

theorem namesOfHandlers_eq_flatMap (hs : List Handler) :
    namesOfHandlers hs = hs.flatMap fun h => h.name.toList ++ h.body.flatMap Stmt.names := by
  induction hs with
  | nil => rfl
  | cons h rest ih =>
    obtain ⟨forGroups, kind, name, body⟩ := h
    simp only [namesOfHandlers, ih, namesOfBlock_eq_flatMap, List.flatMap_cons]
    rfl

theorem namesOfCases_eq_flatMap (cs : List Case) :
    namesOfCases cs = cs.flatMap fun c =>
      c.pattern.captures ++ ((c.guard.map Expr.names).getD [] ++ c.body.flatMap Stmt.names) := by
  induction cs with
  | nil => rfl
  | cons c rest ih =>
    obtain ⟨pattern, guard, body⟩ := c
    simp only [namesOfCases, ih, namesOfBlock_eq_flatMap, List.flatMap_cons, List.append_assoc]
    rfl

theorem names_subset_of_nested (s : Stmt) : ∀ t ∈ s.nested, ∀ x ∈ t.names, x ∈ s.names := by
  induction s with
  | forLoop isAsync target iter body orelse ihb iho =>
    refine forall_mem_nested_forLoop.mpr ⟨fun _ hx => hx, fun s hs t ht x hx => ?_, fun s hs t ht x hx => ?_⟩
    · simp only [Stmt.names, namesOfBlock_eq_flatMap, List.mem_append, List.mem_flatMap]
      exact .inl (.inr ⟨s, hs, ihb s hs t ht x hx⟩)
    · simp only [Stmt.names, namesOfBlock_eq_flatMap, List.mem_append, List.mem_flatMap]
      exact .inr ⟨s, hs, iho s hs t ht x hx⟩
  | whileLoop test body orelse ihb iho =>
    refine forall_mem_nested_whileLoop.mpr ⟨fun _ hx => hx, fun s hs t ht x hx => ?_, fun s hs t ht x hx => ?_⟩
    · simp only [Stmt.names, namesOfBlock_eq_flatMap, List.mem_append, List.mem_flatMap]
      exact .inl (.inr ⟨s, hs, ihb s hs t ht x hx⟩)
    · simp only [Stmt.names, namesOfBlock_eq_flatMap, List.mem_append, List.mem_flatMap]
      exact .inr ⟨s, hs, iho s hs t ht x hx⟩
  | ifElse line test body orelse ihb iho =>
    refine forall_mem_nested_ifElse.mpr ⟨fun _ hx => hx, fun s hs t ht x hx => ?_, fun s hs t ht x hx => ?_⟩
    · simp only [Stmt.names, namesOfBlock_eq_flatMap, List.mem_append, List.mem_flatMap]
      exact .inl (.inr ⟨s, hs, ihb s hs t ht x hx⟩)
    · simp only [Stmt.names, namesOfBlock_eq_flatMap, List.mem_append, List.mem_flatMap]
      exact .inr ⟨s, hs, iho s hs t ht x hx⟩
  | withBlock isAsync items body ih =>
    refine forall_mem_nested_withBlock.mpr ⟨fun _ hx => hx, fun s hs t ht x hx => ?_⟩
    simp only [Stmt.names, namesOfBlock_eq_flatMap, List.mem_append, List.mem_flatMap]
    exact .inr ⟨s, hs, ih s hs t ht x hx⟩
  | matchCases subject cases ih =>
    refine forall_mem_nested_matchCases.mpr ⟨fun _ hx => hx, fun c hc s hs t ht x hx => ?_⟩
    simp only [Stmt.names, namesOfCases_eq_flatMap, List.mem_append, List.mem_flatMap]
    exact .inr ⟨c, hc, .inr (.inr ⟨s, hs, ih c hc s hs t ht x hx⟩)⟩
  | tryBlock body handlers orelse final ihb ihh iho ihf =>
    refine forall_mem_nested_tryBlock.mpr ⟨fun _ hx => hx, fun s hs t ht x hx => ?_, fun c hc s hs t ht x hx => ?_,
      fun s hs t ht x hx => ?_, fun s hs t ht x hx => ?_⟩
    all_goals
      simp only [Stmt.names, namesOfBlock_eq_flatMap, namesOfHandlers_eq_flatMap, List.mem_append, List.mem_flatMap]
    · exact .inl (.inl (.inl ⟨s, hs, ihb s hs t ht x hx⟩))
    · exact .inl (.inl (.inr ⟨c, hc, .inr ⟨s, hs, ihh c hc s hs t ht x hx⟩⟩))
    · exact .inl (.inr ⟨s, hs, iho s hs t ht x hx⟩)
    · exact .inr ⟨s, hs, ihf s hs t ht x hx⟩
  | _ => simp [Stmt.nested]

theorem targets_subset_names {s : Stmt} : ∀ x ∈ s.targets, x ∈ s.names := by
  intro x hx
  cases s with
  | delete targets =>
    obtain ⟨e, he, hx⟩ := List.mem_flatMap.mp hx
    exact List.mem_flatMap.mpr ⟨e, he, Expr.targetNames_subset_names hx⟩
  | assign targets value =>
    obtain ⟨e, he, hx⟩ := List.mem_flatMap.mp hx
    exact List.mem_append_left _ (List.mem_flatMap.mpr ⟨e, he, Expr.targetNames_subset_names hx⟩)
  | augAssign target op value => exact List.mem_append_left _ (Expr.targetNames_subset_names hx)
  | annAssign target hint value =>
    cases value with
    | none => simp [Stmt.targets] at hx
    | some value => exact List.mem_append_left _ (Expr.targetNames_subset_names hx)
  | forLoop isAsync target iter body orelse =>
    exact List.mem_append_left _ (List.mem_append_left _ (Expr.targetNames_subset_names hx))
  | withBlock isAsync items body =>
    obtain ⟨⟨context, target⟩, hitem, hx⟩ := List.mem_flatMap.mp hx
    refine List.mem_append_left _ (List.mem_flatMap.mpr ⟨_, hitem, ?_⟩)
    cases target with
    | none => simp at hx
    | some target => exact Expr.targetNames_subset_names hx
  | matchCases subject cases =>
    obtain ⟨c, hc, hx⟩ := List.mem_flatMap.mp hx
    simp only [Stmt.names, namesOfCases_eq_flatMap, List.mem_append, List.mem_flatMap]
    exact .inr ⟨c, hc, .inl hx⟩
  | tryBlock body handlers orelse final =>
    obtain ⟨c, hc, hx⟩ := List.mem_flatMap.mp hx
    simp only [Stmt.names, namesOfHandlers_eq_flatMap, List.mem_append, List.mem_flatMap]
    exact .inl (.inl (.inr ⟨c, hc, .inl hx⟩))
  | function header body => exact hx
  | classDef header body => exact hx
  | imports origin imported => exact hx
  | _ => simp [Stmt.targets] at hx

theorem judges_names_subset {s : Stmt} : ∀ e ∈ s.judges, ∀ x ∈ e.names, x ∈ s.names := by
  intro e he x hx
  cases s with
  | ret position value =>
    rw [Stmt.names, Option.mem_toList.mp he]
    exact hx
  | assign targets value =>
    rw [Stmt.judges, List.mem_singleton] at he
    exact List.mem_append_right _ (he ▸ hx)
  | augAssign target op value =>
    rw [Stmt.judges, List.mem_singleton] at he
    exact List.mem_append_right _ (he ▸ hx)
  | annAssign target hint value =>
    rw [Stmt.names, Option.mem_toList.mp he]
    exact List.mem_append_right _ hx
  | whileLoop test body orelse =>
    rw [Stmt.judges, List.mem_singleton] at he
    exact List.mem_append_left _ (List.mem_append_left _ (he ▸ hx))
  | ifElse line test body orelse =>
    rw [Stmt.judges, List.mem_singleton] at he
    exact List.mem_append_left _ (List.mem_append_left _ (he ▸ hx))
  | matchCases subject cases =>
    simp only [Stmt.names, namesOfCases_eq_flatMap, List.mem_append, List.mem_flatMap]
    rcases List.mem_cons.mp he with rfl | he
    · exact .inl hx
    · obtain ⟨c, hc, hguard⟩ := List.mem_filterMap.mp he
      exact .inr ⟨c, hc, .inr (.inl (by simpa [hguard] using hx))⟩
  | assert test message =>
    rw [Stmt.judges, List.mem_singleton] at he
    exact he ▸ hx
  | expr value =>
    rw [Stmt.judges, List.mem_singleton] at he
    exact he ▸ hx
  | _ => simp [Stmt.judges] at he

end NullContract
