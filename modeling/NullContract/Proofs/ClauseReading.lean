import Mathlib.Data.List.Infix
import NullContract.Contract.Clause
import NullContract.Proofs.TextParts

namespace NullContract

def arrow : Text := "->"

theorem arrow_eq : arrow = [.char '-', .char '>'] := rfl

theorem arrow_prefix_cons {c : CodePoint} {t : Text} :
    arrow <+: c :: t ↔ c = .char '-' ∧ t.head? = some (.char '>') := by
  rw [arrow_eq, List.cons_prefix_cons]
  cases t with
  | nil => simp
  | cons d t => simp [eq_comm]

section

variable {c before after : Text}

theorem cutArrow_cons_of_no_arrow {x : CodePoint} {t : Text} (h : ¬ arrow <+: x :: t) :
    cutArrow (x :: t) = (cutArrow t).map fun (before, after) => (x :: before, after) := by
  rw [cutArrow]
  rintro rest rfl rfl
  exact h ⟨rest, rfl⟩

theorem cutArrow_eq_none : cutArrow c = none ↔ ¬ arrow <:+: c := by
  induction c with
  | nil => simp [cutArrow, arrow_eq]
  | cons x t ih =>
    rw [List.infix_cons_iff, not_or]
    by_cases hx : arrow <+: x :: t
    · obtain ⟨rest, hrest⟩ := hx
      rw [← hrest]
      simp [arrow_eq, cutArrow]
    · rw [cutArrow_cons_of_no_arrow hx, Option.map_eq_none_iff, ih]
      simp [hx]

theorem cutArrow_append (h : ¬ arrow <:+: before) (after : Text) :
    cutArrow (before ++ arrow ++ after) = some (before, after) := by
  induction before with
  | nil => rfl
  | cons x t ih =>
    rw [List.infix_cons_iff, not_or] at h
    have hx : ¬ arrow <+: x :: (t ++ arrow ++ after) := by
      rw [arrow_prefix_cons] at h ⊢
      -- The arrow that follows does not start with the end of an arrow.
      cases t with
      | nil => simp [arrow_eq]
      | cons y t => exact h.1
    rw [List.cons_append, List.cons_append, cutArrow_cons_of_no_arrow hx, ih h.2]
    rfl

theorem cutArrow_eq_some : cutArrow c = some (before, after) ↔ c = before ++ arrow ++ after ∧ ¬ arrow <:+: before := by
  constructor
  · intro h
    induction c generalizing before with
    | nil => cases h
    | cons x t ih =>
      by_cases hx : arrow <+: x :: t
      · obtain ⟨rest, hrest⟩ := hx
        rw [← hrest] at h ⊢
        cases h
        exact ⟨rfl, by simp [arrow_eq]⟩
      · rw [cutArrow_cons_of_no_arrow hx] at h
        obtain ⟨⟨before', after'⟩, hcut, heq⟩ := Option.map_eq_some_iff.mp h
        cases heq
        obtain ⟨rfl, hfree⟩ := ih hcut
        refine ⟨rfl, ?_⟩
        rw [List.infix_cons_iff, not_or]
        exact ⟨fun hp => hx (hp.trans ⟨arrow ++ after, by simp⟩), hfree⟩
  · rintro ⟨rfl, h⟩
    exact cutArrow_append h after

end

def arrowCount (t : Text) : Nat :=
  t.tails.countP (arrow.isPrefixOf ·)

section

variable {s t : Text} {c : CodePoint}

theorem arrowCount_cons (c : CodePoint) (t : Text) :
    arrowCount (c :: t) = arrowCount t + if arrow <+: c :: t then 1 else 0 := by
  rw [arrowCount, List.tails_cons, List.countP_cons]
  simp only [List.isPrefixOf_iff_prefix]
  rfl

theorem arrowCount_eq_zero : arrowCount t = 0 ↔ ¬ arrow <:+: t := by
  induction t with
  | nil => simp [arrowCount, arrow_eq]
  | cons c t ih =>
    rw [arrowCount_cons, List.infix_cons_iff, not_or, ← ih]
    by_cases hc : arrow <+: c :: t <;> simp [hc]

theorem arrowCount_append_cons (hc : c ≠ .char '>') (s t : Text) :
    arrowCount (s ++ c :: t) = arrowCount s + arrowCount (c :: t) := by
  induction s with
  | nil => simp [arrowCount, arrow_eq]
  | cons x s ih =>
    have hx : arrow <+: x :: (s ++ c :: t) ↔ arrow <+: x :: s := by
      rw [arrow_prefix_cons, arrow_prefix_cons]
      cases s with
      | nil => simp [hc]
      | cons y s => rfl
    rw [List.cons_append, arrowCount_cons, arrowCount_cons, ih]
    simp only [hx]
    omega

theorem arrowCount_arrow_append (t : Text) : arrowCount (arrow ++ t) = arrowCount t + 1 := by
  have hend : ¬ arrow <+: .char '>' :: t := by simp [arrow_prefix_cons]
  rw [arrow_eq, List.cons_append, List.cons_append, List.nil_append, arrowCount_cons, arrowCount_cons, if_neg hend]
  simp [arrow_prefix_cons]

theorem arrowCount_divided (s t : Text) : arrowCount (s ++ arrow ++ t) = arrowCount s + (arrowCount t + 1) := by
  rw [← arrowCount_arrow_append, List.append_assoc]
  exact arrowCount_append_cons (by decide) s _

end

section

variable {clause : Text} {binding : Binding}

theorem bindClause_eq_ok :
    bindClause clause = .ok binding ↔ ∃ before after : Text, clause = before ++ arrow ++ after ∧
      ¬ arrow <:+: before ∧ ¬ arrow <:+: after ∧ binding = ⟨antecedentTokens before, after.strip⟩ := by
  constructor
  · intro h
    unfold bindClause at h
    split at h
    · cases h
    · next before after hcut =>
      obtain ⟨hclause, hbefore⟩ := cutArrow_eq_some.mp hcut
      split at h
      · cases h
      · next hafter =>
        rw [Bool.not_eq_true, Option.isSome_eq_false_iff, Option.isNone_iff_eq_none] at hafter
        cases h
        exact ⟨before, after, hclause, hbefore, cutArrow_eq_none.mp hafter, rfl⟩
  · rintro ⟨before, after, rfl, hbefore, hafter, rfl⟩
    simp only [bindClause, cutArrow_append hbefore, cutArrow_eq_none.mpr hafter]
    rfl

theorem bindClause_ok_iff_arrowCount : (∃ binding, bindClause clause = .ok binding) ↔ arrowCount clause = 1 := by
  constructor
  · rintro ⟨binding, h⟩
    obtain ⟨before, after, rfl, hbefore, hafter, -⟩ := bindClause_eq_ok.mp h
    rw [arrowCount_divided, arrowCount_eq_zero.mpr hbefore, arrowCount_eq_zero.mpr hafter]
  · intro h
    cases hcut : cutArrow clause with
    | none =>
      rw [arrowCount_eq_zero.mpr (cutArrow_eq_none.mp hcut)] at h
      cases h
    | some sides =>
      obtain ⟨before, after⟩ := sides
      obtain ⟨rfl, hbefore⟩ := cutArrow_eq_some.mp hcut
      rw [arrowCount_divided, arrowCount_eq_zero.mpr hbefore] at h
      have hafter : ¬ arrow <:+: after := arrowCount_eq_zero.mp (by omega)
      exact ⟨_, bindClause_eq_ok.mpr ⟨before, after, rfl, hbefore, hafter, rfl⟩⟩

end

theorem readClause_eq_ok_iff {text : Text} {clause : Clause} :
    readClause text = .ok clause ↔ ∃ binding, bindClause text = .ok binding ∧ clause =
      { text := text.strip
        binding := binding
        antecedent := binding.tokens.filterMap readToken
        consequent := readToken binding.consequent
        unknownTokens := binding.tokens.filter fun token => (readToken token).isNone } := by
  unfold readClause
  cases bindClause text with
  | error e => simp [bind, Except.bind]
  | ok binding => simp [bind, Except.bind, pure, Except.pure, eq_comm]

section

variable {before after t : Text}

theorem not_mem_of_blank {c : CodePoint} (hc : c.isBlank = false) (h : ∀ d ∈ t, d.isBlank = true) : c ∉ t := by
  intro hmem
  rw [h c hmem] at hc
  cases hc

theorem arrowCount_blank_append (hb : ∀ c ∈ before, c.isBlank = true) (t : Text) :
    arrowCount (before ++ t) = arrowCount t := by
  induction before with
  | nil => rfl
  | cons x before ih =>
    rw [List.forall_mem_cons] at hb
    have hx : ¬ arrow <+: x :: (before ++ t) := by
      rw [arrow_prefix_cons]
      rintro ⟨rfl, -⟩
      exact absurd hb.1 (by decide)
    rw [List.cons_append, arrowCount_cons, if_neg hx, ih hb.2, Nat.add_zero]

theorem arrowCount_append_blank (ha : ∀ c ∈ after, c.isBlank = true) (t : Text) :
    arrowCount (t ++ after) = arrowCount t := by
  cases after with
  | nil => rw [List.append_nil]
  | cons d after =>
    have hd : d ≠ .char '>' := by
      rintro rfl
      exact not_mem_of_blank (by decide) ha (List.mem_cons_self ..)
    have hnone : ¬ arrow <:+: d :: after := by
      intro h
      exact not_mem_of_blank (c := .char '-') (by decide) ha (h.subset (by simp [arrow_eq]))
    rw [arrowCount_append_cons hd, arrowCount_eq_zero.mpr hnone, Nat.add_zero]

theorem arrow_infix_blank_append (hb : ∀ c ∈ before, c.isBlank = true) :
    arrow <:+: before ++ t ↔ arrow <:+: t := by
  rw [← not_iff_not, ← arrowCount_eq_zero, ← arrowCount_eq_zero, arrowCount_blank_append hb]

theorem arrow_infix_append_blank (ha : ∀ c ∈ after, c.isBlank = true) :
    arrow <:+: t ++ after ↔ arrow <:+: t := by
  rw [← not_iff_not, ← arrowCount_eq_zero, ← arrowCount_eq_zero, arrowCount_append_blank ha]

theorem map_strip_pieces_pad (hb : ∀ c ∈ before, c.isBlank = true) (t : Text) :
    (pieces (.char ',') (before ++ t)).map Text.strip = (pieces (.char ',') t).map Text.strip := by
  have hcomma : CodePoint.char ',' ∉ before := not_mem_of_blank (by decide) hb
  rw [pieces_append hcomma]
  cases hp : pieces (.char ',') t with
  | nil => exact absurd hp (pieces_ne_nil _ _)
  | cons piece rest =>
    have hpiece : Text.strip (before ++ piece) = Text.strip piece := Padded.strip ⟨before, [], hb, by simp, by simp⟩
    rw [List.modifyHead_cons, List.map_cons, List.map_cons, hpiece]

theorem antecedentTokens_pad (hb : ∀ c ∈ before, c.isBlank = true) (t : Text) :
    antecedentTokens (before ++ t) = antecedentTokens t := by
  have hstrip : Text.strip (before ++ t) = t.strip := Padded.strip ⟨before, [], hb, by simp, by simp⟩
  rw [antecedentTokens, antecedentTokens, hstrip, map_strip_pieces_pad hb]

theorem bindClause_pad {clause text : Text} (h : Padded clause text) : bindClause text = bindClause clause := by
  have hstrip := h.strip
  obtain ⟨before, after, hb, ha, rfl⟩ := h
  unfold bindClause
  rw [hstrip]
  cases hcut : cutArrow clause with
  | none =>
    have hnone := cutArrow_eq_none.mp hcut
    rw [← arrow_infix_blank_append hb, ← arrow_infix_append_blank ha] at hnone
    rw [cutArrow_eq_none.mpr hnone]
  | some sides =>
    obtain ⟨left, right⟩ := sides
    obtain ⟨rfl, hleft⟩ := cutArrow_eq_some.mp hcut
    have hleft' : ¬ arrow <:+: before ++ left := mt (arrow_infix_blank_append hb).mp hleft
    have hright : cutArrow (right ++ after) = none ↔ cutArrow right = none := by
      rw [cutArrow_eq_none, cutArrow_eq_none, arrow_infix_append_blank ha]
    have hsome : (cutArrow (right ++ after)).isSome = (cutArrow right).isSome := by
      rw [Bool.eq_iff_iff, ← not_iff_not, Option.not_isSome_iff_eq_none, Option.not_isSome_iff_eq_none, hright]
    have hend : Text.strip (right ++ after) = right.strip := Padded.strip ⟨[], after, by simp, ha, by simp⟩
    rw [show before ++ (left ++ arrow ++ right) ++ after = before ++ left ++ arrow ++ (right ++ after) by simp,
      cutArrow_append hleft']
    simp only [hsome, antecedentTokens_pad hb, hend]

theorem readClause_pad {clause text : Text} (h : Padded clause text) : readClause text = readClause clause := by
  simp only [readClause, bindClause_pad h, h.strip]

end

end NullContract
