import Mathlib.Data.List.DropRight
import NullContract.Text.Blank
import NullContract.Text.Split

namespace NullContract

section

variable {α : Type} {blank : α → Bool} {xs before after : List α}

theorem stripBy_eq_nil : stripBy blank xs = [] ↔ ∀ x ∈ xs, blank x = true := by
  constructor
  · intro h x hx
    have hdrop : ∀ y ∈ xs.dropWhile blank, blank y = true := List.rdropWhile_eq_nil_iff.mp h
    rw [← List.takeWhile_append_dropWhile (p := blank) (l := xs), List.mem_append] at hx
    rcases hx with hx | hx
    · exact List.mem_takeWhile_imp hx
    · exact hdrop x hx
  · intro h
    have hdrop : xs.dropWhile blank = [] := List.dropWhile_eq_nil_iff.mpr h
    rw [stripBy, hdrop]
    rfl

theorem stripBy_pad (hb : ∀ x ∈ before, blank x = true) (ha : ∀ x ∈ after, blank x = true) :
    stripBy blank (before ++ xs ++ after) = stripBy blank xs := by
  by_cases hxs : ∀ x ∈ xs, blank x = true
  · have hall : ∀ x ∈ before ++ xs ++ after, blank x = true := by
      intro x hx
      simp only [List.mem_append] at hx
      rcases hx with (hx | hx) | hx
      · exact hb x hx
      · exact hxs x hx
      · exact ha x hx
    rw [stripBy_eq_nil.mpr hall, stripBy_eq_nil.mpr hxs]
  · -- Something of `xs` is left on the left, so the blanks after it are at the right end.
    have hne : (xs.dropWhile blank).isEmpty = false := by
      rw [List.isEmpty_eq_false_iff]
      exact fun h => hxs (List.dropWhile_eq_nil_iff.mp h)
    have ha' : ∀ x ∈ after.reverse, blank x = true := by
      intro x hx
      exact ha x (List.mem_reverse.mp hx)
    rw [stripBy, stripBy, List.append_assoc, List.dropWhile_append_of_pos hb, List.dropWhile_append, hne,
      if_neg Bool.false_ne_true, List.reverse_append, List.dropWhile_append_of_pos ha']

theorem exists_stripBy_pad (blank : α → Bool) (xs : List α) :
    ∃ before after, (∀ x ∈ before, blank x = true) ∧ (∀ x ∈ after, blank x = true) ∧
      xs = before ++ stripBy blank xs ++ after := by
  refine ⟨xs.takeWhile blank, (xs.dropWhile blank).rtakeWhile blank, ?_, ?_, ?_⟩
  · exact fun x hx => List.mem_takeWhile_imp hx
  · exact fun x hx => List.mem_rtakeWhile_imp hx
  · calc xs = xs.takeWhile blank ++ xs.dropWhile blank := List.takeWhile_append_dropWhile.symm
      _ = xs.takeWhile blank ++ (stripBy blank xs ++ (xs.dropWhile blank).rtakeWhile blank) :=
        congrArg _ List.rdropWhile_append_rtakeWhile.symm
      _ = xs.takeWhile blank ++ stripBy blank xs ++ (xs.dropWhile blank).rtakeWhile blank :=
        (List.append_assoc _ _ _).symm

end

def Padded (word text : Text) : Prop :=
  ∃ before after : Text, (∀ c ∈ before, c.isBlank = true) ∧ (∀ c ∈ after, c.isBlank = true) ∧
    text = before ++ word ++ after

theorem padded_strip (t : Text) : Padded t.strip t :=
  exists_stripBy_pad CodePoint.isBlank t

theorem Padded.strip {word text : Text} (h : Padded word text) : text.strip = word.strip := by
  obtain ⟨before, after, hb, ha, rfl⟩ := h
  exact stripBy_pad hb ha

theorem Text.strip_strip (t : Text) : t.strip.strip = t.strip :=
  (padded_strip t).strip.symm

theorem Text.isInfix_strip (t : Text) : t.strip <:+: t := by
  obtain ⟨before, after, -, -, h⟩ := padded_strip t
  exact ⟨before, after, h.symm⟩

theorem strip_of_no_blank {word : Text} (h : ∀ c ∈ word, c.isBlank = false) : word.strip = word := by
  obtain ⟨before, after, hb, ha, heq⟩ := padded_strip word
  have hnone : ∀ side : Text, (∀ c ∈ side, c.isBlank = true) → side ⊆ word → side = [] := by
    intro side hblank hside
    refine List.eq_nil_iff_forall_not_mem.mpr fun c hc => ?_
    have hword := h c (hside hc)
    rw [hblank c hc] at hword
    cases hword
  have hbefore := hnone before hb (by rw [heq]; simp)
  have hafter := hnone after ha (by rw [heq]; simp)
  rw [hbefore, hafter, List.nil_append, List.append_nil] at heq
  exact heq.symm

section

variable {α : Type} {between : List α} {parts : List (List α)}

theorem infix_intercalate {part : List α} (h : part ∈ parts) : part <:+: between.intercalate parts := by
  induction parts with
  | nil => cases h
  | cons first rest ih =>
    cases rest with
    | nil => exact ⟨[], [], by simp [List.mem_singleton.mp h]⟩
    | cons next rest =>
      rw [List.intercalate_cons_cons]
      rcases List.mem_cons.mp h with rfl | h
      · exact ⟨[], between ++ between.intercalate (next :: rest), by simp⟩
      · exact (ih h).trans ⟨first ++ between, [], by simp⟩

theorem forall_mem_intercalate {Q : α → Prop} (hbetween : ∀ x ∈ between, Q x)
    (hparts : ∀ part ∈ parts, ∀ x ∈ part, Q x) : ∀ x ∈ between.intercalate parts, Q x := by
  induction parts with
  | nil => simp
  | cons first rest ih =>
    rw [List.forall_mem_cons] at hparts
    cases rest with
    | nil =>
      rw [List.intercalate_singleton]
      exact hparts.1
    | cons next rest =>
      rw [List.intercalate_cons_cons]
      simp only [List.mem_append, or_imp, forall_and]
      exact ⟨⟨hparts.1, hbetween⟩, ih hparts.2⟩

end

section

variable {α : Type} [DecidableEq α] {sep : α} {xs before : List α}

theorem pieces_eq_splitOn (sep : α) (xs : List α) : pieces sep xs = xs.splitOn sep := by
  induction xs with
  | nil => rfl
  | cons x xs ih =>
    rw [List.splitOn_eq_splitOnP, List.splitOnP_cons_eq_if_modifyHead, ← List.splitOn_eq_splitOnP, ← ih]
    simp only [pieces, beq_iff_eq]
    split
    · rfl
    · have hne : pieces sep xs ≠ [] := by
        rw [ih]
        exact List.splitOnP_ne_nil _ _
      cases hp : pieces sep xs with
      | nil => exact absurd hp hne
      | cons piece rest => rfl

theorem pieces_ne_nil (sep : α) (xs : List α) : pieces sep xs ≠ [] := by
  rw [pieces_eq_splitOn]
  exact List.splitOnP_ne_nil _ _

theorem intercalate_pieces (sep : α) (xs : List α) : [sep].intercalate (pieces sep xs) = xs := by
  rw [pieces_eq_splitOn]
  exact List.intercalate_splitOn sep

theorem pieces_intercalate {parts : List (List α)} (hsep : ∀ part ∈ parts, sep ∉ part) (hne : parts ≠ []) :
    pieces sep ([sep].intercalate parts) = parts := by
  rw [pieces_eq_splitOn]
  exact List.splitOn_intercalate sep hsep hne

theorem not_mem_piece : ∀ piece ∈ pieces sep xs, sep ∉ piece := by
  induction xs with
  | nil => simp [pieces]
  | cons x xs ih =>
    simp only [pieces]
    split
    · simpa using ih
    · next hx =>
      cases hp : pieces sep xs with
      | nil => exact absurd hp (pieces_ne_nil sep xs)
      | cons piece rest =>
        rw [hp, List.forall_mem_cons] at ih
        refine List.forall_mem_cons.mpr ⟨?_, ih.2⟩
        rw [List.mem_cons, not_or]
        exact ⟨fun h => hx h.symm, ih.1⟩

theorem isInfix_of_mem_pieces {piece : List α} (h : piece ∈ pieces sep xs) : piece <:+: xs := by
  have hpart : piece <:+: [sep].intercalate (pieces sep xs) := infix_intercalate h
  rwa [intercalate_pieces] at hpart

theorem pieces_append (h : sep ∉ before) (xs : List α) :
    pieces sep (before ++ xs) = (pieces sep xs).modifyHead (before ++ ·) := by
  induction before with
  | nil => cases hp : pieces sep xs <;> simp [hp]
  | cons x before ih =>
    rw [List.mem_cons, not_or] at h
    rw [List.cons_append, pieces, if_neg (fun hx => h.1 hx.symm), ih h.2]
    cases hp : pieces sep xs with
    | nil => exact absurd hp (pieces_ne_nil sep xs)
    | cons piece rest => rfl

theorem pieces_append_sep (h : sep ∉ before) (xs : List α) :
    pieces sep (before ++ sep :: xs) = before :: pieces sep xs := by
  rw [pieces_append h, pieces, if_pos rfl, List.modifyHead_cons, List.append_nil]

theorem pieces_of_not_mem (h : sep ∉ xs) : pieces sep xs = [xs] := by
  have hsplit := pieces_append h []
  rw [List.append_nil] at hsplit
  rw [hsplit, pieces, List.modifyHead_cons, List.append_nil]

end

end NullContract
