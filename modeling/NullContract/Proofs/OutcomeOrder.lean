import Mathlib.Data.List.Forall2
import NullContract.Flow.Outcome
import NullContract.Proofs.StateOrder

namespace NullContract

section

variable {xs ys zs : List State}

theorem forall₂_le_trans (h : List.Forall₂ (· ≤ ·) xs ys) (h' : List.Forall₂ (· ≤ ·) ys zs) :
    List.Forall₂ (· ≤ ·) xs zs := by
  induction h generalizing zs with
  | nil => exact h'
  | cons hx _ ih =>
    cases h' with
    | cons hy hys => exact .cons (hx.trans hy) (ih hys)

theorem zipWith_join_eq (h : List.Forall₂ (· ≤ ·) xs ys) : List.zipWith State.join xs ys = ys := by
  induction h with
  | nil => rfl
  | cons hxy _ ih => rw [List.zipWith_cons_cons, ih, State.le_iff.mp hxy]

theorem forall₂_le_zipWith_join (h : xs.length = ys.length) :
    List.Forall₂ (· ≤ ·) ys (List.zipWith State.join xs ys) := by
  induction xs generalizing ys with
  | nil =>
    rw [List.length_nil, eq_comm, List.length_eq_zero_iff] at h
    subst h
    exact .nil
  | cons x xs ih =>
    cases ys with
    | nil => exact absurd h (by simp)
    | cons y ys => exact .cons (State.le_join_right x y) (ih (by simpa using h))

end

namespace Outcome

structure Le (a b : Outcome) : Prop where
  next : a.next ≤ b.next
  broke : a.broke ≤ b.broke
  continued : a.continued ≤ b.continued
  raised : a.raised ≤ b.raised
  returned : List.Forall₂ (· ≤ ·) a.returned b.returned

instance : LE Outcome := ⟨Le⟩

theorem le_rfl (a : Outcome) : a ≤ a where
  next := le_refl _
  broke := le_refl _
  continued := le_refl _
  raised := le_refl _
  returned := List.forall₂_refl a.returned

theorem le_trans {a b c : Outcome} (h : a ≤ b) (h' : b ≤ c) : a ≤ c where
  next := h.next.trans h'.next
  broke := h.broke.trans h'.broke
  continued := h.continued.trans h'.continued
  raised := h.raised.trans h'.raised
  returned := forall₂_le_trans h.returned h'.returned

instance : Preorder Outcome where
  le_refl := le_rfl
  le_trans _ _ _ := le_trans

variable {a b c d : Outcome}

theorem merge_mono (h : a ≤ b) (h' : c ≤ d) : a.merge c ≤ b.merge d where
  next := State.join_mono h.next h'.next
  broke := State.join_mono h.broke h'.broke
  continued := State.join_mono h.continued h'.continued
  raised := State.join_mono h.raised h'.raised
  returned := List.rel_append h.returned h'.returned

theorem followedBy_mono (h : a ≤ b) (h' : c ≤ d) : a.followedBy c ≤ b.followedBy d :=
  { merge_mono h h' with next := h'.next }

theorem cons_mono (h : a ≤ b) (h' : c ≤ d) : a.cons c ≤ b.cons d :=
  { followedBy_mono h h' with raised := State.join_mono h.next (State.join_mono h.raised h'.raised) }

theorem afterLoop_mono (h : a ≤ b) (h' : c ≤ d) : a.afterLoop c ≤ b.afterLoop d where
  next := State.join_mono h'.next h.broke
  broke := h'.broke
  continued := h'.continued
  raised := State.join_mono h.raised h'.raised
  returned := List.rel_append h.returned h'.returned

theorem nextHead_mono {s t : State} (hs : s ≤ t) (h : a ≤ b) : a.nextHead s ≤ b.nextHead t :=
  State.join_mono (State.join_mono hs h.next) h.continued

theorem le_nextHead (head : State) (round : Outcome) : head ≤ round.nextHead head :=
  (State.le_join_left _ _).trans (State.le_join_left _ _)

theorem next_le_nextHead (head : State) (round : Outcome) : round.next ≤ round.nextHead head :=
  (State.le_join_right _ _).trans (State.le_join_left _ _)

theorem continued_le_nextHead (head : State) (round : Outcome) : round.continued ≤ round.nextHead head :=
  State.le_join_right _ _

theorem withEarlier_eq (h : a ≤ b) : a.withEarlier b = b := by
  rw [withEarlier, State.le_iff.mp h.raised, zipWith_join_eq h.returned]

theorem le_withEarlier (h : a.returned.length = b.returned.length) : b ≤ a.withEarlier b :=
  { le_rfl b with
    raised := State.le_join_right _ _
    returned := forall₂_le_zipWith_join h }

end Outcome

end NullContract
