import Mathlib.Data.List.Perm.Basic
import NullContract.Proofs.Rounds

/-!
Rearrangements of a list that exchange stretches of it. They act on lists of anything alike, so the return statements
of a piece of code, the states in which they are reached and the verdicts on them are rearranged together, whatever the
state the piece starts in.
-/

namespace NullContract

/-- Splits a list after `n` items and rearranges both parts, which stay in order or change places. -/
inductive Rearrangement where
  | keep
  | beside (n : Nat) (first second : Rearrangement)
  | across (n : Nat) (first second : Rearrangement)

namespace Rearrangement

variable {α β γ : Type}

def apply : Rearrangement → List α → List α
  | keep, xs => xs
  | beside n first second, xs => first.apply (xs.take n) ++ second.apply (xs.drop n)
  | across n first second, xs => second.apply (xs.drop n) ++ first.apply (xs.take n)

theorem apply_perm (σ : Rearrangement) (xs : List α) : (σ.apply xs).Perm xs := by
  induction σ generalizing xs with
  | keep => exact .refl xs
  | beside n first second ihf ihs =>
    have h := (ihf (xs.take n)).append (ihs (xs.drop n))
    rwa [List.take_append_drop] at h
  | across n first second ihf ihs =>
    have h := ((ihs (xs.drop n)).append (ihf (xs.take n))).trans List.perm_append_comm
    rwa [List.take_append_drop] at h

@[simp] theorem length_apply (σ : Rearrangement) (xs : List α) : (σ.apply xs).length = xs.length :=
  (σ.apply_perm xs).length_eq

theorem apply_map (σ : Rearrangement) (f : α → β) (xs : List α) : σ.apply (xs.map f) = (σ.apply xs).map f := by
  induction σ generalizing xs with
  | keep => rfl
  | beside n first second ihf ihs =>
    simp only [apply, ← List.map_take, ← List.map_drop, ihf, ihs, List.map_append]
  | across n first second ihf ihs =>
    simp only [apply, ← List.map_take, ← List.map_drop, ihf, ihs, List.map_append]

theorem apply_zipWith (σ : Rearrangement) (f : α → β → γ) {xs : List α} {ys : List β} (h : xs.length = ys.length) :
    σ.apply (List.zipWith f xs ys) = List.zipWith f (σ.apply xs) (σ.apply ys) := by
  induction σ generalizing xs ys with
  | keep => rfl
  | beside n first second ihf ihs =>
    have htake : (xs.take n).length = (ys.take n).length := by simp [h]
    have hdrop : (xs.drop n).length = (ys.drop n).length := by simp [h]
    simp only [apply, List.take_zipWith, List.drop_zipWith, ihf htake, ihs hdrop]
    rw [List.zipWith_append (by simp [htake])]
  | across n first second ihf ihs =>
    have htake : (xs.take n).length = (ys.take n).length := by simp [h]
    have hdrop : (xs.drop n).length = (ys.drop n).length := by simp [h]
    simp only [apply, List.take_zipWith, List.drop_zipWith, ihf htake, ihs hdrop]
    rw [List.zipWith_append (by simp [h])]

theorem getElem?_apply (σ : Rearrangement) (xs : List α) (k : Nat) :
    (σ.apply xs)[k]? = (σ.apply (List.range xs.length))[k]?.bind (xs[·]?) := by
  have hxs : xs.map some = (List.range xs.length).map (xs[·]?) := by
    apply List.ext_getElem
    · simp
    · intro i hi _
      rw [List.length_map] at hi
      simp [List.getElem?_eq_getElem hi]
  have h : (σ.apply xs)[k]?.map some = (σ.apply (List.range xs.length))[k]?.map (xs[·]?) := by
    rw [← List.getElem?_map, ← List.getElem?_map, ← apply_map, ← apply_map, hxs]
  cases hk : (σ.apply (List.range xs.length))[k]? with
  | none =>
    rw [hk] at h
    exact Option.map_eq_none_iff.mp h
  | some i =>
    rw [hk] at h
    obtain ⟨x, hx, hi⟩ := Option.map_eq_some_iff.mp h
    rw [hx]
    exact hi

theorem apply_beside {n : Nat} (σ τ : Rearrangement) {xs : List α} (h : xs.length = n) (ys : List α) :
    (beside n σ τ).apply (xs ++ ys) = σ.apply xs ++ τ.apply ys := by
  simp only [apply, List.take_left' h, List.drop_left' h]

theorem apply_across {n : Nat} (σ τ : Rearrangement) {xs : List α} (h : xs.length = n) (ys : List α) :
    (across n σ τ).apply (xs ++ ys) = τ.apply ys ++ σ.apply xs := by
  simp only [apply, List.take_left' h, List.drop_left' h]

end Rearrangement

namespace Outcome

def rearrange (o : Outcome) (σ : Rearrangement) : Outcome :=
  { o with returned := σ.apply o.returned }

@[simp] theorem next_rearrange (o : Outcome) (σ : Rearrangement) : (o.rearrange σ).next = o.next := rfl

@[simp] theorem raised_rearrange (o : Outcome) (σ : Rearrangement) : (o.rearrange σ).raised = o.raised := rfl

section

variable {a b : Outcome} {σ τ : Rearrangement} {n : Nat}

theorem merge_rearrange (h : a.returned.length = n) :
    (a.rearrange σ).merge (b.rearrange τ) = (a.merge b).rearrange (.beside n σ τ) := by
  simp only [merge, rearrange, Rearrangement.apply_beside σ τ h]

theorem merge_rearrange_comm (h : a.returned.length = n) :
    (b.rearrange τ).merge (a.rearrange σ) = (a.merge b).rearrange (.across n σ τ) := by
  simp only [merge, rearrange, Rearrangement.apply_across σ τ h, State.join_comm b.next, State.join_comm b.broke,
    State.join_comm b.continued, State.join_comm b.raised]

theorem followedBy_rearrange (h : a.returned.length = n) :
    (a.rearrange σ).followedBy (b.rearrange τ) = (a.followedBy b).rearrange (.beside n σ τ) := by
  simp only [followedBy, merge, rearrange, Rearrangement.apply_beside σ τ h]

theorem cons_rearrange (h : a.returned.length = n) :
    (a.rearrange σ).cons (b.rearrange τ) = (a.cons b).rearrange (.beside n σ τ) := by
  simp only [cons, followedBy_rearrange h]
  rfl

theorem afterLoop_rearrange (h : a.returned.length = n) :
    (a.rearrange σ).afterLoop (b.rearrange τ) = (a.afterLoop b).rearrange (.beside n σ τ) := by
  simp only [afterLoop, rearrange, Rearrangement.apply_beside σ τ h]

theorem withEarlier_rearrange (h : a.returned.length = b.returned.length) :
    (a.rearrange σ).withEarlier (b.rearrange σ) = (a.withEarlier b).rearrange σ := by
  simp only [withEarlier, rearrange, Rearrangement.apply_zipWith σ State.join h]

end

end Outcome

theorem iterate_rearrange {round round' : State → Outcome} {σ : Rearrangement} {n : Nat}
    (hlen : ∀ head, (round head).returned.length = n) (hround : ∀ head, round' head = (round head).rearrange σ)
    (fuel : Nat) (head : State) :
    iterate round' fuel head = ((iterate round fuel head).1, (iterate round fuel head).2.rearrange σ) := by
  induction fuel generalizing head with
  | zero => simp only [iterate, hround]
  | succ fuel ih =>
    have hnext : (round' head).nextHead head = (round head).nextHead head := by
      rw [hround]
      rfl
    by_cases hs : Stable round head
    · have hs' : Stable round' head := hnext.trans hs
      rw [iterate_succ_of_stable hs, iterate_succ_of_stable hs', hround]
    · have hs' : ¬ Stable round' head := fun h => hs (hnext.symm.trans h)
      rw [iterate_succ_of_not_stable hs, iterate_succ_of_not_stable hs', hnext, ih, hround]
      rw [Outcome.withEarlier_rearrange]
      rw [hlen, length_returned_iterate hlen]

end NullContract
