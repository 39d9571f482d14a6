import NullContract.Proofs.Meanings
import NullContract.Proofs.StateOrder

namespace NullContract

theorem Env.refine_live (env : Env) (x : String) : env.refine x .null ≠ none ∨ env.refine x .nonNull ≠ none := by
  unfold Env.refine
  cases env.verdict x <;> simp

theorem Nullness.joinAll_mono {xs ys : List Nullness} (hne : xs ≠ []) (h : ∀ x ∈ xs, ∃ y ∈ ys, x ≤ y) :
    joinAll xs ≤ joinAll ys := by
  refine joinAll_le hne fun x hx => ?_
  obtain ⟨y, hy, hxy⟩ := h x hx
  exact hxy.trans (le_joinAll hy)

namespace Meaning

def Live (m : Meaning) : Prop :=
  ∀ env, ∃ truth, m.assume truth env ≠ none

theorem assumeAll_or_assumeFirst_live {ms : List Meaning} (h : ∀ m ∈ ms, m.Live) (truth : Bool) (env : Env) :
    assumeAll truth ms (some env) ≠ none ∨ assumeFirst (!truth) ms (some env) ≠ none := by
  induction ms generalizing env with
  | nil => exact .inl (by simp [assumeAll])
  | cons m rest ih =>
    have hrest := ih fun m' hm' => h m' (List.mem_cons_of_mem _ hm')
    simp only [assumeAll, assumeFirst, Option.bind_some, ne_eq, State.join_eq_none, Bool.not_not]
    cases hm : m.assume truth env with
    | some env' =>
      rcases hrest env' with hl | hr
      · exact .inl hl
      · exact .inr fun hnone => hr hnone.2
    | none =>
      refine .inr fun hnone => ?_
      obtain ⟨outcome, hlive⟩ := h m (by simp) env
      cases outcome <;> cases truth <;> simp_all

theorem live_junction {op : Junctor} {ms : List Meaning} (h : ∀ m ∈ ms, m.Live) : (junction op ms).Live := by
  intro env
  simp only [junction]
  rcases assumeAll_or_assumeFirst_live h (decide (op = .and)) env with hl | hl
  · exact ⟨decide (op = .and), by rwa [if_pos rfl]⟩
  · exact ⟨!decide (op = .and), by rwa [if_neg (by simp)]⟩

theorem live_of_false {m : Meaning} (h : ∀ env, m.assume false env = some env) : m.Live :=
  fun env => ⟨false, by simp [h]⟩

end Meaning

theorem Expr.live_meaning (e : Expr) : e.meaning.Live := by
  induction e with
  | literal value => exact fun env => ⟨value.truthy, by simp [meaning, Meaning.literal]⟩
  | name id => exact Meaning.live_of_false fun _ => rfl
  | walrus target value _ => exact fun env => ⟨false, by simp [meaning, Meaning.walrus, Meaning.assumeName]⟩
  | not operand ih =>
    intro env
    obtain ⟨truth, h⟩ := ih env
    exact ⟨!truth, by simpa [meaning, Meaning.not] using h⟩
  | junction op operands ih => exact Meaning.live_junction (forall_mem_meanings.mpr ih)
  | compare left ops rights _ _ =>
    intro env
    simp only [meaning, Meaning.compare]
    cases NullCheck.ofCompare? left ops rights with
    | none => exact ⟨true, by simp⟩
    | some check =>
      rcases env.refine_live check.name with h | h
      · exact ⟨check.assertsNull, by simpa using h⟩
      · exact ⟨!check.assertsNull, by simpa using h⟩
  | cond test body orelse _ _ _ => exact Meaning.live_of_false fun _ => rfl
  | call callee args keywords _ _ _ => exact Meaning.live_of_false fun _ => rfl
  | keyword name value _ => exact Meaning.live_of_false fun _ => rfl
  | member value field _ => exact Meaning.live_of_false fun _ => rfl
  | subscript value index _ _ => exact Meaning.live_of_false fun _ => rfl
  | starred value _ => exact Meaning.live_of_false fun _ => rfl
  | tuple items _ => exact Meaning.live_of_false fun _ => rfl
  | list items _ => exact Meaning.live_of_false fun _ => rfl
  | binary op left right _ _ => exact Meaning.live_of_false fun _ => rfl
  | form kind parts _ => exact Meaning.live_of_false fun _ => rfl

namespace Meaning

structure Mono (m : Meaning) : Prop where
  value : ∀ {a b : Env}, (some a : State) ≤ some b → m.value a ≤ m.value b
  assume : ∀ truth {a b : Env}, (some a : State) ≤ some b → m.assume truth a ≤ m.assume truth b
  bindings : ∀ p ∈ m.bindings.flatten, ∀ {a b : Env}, (some a : State) ≤ some b → p.2 a ≤ p.2 b

section

variable {a b : Env} {ms : List Meaning}

theorem apply_mono {bindings : List (List Assignment)}
    (h : ∀ p ∈ bindings.flatten, ∀ {a b : Env}, (some a : State) ≤ some b → p.2 a ≤ p.2 b)
    (hab : (some a : State) ≤ some b) : (some (apply bindings a) : State) ≤ some (apply bindings b) := by
  unfold apply
  generalize bindings.flatten = ps at h
  induction ps generalizing a b with
  | nil => exact hab
  | cons p ps ih =>
    exact ih (Env.insert_mono hab p.1 (h p (by simp) hab)) (fun q hq => h q (List.mem_cons_of_mem _ hq))

theorem mono_below (h : ∀ m ∈ ms, m.Mono) (p : Assignment) (hp : p ∈ (below ms).flatten)
    {a b : Env} (hab : (some a : State) ≤ some b) : p.2 a ≤ p.2 b := by
  obtain ⟨m, hm, hp⟩ := mem_below.mp hp
  exact (h m hm).bindings p hp hab

theorem assumeName_mono (id : String) (truth : Bool) (hab : (some a : State) ≤ some b) :
    assumeName id truth a ≤ assumeName id truth b := by
  unfold assumeName
  split
  · exact Env.refine_mono hab id .nonNull
  · exact hab

theorem assumeAll_mono (h : ∀ m ∈ ms, m.Mono) (truth : Bool) {s t : State} (hst : s ≤ t) :
    assumeAll truth ms s ≤ assumeAll truth ms t := by
  induction ms generalizing s t with
  | nil => exact hst
  | cons m rest ih =>
    have hm := State.bind_mono ((h m (by simp)).assume truth) hst
    exact ih (fun m' hm' => h m' (List.mem_cons_of_mem _ hm')) hm

theorem assumeFirst_mono (h : ∀ m ∈ ms, m.Mono) (truth : Bool) {s t : State} (hst : s ≤ t) :
    assumeFirst truth ms s ≤ assumeFirst truth ms t := by
  induction ms generalizing s t with
  | nil => exact le_refl _
  | cons m rest ih =>
    have hm := fun truth => State.bind_mono ((h m (by simp)).assume truth) hst
    exact State.join_mono (hm truth) (ih (fun m' hm' => h m' (List.mem_cons_of_mem _ hm')) (hm (!truth)))

theorem chain_mono (h : ∀ m ∈ ms, m.Mono) (stop : Bool) {s t : State} (hst : s ≤ t) :
    ∀ v ∈ chain stop ms s, ∃ w ∈ chain stop ms t, v ≤ w := by
  induction ms generalizing s t with
  | nil => cases s <;> simp [chain]
  | cons m rest ih =>
    cases s with
    | none => simp [chain]
    | some a =>
      obtain ⟨b, rfl, hab⟩ := State.exists_of_some_le hst
      have hm := h m (by simp)
      cases rest with
      | nil =>
        intro v hv
        rw [chain, List.mem_singleton] at hv
        exact ⟨m.value b, by simp [chain], hv ▸ hm.value hab⟩
      | cons m' rest =>
        intro v hv
        simp only [chain, List.mem_append] at hv ⊢
        rcases hv with hv | hv
        · split at hv
          · next hlive =>
            -- The operand can stop the chain above as well, where it says less.
            obtain ⟨a', ha'⟩ := Option.isSome_iff_exists.mp hlive
            have hle := hm.assume stop hab
            rw [ha'] at hle
            obtain ⟨b', hb', -⟩ := State.exists_of_some_le hle
            refine ⟨if stop then .nonNull else m.value b, .inl (by simp [hb']), ?_⟩
            rw [List.mem_singleton.mp hv]
            split
            · exact le_refl _
            · exact hm.value hab
          · cases hv
        · have hrest := ih (fun m' hm' => h m' (List.mem_cons_of_mem _ hm')) (hm.assume (!stop) hab) v hv
          obtain ⟨w, hw, hvw⟩ := hrest
          exact ⟨w, .inr hw, hvw⟩

theorem chain_ne_nil (h : ∀ m ∈ ms, m.Live) (hne : ms ≠ []) (stop : Bool) (env : Env) :
    chain stop ms (some env) ≠ [] := by
  induction ms generalizing env with
  | nil => exact absurd rfl hne
  | cons m rest ih =>
    cases rest with
    | nil => simp [chain]
    | cons m' rest =>
      simp only [chain]
      cases hstop : m.assume stop env with
      | some env' => simp
      | none =>
        obtain ⟨truth, hlive⟩ := h m (by simp) env
        obtain ⟨env', hgo⟩ : ∃ env', m.assume (!stop) env = some env' := by
          rw [← Option.ne_none_iff_exists']
          cases truth <;> cases stop <;> simp_all
        rw [hgo]
        have hrest := ih (fun m' hm' => h m' (List.mem_cons_of_mem _ hm')) (by simp) env'
        simpa using hrest

end

theorem mono_inert {v : Nullness} {ms : List Meaning} (h : ∀ m ∈ ms, m.Mono) : (inert (fun _ => v) ms).Mono where
  value := fun _ => le_refl _
  assume := fun _ _ _ hab => hab
  bindings := mono_below h

theorem mono_literal (lit : Literal) : (literal lit).Mono where
  value := fun _ => le_refl _
  assume := by
    intro truth a b hab
    simp only [literal]
    split
    · exact hab
    · exact le_refl _
  bindings := mono_below (by simp)

theorem mono_name (id : String) : (name id).Mono where
  value := fun hab => Env.verdict_mono hab id
  assume := fun truth _ _ hab => assumeName_mono id truth hab
  bindings := mono_below (by simp)

theorem mono_walrus (target : String) {m : Meaning} (h : m.Mono) : (walrus target m).Mono := by
  have hbindings : ∀ p ∈ ([(target, m.value)] :: m.bindings).flatten, ∀ {a b : Env},
      (some a : State) ≤ some b → p.2 a ≤ p.2 b := by
    intro p hp a b hab
    rcases List.mem_append.mp hp with hp | hp
    · rw [List.mem_singleton.mp hp]
      exact h.value hab
    · exact h.bindings p hp hab
  exact {
    value := h.value
    assume := fun truth _ _ hab => assumeName_mono target truth (apply_mono hbindings hab)
    bindings := hbindings }

theorem mono_not {m : Meaning} (h : m.Mono) : (not m).Mono where
  value := fun _ => le_refl _
  assume := fun truth _ _ hab => h.assume (!truth) hab
  bindings := mono_below (by simpa using h)

theorem mono_junction {op : Junctor} {ms : List Meaning} (h : ∀ m ∈ ms, m.Mono) (hlive : ∀ m ∈ ms, m.Live) :
    (junction op ms).Mono where
  value := by
    intro a b hab
    cases ms with
    | nil => exact le_refl _
    | cons m rest =>
      exact Nullness.joinAll_mono (chain_ne_nil hlive (by simp) _ a) (chain_mono h _ hab)
  assume := by
    intro truth a b hab
    simp only [junction]
    split
    · exact assumeAll_mono h truth hab
    · exact assumeFirst_mono h truth hab
  bindings := mono_below h

theorem mono_compare (check : Option NullCheck) {ms : List Meaning} (h : ∀ m ∈ ms, m.Mono) :
    (compare check ms).Mono where
  value := fun _ => le_refl _
  assume := by
    intro truth a b hab
    cases check with
    | none => exact hab
    | some check => exact Env.refine_mono hab check.name _
  bindings := mono_below h

theorem mono_cond {test body orelse : Meaning} (ht : test.Mono) (hlive : test.Live) (hb : body.Mono)
    (ho : orelse.Mono) : (cond test body orelse).Mono where
  value := by
    intro a b hab
    refine Nullness.joinAll_mono ?_ fun v hv => ?_
    · obtain ⟨truth, h⟩ := hlive a
      obtain ⟨a', ha'⟩ := Option.ne_none_iff_exists'.mp h
      cases truth <;> simp [ha']
    · have hbranch : ∀ {truth : Bool} {m : Meaning}, m.Mono → v ∈ ((test.assume truth a).map m.value).toList →
          ∃ w ∈ ((test.assume truth b).map m.value).toList, v ≤ w := by
        intro truth m hm hv
        obtain ⟨a', ha', rfl⟩ := Option.map_eq_some_iff.mp (Option.mem_toList.mp hv)
        have hle := ht.assume truth hab
        rw [ha'] at hle
        obtain ⟨b', hb', hab'⟩ := State.exists_of_some_le hle
        exact ⟨m.value b', by simp [hb'], hm.value hab'⟩
      rcases List.mem_append.mp hv with hv | hv
      · obtain ⟨w, hw, hvw⟩ := hbranch hb hv
        exact ⟨w, List.mem_append_left _ hw, hvw⟩
      · obtain ⟨w, hw, hvw⟩ := hbranch ho hv
        exact ⟨w, List.mem_append_right _ hw, hvw⟩
  assume := fun _ _ _ hab => hab
  bindings := mono_below (by simpa using ⟨ht, hb, ho⟩)

theorem callValue_mono (callee : Expr) {a b : Env} (hab : (some a : State) ≤ some b) :
    callValue callee a ≤ callValue callee b := by
  unfold callValue
  split
  · next id =>
    by_cases hb : b.contains id = true
    · simp only [hb, Bool.not_true, Bool.and_false, Bool.false_eq_true, ↓reduceIte]
      split <;> decide
    · have ha : a.contains id = false := by
        by_contra h
        exact hb (Env.contains_mono hab (by simpa using h))
      simp [hb, ha]
  · exact le_refl _

theorem mono_call (callee : Expr) (args : List Expr) {ms : List Meaning} (h : ∀ m ∈ ms, m.Mono) :
    (call callee args ms).Mono where
  value := callValue_mono callee
  assume := by
    intro truth a b hab
    simp only [call]
    split
    · exact Env.refine_mono hab _ .nonNull
    · exact hab
  bindings := mono_below h

end Meaning

namespace Expr

theorem mono_meanings {es : List Expr} (h : ∀ e ∈ es, e.meaning.Mono) : ∀ m ∈ meanings es, m.Mono :=
  forall_mem_meanings.mpr h

theorem mono_meaning (e : Expr) : e.meaning.Mono := by
  induction e with
  | literal value => exact Meaning.mono_literal value
  | name id => exact Meaning.mono_name id
  | walrus target value ih => exact Meaning.mono_walrus target ih
  | not operand ih => exact Meaning.mono_not ih
  | junction op operands ih =>
    exact Meaning.mono_junction (mono_meanings ih) (forall_mem_meanings.mpr fun e _ => live_meaning e)
  | compare left ops rights ihl ihr =>
    exact Meaning.mono_compare _ (List.forall_mem_cons.mpr ⟨ihl, mono_meanings ihr⟩)
  | cond test body orelse iht ihb iho => exact Meaning.mono_cond iht (live_meaning test) ihb iho
  | call callee args keywords ihc iha ihk =>
    refine Meaning.mono_call callee args (List.forall_mem_cons.mpr ⟨ihc, fun m hm => ?_⟩)
    exact (List.mem_append.mp hm).elim (mono_meanings iha m) (mono_meanings ihk m)
  | keyword name value ih => exact Meaning.mono_inert (by simpa using ih)
  | member value field ih => exact Meaning.mono_inert (by simpa using ih)
  | subscript value index ihv ihi => exact Meaning.mono_inert (by simpa using ⟨ihv, ihi⟩)
  | starred value ih => exact Meaning.mono_inert (by simpa using ih)
  | tuple items ih => exact Meaning.mono_inert (mono_meanings ih)
  | list items ih => exact Meaning.mono_inert (mono_meanings ih)
  | binary op left right ihl ihr => exact Meaning.mono_inert (by simpa using ⟨ihl, ihr⟩)
  | form kind parts ih => exact Meaning.mono_inert (mono_meanings ih)

theorem evaluate_mono (e : Expr) {a b : Env} (hab : (some a : State) ≤ some b) : e.evaluate a ≤ e.evaluate b :=
  (mono_meaning e).value hab

theorem assume_mono (e : Expr) (truth : Bool) {s t : State} (hst : s ≤ t) : e.assume truth s ≤ e.assume truth t :=
  State.bind_mono ((mono_meaning e).assume truth) hst

theorem effects_mono (e : Expr) {a b : Env} (hab : (some a : State) ≤ some b) :
    (some (e.effects a) : State) ≤ some (e.effects b) :=
  Meaning.apply_mono (mono_meaning e).bindings hab

end Expr

end NullContract
