import NullContract.Proofs.MonotoneMeaning
import NullContract.Proofs.Semantics

namespace NullContract

def Nullness.Admits : Nullness → Value → Prop
  | .null, v => v = .none
  | .nonNull, v => v ≠ .none
  | .unknown, _ | .nullable, _ => True

instance (n : Nullness) (v : Value) : Decidable (n.Admits v) :=
  match n with
  | .null => inferInstanceAs (Decidable (v = .none))
  | .nonNull => inferInstanceAs (Decidable (v ≠ .none))
  | .unknown | .nullable => isTrue trivial

theorem Nullness.Admits.mono {n m : Nullness} {v : Value} (h : n.Admits v) (hle : n ≤ m) : m.Admits v := by
  cases m with
  | null =>
    obtain rfl : n = .null := by revert hle; cases n <;> decide
    exact h
  | nonNull =>
    obtain rfl : n = .nonNull := by revert hle; cases n <;> decide
    exact h
  | unknown => trivial
  | nullable => trivial

/-- What an environment says of a name allows what a store has for it: an unbound name is always allowed, and a name
that the environment does not have has to be unbound. -/
def slotFits : Option Nullness → Option Value → Prop
  | _, none => True
  | none, some _ => False
  | some n, some v => n.Admits v

theorem slotFits_mono {a b : Option Nullness} (hle : joinSlots a b = b) {v : Option Value} (h : slotFits a v) :
    slotFits b v := by
  cases v with
  | none => trivial
  | some v =>
    cases a with
    | none => cases h
    | some n =>
      cases b with
      | none => cases hle
      | some m => exact Nullness.Admits.mono h (Option.some.inj hle)

namespace Store

def Fits (σ : Store) (env : Env) : Prop :=
  ∀ x : String, slotFits env[x]? (σ x)

variable {σ : Store} {env : Env} {x : String} {v : Value} {n : Nullness}

theorem Fits.mono {env' : Env} (h : σ.Fits env) (hle : (some env : State) ≤ some env') : σ.Fits env' :=
  fun x => slotFits_mono (State.some_le_some.mp hle x) (h x)

theorem Fits.admits (h : σ.Fits env) (hx : σ x = some v) : (env.verdict x).Admits v := by
  have hslot := h x
  rw [hx] at hslot
  unfold Env.verdict
  cases hn : env[x]? with
  | none => exact trivial
  | some n =>
    rw [hn] at hslot
    exact hslot

theorem Fits.set (h : σ.Fits env) (hn : n.Admits v) : (σ.set x (some v)).Fits (env.insert x n) := by
  intro y
  rw [Env.getElem?_insert, Store.set, Function.update_apply]
  by_cases hy : x = y
  · subst hy
    simpa [slotFits] using hn
  · rw [if_neg hy, if_neg (Ne.symm hy)]
    exact h y

theorem Fits.unset (h : σ.Fits env) : (σ.set x none).Fits env := by
  intro y
  rw [Store.set, Function.update_apply]
  split
  · exact trivial
  · exact h y

theorem Fits.erase (h : σ.Fits env) : (σ.set x none).Fits (env.erase x) := by
  intro y
  rw [Env.getElem?_erase, Store.set, Function.update_apply]
  by_cases hy : x = y
  · simp [hy, slotFits]
  · rw [if_neg hy, if_neg (Ne.symm hy)]
    exact h y

theorem Fits.refine (h : σ.Fits env) (hx : σ x = some v) (hn : n.Admits v) :
    ∃ env', env.refine x n = some env' ∧ σ.Fits env' := by
  have hverdict := h.admits hx
  refine ⟨env.insert x n, Env.refine_eq_some.mpr ⟨?_, ?_, rfl⟩, ?_⟩
  · rintro ⟨rfl, hx'⟩
    rw [hx'] at hverdict
    exact hverdict hn
  · rintro ⟨rfl, hx'⟩
    rw [hx'] at hverdict
    exact hn hverdict
  · have hset : σ.set x (some v) = σ := by rw [Store.set, ← hx, Function.update_eq_self]
    rw [← hset]
    exact h.set hn

end Store

namespace State

def Admits (state : State) (σ : Store) : Prop :=
  ∃ env, state = some env ∧ σ.Fits env

variable {s t : State} {σ : Store}

theorem Admits.mono (h : s.Admits σ) (hle : s ≤ t) : t.Admits σ := by
  obtain ⟨env, rfl, hfits⟩ := h
  obtain ⟨env', rfl, henv⟩ := exists_of_some_le hle
  exact ⟨env', rfl, hfits.mono henv⟩

theorem Admits.of_fits {env : Env} (h : σ.Fits env) : State.Admits (some env) σ :=
  ⟨env, rfl, h⟩

end State

namespace Meaning

variable {m m' : Meaning} {ms : List Meaning} {env env' : Env}

theorem joinAll_chain_le (hlive : ∀ m ∈ m' :: ms, m.Live) (stop : Bool) (h : m.assume (!stop) env = some env') :
    Nullness.joinAll (chain stop (m' :: ms) (some env')) ≤
      Nullness.joinAll (chain stop (m :: m' :: ms) (some env)) := by
  refine Nullness.joinAll_mono (chain_ne_nil hlive (by simp) stop env') fun v hv => ⟨v, ?_, le_refl v⟩
  simp only [chain, h]
  exact List.mem_append_right _ hv

theorem le_joinAll_chain (stop : Bool) (h : m.assume stop env = some env') :
    (if stop then .nonNull else m.value env) ≤ Nullness.joinAll (chain stop (m :: m' :: ms) (some env)) := by
  refine Nullness.le_joinAll ?_
  simp [chain, h]

end Meaning

namespace Value

@[simp] theorem truth_ofBool (b : Bool) : (ofBool b).truth = b := by
  cases b <;> rfl

theorem ofBool_ne_none (b : Bool) : ofBool b ≠ none := by
  cases b <;> decide

theorem ne_none_of_truth {v : Value} (h : v.truth = true) : v ≠ none := by
  rintro rfl
  cases h

end Value

theorem Literal.truth_val (lit : Literal) : lit.val.truth = lit.truthy := by
  unfold Literal.val
  split
  · next h =>
    subst h
    rfl
  · exact Value.truth_ofBool _

section

variable {σ : Store}

theorem yields_none {e : Expr} {v : Value} (he : e.isNone = true) (h : Yields σ e v) : v = .none := by
  cases e with
  | literal lit =>
    cases lit with
    | none =>
      cases h with
      | literal => rfl
      | built h _ => cases h
      | opens h => cases h
    | _ => cases he
  | _ => cases he

theorem yields_name {id : String} {v : Value} (h : Yields σ (.name id) v) : σ id = some v := by
  cases h with
  | name h => exact h
  | built h _ => cases h
  | opens h => cases h

structure Sound (σ : Store) (env : Env) (e : Expr) (v : Value) : Prop where
  value : (e.evaluate env).Admits v
  assume : (e.meaning.assume v.truth env).Admits σ

variable {env : Env}

theorem sound_literal (henv : σ.Fits env) (lit : Literal) : Sound σ env (.literal lit) lit.val where
  value := by
    simp only [Expr.evaluate, Expr.meaning, Meaning.literal, Literal.val]
    split
    · exact rfl
    · exact Value.ofBool_ne_none _
  assume := by
    simp only [Expr.meaning, Meaning.literal, Literal.truth_val, if_true]
    exact .of_fits henv

theorem sound_name (henv : σ.Fits env) {id : String} {v : Value} (h : σ id = some v) : Sound σ env (.name id) v where
  value := henv.admits h
  assume := by
    simp only [Expr.meaning, Meaning.name, Meaning.assumeName]
    split
    · next htrue => exact henv.refine h (n := .nonNull) (Value.ne_none_of_truth htrue)
    · exact .of_fits henv

theorem sound_not {e : Expr} {v : Value} (h : Sound σ env e v) : Sound σ env (.not e) (.ofBool !v.truth) where
  value := Value.ofBool_ne_none _
  assume := by
    simpa only [Expr.meaning, Meaning.not, Value.truth_ofBool, Bool.not_not] using h.assume

section

variable {op : Junctor} {e e' : Expr} {rest : List Expr} {v w : Value}

theorem sound_lastOperand (h : Sound σ env e v) : Sound σ env (.junction op [e]) v where
  value := h.value
  assume := by
    simp only [Expr.meaning, Expr.meanings, Meaning.junction, Meaning.assumeAll, Meaning.assumeFirst,
      State.join_none, Option.bind_some, ite_self]
    exact h.assume

theorem sound_decides (h : Sound σ env e v) (hv : v.truth = decide (op = .or)) :
    Sound σ env (.junction op (e :: e' :: rest)) v where
  value := by
    obtain ⟨env', henv', -⟩ := h.assume
    rw [hv] at henv'
    refine Nullness.Admits.mono ?_ (Meaning.le_joinAll_chain _ henv')
    split
    · next hor => exact Value.ne_none_of_truth (hv.trans hor)
    · exact h.value
  assume := by
    have hop : decide (op = .and) ≠ v.truth := by
      rw [hv]
      cases op <;> decide
    simp only [Expr.meaning, Meaning.junction, if_neg hop]
    exact h.assume.mono (State.le_join_left _ _)

theorem sound_goesOn (h : Sound σ env e w) (hw : w.truth = !decide (op = .or))
    (hrest : ∀ {env : Env}, σ.Fits env → Sound σ env (.junction op (e' :: rest)) v) :
    Sound σ env (.junction op (e :: e' :: rest)) v := by
  obtain ⟨env', henv', hfits⟩ := h.assume
  rw [hw] at henv'
  have hr := hrest hfits
  have hlive : ∀ m ∈ Expr.meanings (e' :: rest), m.Live := Expr.forall_mem_meanings.mpr fun t _ => t.live_meaning
  refine ⟨hr.value.mono (Meaning.joinAll_chain_le hlive _ henv'), ?_⟩
  have hassume := hr.assume
  simp only [Expr.meaning, Meaning.junction] at hassume ⊢
  split at hassume
  · next hop =>
    -- All operands have the outcome, this one as well.
    have hgo : v.truth = !decide (op = .or) := by rw [← hop]; cases op <;> decide
    rw [if_pos hop, Expr.meanings, Meaning.assumeAll, Option.bind_some, hgo, henv', ← hgo]
    exact hassume
  · next hop =>
    have hstop : (!v.truth) = !decide (op = .or) := by
      revert hop
      cases op <;> cases v.truth <;> decide
    rw [if_neg hop, Expr.meanings, Meaning.assumeFirst, Option.bind_some, Option.bind_some, hstop, henv']
    exact hassume.mono (State.le_join_right _ _)

end

theorem comparesNone_of_check {left : Expr} {ops : List Comparison} {rights : List Expr} {check : NullCheck}
    (h : NullCheck.ofCompare? left ops rights = some check) : comparesNone left ops rights := by
  obtain ⟨op, right, rest, rfl, rfl, hop, hsides⟩ := NullCheck.ofCompare?_eq_some h
  refine ⟨?_, ?_⟩
  · revert hop
    cases op <;> simp [Comparison.assertsNull?]
  · rcases hsides with ⟨-, rfl⟩ | ⟨rfl, -⟩ <;> simp [Expr.isNone]

theorem sound_nullTest (henv : σ.Fits env) {op : Comparison} {asserts : Bool} (hop : op.assertsNull? = some asserts)
    {left right : Expr} {rest : List Expr} {a b : Value} (hl : Yields σ left a) (hr : Yields σ right b) :
    Sound σ env (.compare left [op] (right :: rest)) (.ofBool (decide (a = b) = asserts)) := by
  refine ⟨Value.ofBool_ne_none _, ?_⟩
  simp only [Expr.meaning, Meaning.compare, Value.truth_ofBool]
  cases hcheck : NullCheck.ofCompare? left [op] (right :: rest) with
  | none => exact .of_fits henv
  | some check =>
    obtain ⟨op', right', rest', hops, hrights, hasserts, hsides⟩ := NullCheck.ofCompare?_eq_some hcheck
    cases hops
    cases hrights
    have hname : ∃ w, σ check.name = some w ∧ (a = b ↔ w = .none) := by
      rcases hsides with ⟨rfl, rfl⟩ | ⟨rfl, rfl⟩
      · obtain rfl := yields_none rfl hr
        exact ⟨a, yields_name hl, Iff.rfl⟩
      · obtain rfl := yields_none rfl hl
        exact ⟨b, yields_name hr, eq_comm⟩
    obtain ⟨w, hw, hiff⟩ := hname
    obtain rfl : asserts = check.assertsNull := Option.some.inj (hop.symm.trans hasserts)
    refine henv.refine hw ?_
    by_cases hnone : w = .none
    · simp only [hiff.mpr hnone]
      cases check.assertsNull <;> exact hnone
    · simp only [hiff, hnone]
      cases check.assertsNull <;> exact hnone

theorem sound_compare (henv : σ.Fits env) {left : Expr} {ops : List Comparison} {rights : List Expr} {v : Value}
    (h : ¬ comparesNone left ops rights) (hv : v ≠ .none) : Sound σ env (.compare left ops rights) v := by
  refine ⟨hv, ?_⟩
  simp only [Expr.meaning, Meaning.compare]
  cases hcheck : NullCheck.ofCompare? left ops rights with
  | none => exact .of_fits henv
  | some check => exact absurd (comparesNone_of_check hcheck) h

theorem sound_cond (henv : σ.Fits env) {test body orelse : Expr} {v w : Value} (ht : Sound σ env test w)
    (hb : w.truth = true → ∀ {env : Env}, σ.Fits env → (body.evaluate env).Admits v)
    (ho : w.truth = false → ∀ {env : Env}, σ.Fits env → (orelse.evaluate env).Admits v) :
    Sound σ env (.cond test body orelse) v := by
  refine ⟨?_, .of_fits henv⟩
  obtain ⟨env', henv', hfits⟩ := ht.assume
  cases htruth : w.truth with
  | true =>
    rw [htruth] at henv'
    exact (hb htruth hfits).mono (Nullness.le_joinAll (by simp [henv', Expr.evaluate]))
  | false =>
    rw [htruth] at henv'
    exact (ho htruth hfits).mono (Nullness.le_joinAll (by simp [henv', Expr.evaluate]))

theorem admits_callValue (henv : σ.Fits env) {callee : Expr} {v : Value}
    (hbuiltin : ∀ id ∈ nonNullBuiltins, callee = .name id → σ id = none → v ≠ .none) :
    (Meaning.callValue callee env).Admits v := by
  unfold Meaning.callValue
  split
  · next id =>
    split
    · next h =>
      rw [Bool.and_eq_true, Bool.not_eq_true', List.contains_iff_mem, Std.ExtTreeMap.contains_eq_isSome_getElem?,
        Option.isSome_eq_false_iff, Option.isNone_iff_eq_none] at h
      obtain ⟨hmem, habsent⟩ := h
      have hunbound : σ id = none := by
        have hslot := henv id
        rw [habsent] at hslot
        cases hid : σ id with
        | none => rfl
        | some w =>
          rw [hid] at hslot
          cases hslot
      exact hbuiltin id hmem rfl hunbound
    · trivial
  · trivial

namespace Expr

theorem namesNone_iff {t : Expr} : t.NamesNone ↔ t.isNone = true ∨ t.headName? = some "NoneType" := by
  cases t with
  | literal lit => cases lit <;> simp [NamesNone, isNone, headName?]
  | _ => simp [NamesNone, isNone, headName?]

theorem NamesNone.spellsNone {t : Expr} (h : t.NamesNone) : t.SpellsNone := by
  unfold NamesNone at h
  split at h
  · trivial
  · exact h
  · exact h
  · cases h

theorem mentionsNone_eq_false {e : Expr} : e.mentionsNone = false ↔ ∀ t ∈ e.subterms, ¬ t.NamesNone := by
  simp [mentionsNone, List.any_eq_false, namesNone_iff]

theorem not_mentionsNone {kinds : Expr} (h : kinds.mentionsNone = false) (hkinds : ¬ kinds.HidesNone) :
    ¬ kinds.MentionsNone :=
  fun hmentions => hkinds ⟨hmentions, mentionsNone_eq_false.mp h⟩

theorem forall_mem_testedTypes_cond {test body orelse : Expr} {P : Expr → Prop} :
    (∀ kinds ∈ (cond test body orelse).testedTypes, P kinds) ↔
      (∀ kinds ∈ test.testedTypes, P kinds) ∧ (∀ kinds ∈ body.testedTypes, P kinds) ∧
      ∀ kinds ∈ orelse.testedTypes, P kinds := by
  rw [testedTypes, List.forall_mem_append, List.forall_mem_append, and_assoc]

theorem mem_testedTypes_call {id : String} {kinds : Expr} {keywords : List Expr} :
    kinds ∈ (call (name "isinstance") [name id, kinds] keywords).testedTypes :=
  List.mem_singleton_self kinds

theorem mem_testedTypesOfList {es : List Expr} {kinds : Expr} :
    kinds ∈ testedTypesOfList es ↔ ∃ e ∈ es, kinds ∈ e.testedTypes := by
  induction es with
  | nil => simp [testedTypesOfList]
  | cons e rest ih => simp [testedTypesOfList, ih]

theorem testedTypes_subset_subterms {e kinds : Expr} (h : kinds ∈ e.testedTypes) : kinds ∈ e.subterms := by
  induction e using inductionOnChildren with
  | h e ih =>
    have hchild : ∀ c ∈ e.children, kinds ∈ c.testedTypes → kinds ∈ e.subterms :=
      fun c hc hkinds => mem_subterms.mpr (.inr ⟨c, hc, ih c hc hkinds⟩)
    unfold testedTypes at h
    split at h
    · exact hchild _ (List.mem_singleton_self _) h
    · exact hchild _ (List.mem_singleton_self _) h
    · obtain ⟨c, hc, h⟩ := mem_testedTypesOfList.mp h
      exact hchild c hc h
    · rcases List.mem_append.mp h with h | h
      · rcases List.mem_append.mp h with h | h
        · exact hchild _ (by simp [children]) h
        · exact hchild _ (by simp [children]) h
      · exact hchild _ (by simp [children]) h
    · obtain rfl := List.mem_singleton.mp h
      exact mem_subterms.mpr (.inr ⟨kinds, by simp [children], mem_subterms_self kinds⟩)
    · cases h

theorem assigned_of_subterm {e t : Expr} (ht : t ∈ e.subterms) (h : e.assigned = []) : t.assigned = [] := by
  rw [assigned, List.filterMap_eq_nil_iff] at h ⊢
  exact fun u hu => h u (subterms_trans ht hu)

end Expr

theorem sound_call (henv : σ.Fits env) {callee : Expr} {args keywords : List Expr} {v : Value}
    (h : CallGives σ callee args v)
    (hovert : ∀ kinds ∈ (Expr.call callee args keywords).testedTypes, ¬ kinds.HidesNone) :
    Sound σ env (.call callee args keywords) v := by
  refine ⟨admits_callValue henv h.builtin, ?_⟩
  simp only [Expr.meaning, Meaning.call]
  split
  · next id htrue htest =>
    obtain ⟨rfl, kinds, rfl, hkinds⟩ := Meaning.typeTest?_eq_some htest
    have hmentions := Expr.not_mentionsNone hkinds (hovert kinds Expr.mem_testedTypes_call)
    obtain ⟨w, hw, hne⟩ := h.typeTest id kinds rfl rfl hmentions htrue
    exact henv.refine hw (n := .nonNull) hne
  · exact .of_fits henv

theorem sound_built (henv : σ.Fits env) {e : Expr} {v : Value} (h : e.isBuilt = true) (hv : v ≠ .none) :
    Sound σ env e v := by
  cases e with
  | tuple items => exact ⟨hv, .of_fits henv⟩
  | list items => exact ⟨hv, .of_fits henv⟩
  | binary op left right => exact ⟨hv, .of_fits henv⟩
  | form kind parts =>
    refine ⟨?_, .of_fits henv⟩
    have hbuilds : kind.buildsValue = true := by
      revert h
      cases kind <;> simp [Expr.isBuilt, Form.buildsValue]
    simp only [Expr.evaluate, Expr.meaning, Meaning.inert, hbuilds, if_true]
    exact hv
  | _ => cases h

theorem sound_opens (henv : σ.Fits env) {e : Expr} {v : Value} (h : e.isOpen = true) : Sound σ env e v := by
  cases e with
  | keyword name value => exact ⟨trivial, .of_fits henv⟩
  | member value field => exact ⟨trivial, .of_fits henv⟩
  | subscript value index => exact ⟨trivial, .of_fits henv⟩
  | starred value => exact ⟨trivial, .of_fits henv⟩
  | form kind parts =>
    refine ⟨?_, .of_fits henv⟩
    have hbuilds : kind.buildsValue = false := by
      revert h
      cases kind <;> simp [Expr.isOpen, Form.buildsValue]
    simp only [Expr.evaluate, Expr.meaning, Meaning.inert, hbuilds]
    trivial
  | _ => cases h

theorem Yields.sound {e : Expr} {v : Value} (h : Yields σ e v) (hovert : ∀ kinds ∈ e.testedTypes, ¬ kinds.HidesNone)
    {env : Env} (henv : σ.Fits env) : Sound σ env e v := by
  induction h generalizing env with
  | literal lit => exact sound_literal henv lit
  | name h => exact sound_name henv h
  | not _ ih => exact sound_not (ih hovert henv)
  | lastOperand _ ih =>
    obtain ⟨hoperand, -⟩ := List.forall_mem_append.mp hovert
    exact sound_lastOperand (ih hoperand henv)
  | decides _ hv ih =>
    obtain ⟨hoperand, -⟩ := List.forall_mem_append.mp hovert
    exact sound_decides (ih hoperand henv) hv
  | goesOn _ hw _ ih ihrest =>
    obtain ⟨hoperand, hrest⟩ := List.forall_mem_append.mp hovert
    exact sound_goesOn (ih hoperand henv) hw (ihrest hrest)
  | @same op _ _ _ _ _ hop _ hl hr _ _ =>
    have hasserts : op.assertsNull? = some true := by rcases hop with rfl | rfl <;> rfl
    simpa using sound_nullTest henv hasserts hl hr
  | @differs op _ _ _ _ _ hop _ hl hr _ _ =>
    have hasserts : op.assertsNull? = some false := by rcases hop with rfl | rfl <;> rfl
    simpa using sound_nullTest henv hasserts hl hr
  | compare h hv => exact sound_compare henv h hv
  | condTrue _ hw _ iht ih =>
    obtain ⟨htest, hbody, -⟩ := Expr.forall_mem_testedTypes_cond.mp hovert
    exact sound_cond henv (iht htest henv) (fun _ _ hfits => (ih hbody hfits).value)
      (fun hf => absurd (hf.symm.trans hw) (by decide))
  | condFalse _ hw _ iht ih =>
    obtain ⟨htest, -, horelse⟩ := Expr.forall_mem_testedTypes_cond.mp hovert
    exact sound_cond henv (iht htest henv) (fun ht => absurd (ht.symm.trans hw) (by decide))
      (fun _ _ hfits => (ih horelse hfits).value)
  | call h => exact sound_call henv h hovert
  | built h hv => exact sound_built henv h hv
  | opens h => exact sound_opens henv h

end

end NullContract
