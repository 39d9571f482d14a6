import NullContract.Proofs.Names
import NullContract.Proofs.StateOrder

namespace NullContract

namespace Env

def put (env : Env) (x : String) : Option Nullness → Env
  | none => env.erase x
  | some v => env.insert x v

variable {n x : String} {v : Option Nullness}

@[simp] theorem getElem?_put (env : Env) (n y : String) (v : Option Nullness) :
    (env.put n v)[y]? = if n = y then v else env[y]? := by
  cases v <;> simp [put]

theorem put_put (env : Env) (n : String) (v w : Option Nullness) : (env.put n v).put n w = env.put n w := by
  apply Std.ExtTreeMap.ext_getElem?
  intro y
  by_cases hy : n = y <;> simp [hy]

theorem put_slot (env : Env) (n : String) : env.put n env[n]? = env := by
  apply Std.ExtTreeMap.ext_getElem?
  intro y
  by_cases hy : n = y <;> simp [hy]

theorem join_put (a b : Env) (n : String) (v : Option Nullness) : (a.put n v).join (b.put n v) = (a.join b).put n v := by
  apply Std.ExtTreeMap.ext_getElem?
  intro y
  by_cases hy : n = y <;> simp [hy]

theorem insert_put (h : x ≠ n) (env : Env) (w : Nullness) : (env.put n v).insert x w = put (env.insert x w) n v := by
  apply Std.ExtTreeMap.ext_getElem?
  intro y
  by_cases hx : x = y
  · subst hx
    simp [h.symm]
  · by_cases hy : n = y <;> simp [hx, hy]

theorem erase_put (h : x ≠ n) (env : Env) : (env.put n v).erase x = put (env.erase x) n v := by
  apply Std.ExtTreeMap.ext_getElem?
  intro y
  by_cases hx : x = y
  · subst hx
    simp [h.symm]
  · by_cases hy : n = y <;> simp [hx, hy]

theorem verdict_put (h : x ≠ n) (env : Env) : (env.put n v).verdict x = env.verdict x := by
  simp [verdict, h.symm]

theorem contains_put (h : x ≠ n) (env : Env) : (env.put n v).contains x = env.contains x := by
  rw [Std.ExtTreeMap.contains_eq_isSome_getElem?, getElem?_put, if_neg h.symm,
    Std.ExtTreeMap.contains_eq_isSome_getElem?]

theorem bindAll_put {names : List String} (h : n ∉ names) (env : Env) (w : Nullness) :
    (env.put n v).bindAll names w = (env.bindAll names w).put n v := by
  unfold bindAll
  induction names generalizing env with
  | nil => rfl
  | cons x names ih =>
    rw [List.mem_cons, not_or] at h
    rw [List.foldl_cons, List.foldl_cons, insert_put (Ne.symm h.1), ih h.2]

end Env

namespace State

def put (state : State) (n : String) (v : Option Nullness) : State :=
  state.map fun env => env.put n v

variable {n x : String} {v : Option Nullness}

@[simp] theorem put_none (n : String) (v : Option Nullness) : put none n v = none := rfl

@[simp] theorem put_some (env : Env) (n : String) (v : Option Nullness) : put (some env) n v = some (env.put n v) := rfl

theorem put_put (state : State) (n : String) (v w : Option Nullness) : (state.put n v).put n w = state.put n w := by
  cases state with
  | none => rfl
  | some env => simp [Env.put_put]

theorem exists_put_eq (state : State) (n : String) : ∃ v, state.put n v = state := by
  cases state with
  | none => exact ⟨none, rfl⟩
  | some env => exact ⟨env[n]?, congrArg some (env.put_slot n)⟩

theorem join_put (s t : State) (n : String) (v : Option Nullness) : (s.put n v).join (t.put n v) = (s.join t).put n v := by
  cases s with
  | none => simp
  | some a =>
    cases t with
    | none => simp
    | some b => exact congrArg some (a.join_put b n v)

theorem map_put {f : Env → Env} (hf : ∀ env : Env, f (env.put n v) = (f env).put n v) (state : State) :
    Option.map f (state.put n v) = put (state.map f) n v := by
  cases state with
  | none => rfl
  | some env => exact congrArg some (hf env)

theorem bind_put {f : Env → State} (hf : ∀ env : Env, f (env.put n v) = (f env).put n v) (state : State) :
    Option.bind (state.put n v) f = put (state.bind f) n v := by
  cases state with
  | none => rfl
  | some env => exact hf env

theorem refine_put (h : x ≠ n) (env : Env) (required : Nullness) :
    (env.put n v).refine x required = put (env.refine x required) n v := by
  unfold Env.refine
  rw [Env.verdict_put h, Env.insert_put h]
  split <;> rfl

end State

namespace Meaning

structure Ignores (n : String) (m : Meaning) : Prop where
  value : ∀ v env, m.value (env.put n v) = m.value env
  assume : ∀ truth v env, m.assume truth (env.put n v) = (m.assume truth env).put n v
  bindings : ∀ p ∈ m.bindings.flatten, p.1 ≠ n ∧ ∀ v env, p.2 (env.put n v) = p.2 env

section

variable {n : String} {ms : List Meaning}

theorem apply_put {bindings : List (List Assignment)}
    (h : ∀ p ∈ bindings.flatten, p.1 ≠ n ∧ ∀ v env, p.2 (env.put n v) = p.2 env) (v : Option Nullness) (env : Env) :
    apply bindings (env.put n v) = (apply bindings env).put n v := by
  unfold apply
  generalize bindings.flatten = ps at h
  induction ps generalizing env with
  | nil => rfl
  | cons p ps ih =>
    obtain ⟨⟨hname, hvalue⟩, hrest⟩ := List.forall_mem_cons.mp h
    rw [List.foldl_cons, List.foldl_cons, hvalue, Env.insert_put hname, ih _ hrest]

theorem ignores_below (h : ∀ m ∈ ms, m.Ignores n) (p : Assignment) (hp : p ∈ (below ms).flatten) :
    p.1 ≠ n ∧ ∀ v env, p.2 (env.put n v) = p.2 env := by
  obtain ⟨m, hm, hp⟩ := mem_below.mp hp
  exact (h m hm).bindings p hp

theorem assumeName_put {id : String} (h : id ≠ n) (truth : Bool) (v : Option Nullness) (env : Env) :
    assumeName id truth (env.put n v) = (assumeName id truth env).put n v := by
  unfold assumeName
  split
  · exact State.refine_put h env .nonNull
  · rfl

theorem assumeAll_put (h : ∀ m ∈ ms, m.Ignores n) (truth : Bool) (v : Option Nullness) (state : State) :
    assumeAll truth ms (state.put n v) = (assumeAll truth ms state).put n v := by
  induction ms generalizing state with
  | nil => rfl
  | cons m rest ih =>
    obtain ⟨hm, hrest⟩ := List.forall_mem_cons.mp h
    rw [assumeAll, assumeAll, State.bind_put (hm.assume truth v), ih hrest]

theorem assumeFirst_put (h : ∀ m ∈ ms, m.Ignores n) (truth : Bool) (v : Option Nullness) (state : State) :
    assumeFirst truth ms (state.put n v) = (assumeFirst truth ms state).put n v := by
  induction ms generalizing state with
  | nil => rfl
  | cons m rest ih =>
    obtain ⟨hm, hrest⟩ := List.forall_mem_cons.mp h
    rw [assumeFirst, assumeFirst, State.bind_put (hm.assume truth v), State.bind_put (hm.assume (!truth) v), ih hrest,
      State.join_put]

theorem chain_put (h : ∀ m ∈ ms, m.Ignores n) (stop : Bool) (v : Option Nullness) (state : State) :
    chain stop ms (state.put n v) = chain stop ms state := by
  induction ms generalizing state with
  | nil => cases state <;> rfl
  | cons m rest ih =>
    obtain ⟨hm, hrest⟩ := List.forall_mem_cons.mp h
    cases state with
    | none => rfl
    | some env =>
      cases rest with
      | nil => simp only [State.put_some, chain, hm.value]
      | cons m' rest =>
        have hlive : ((m.assume stop env).put n v).isSome = (m.assume stop env).isSome := Option.isSome_map
        simp only [State.put_some, chain, hm.value, hm.assume, hlive, ih hrest]

theorem callValue_put {callee : Expr} (h : n ∉ callee.names) (v : Option Nullness) (env : Env) :
    callValue callee (env.put n v) = callValue callee env := by
  unfold callValue
  split
  · next id =>
    -- A call looks its callee up in the environment, to see whether a builtin is shadowed.
    have hid : id ≠ n := by
      rintro rfl
      exact h (Expr.mem_names_of_subterms (Expr.mem_subterms_self _) rfl)
    rw [Env.contains_put hid]
  · rfl

end

variable {n : String} {ms : List Meaning}

theorem ignores_inert (value : Nullness) (h : ∀ m ∈ ms, m.Ignores n) : (inert (fun _ => value) ms).Ignores n where
  value := fun _ _ => rfl
  assume := fun _ _ _ => rfl
  bindings := ignores_below h

theorem ignores_literal (lit : Literal) : (literal lit).Ignores n where
  value := fun _ _ => rfl
  assume := by
    intro truth v env
    simp only [literal]
    split <;> rfl
  bindings := ignores_below (by simp)

theorem ignores_name {id : String} (h : id ≠ n) : (name id).Ignores n where
  value := fun _ env => Env.verdict_put h env
  assume := assumeName_put h
  bindings := ignores_below (by simp)

theorem ignores_walrus {target : String} (h : target ≠ n) {m : Meaning} (hm : m.Ignores n) :
    (walrus target m).Ignores n := by
  have hbindings : ∀ p ∈ ([(target, m.value)] :: m.bindings).flatten,
      p.1 ≠ n ∧ ∀ v env, p.2 (env.put n v) = p.2 env := by
    intro p hp
    rcases List.mem_append.mp hp with hp | hp
    · rw [List.mem_singleton.mp hp]
      exact ⟨h, hm.value⟩
    · exact hm.bindings p hp
  refine { value := hm.value, assume := ?_, bindings := hbindings }
  intro truth v env
  simp only [walrus]
  rw [apply_put hbindings, assumeName_put h]

theorem ignores_not {m : Meaning} (h : m.Ignores n) : (not m).Ignores n where
  value := fun _ _ => rfl
  assume := fun truth v env => h.assume (!truth) v env
  bindings := ignores_below (by simpa using h)

theorem ignores_junction (op : Junctor) (h : ∀ m ∈ ms, m.Ignores n) : (junction op ms).Ignores n where
  value := fun v env => congrArg Nullness.joinAll (chain_put h _ v (some env))
  assume := by
    intro truth v env
    simp only [junction]
    split
    · exact assumeAll_put h truth v (some env)
    · exact assumeFirst_put h truth v (some env)
  bindings := ignores_below h

theorem ignores_compare {check : Option NullCheck} (hcheck : ∀ c, check = some c → c.name ≠ n)
    (h : ∀ m ∈ ms, m.Ignores n) : (compare check ms).Ignores n where
  value := fun _ _ => rfl
  assume := by
    intro truth v env
    cases check with
    | none => rfl
    | some c => exact State.refine_put (hcheck c rfl) env _
  bindings := ignores_below h

theorem ignores_cond {test body orelse : Meaning} (ht : test.Ignores n) (hb : body.Ignores n)
    (ho : orelse.Ignores n) : (cond test body orelse).Ignores n where
  value := by
    intro v env
    have hbranch : ∀ (truth : Bool) {m : Meaning}, m.Ignores n →
        (test.assume truth (env.put n v)).map m.value = (test.assume truth env).map m.value := by
      intro truth m hm
      rw [ht.assume]
      cases test.assume truth env with
      | none => rfl
      | some env' => exact congrArg some (hm.value v env')
    simp only [cond, hbranch true hb, hbranch false ho]
  assume := fun _ _ _ => rfl
  bindings := ignores_below (by simpa using ⟨ht, hb, ho⟩)

theorem ignores_call {callee : Expr} {args : List Expr} (hcallee : n ∉ callee.names)
    (htest : ∀ id, typeTest? callee args = some id → id ≠ n) (h : ∀ m ∈ ms, m.Ignores n) :
    (call callee args ms).Ignores n where
  value := callValue_put hcallee
  assume := by
    intro truth v env
    simp only [call]
    split
    · next hid => exact State.refine_put (htest _ hid) env .nonNull
    · rfl
  bindings := ignores_below h

end Meaning

namespace Expr

variable {n : String}

theorem not_mem_names_of_children {e : Expr} {es : List Expr} (hes : ∀ t ∈ subtermsOfList es, t ∈ e.subterms)
    (h : n ∉ e.names) : ∀ c ∈ es, n ∉ c.names :=
  fun _ hc hx => h (mem_names_of_children hes hc hx)

theorem not_mem_names_of_child {e c : Expr} (hc : ∀ t ∈ c.subterms, t ∈ e.subterms) (h : n ∉ e.names) :
    n ∉ c.names := by
  have hes : ∀ t ∈ subtermsOfList [c], t ∈ e.subterms := by simpa [subtermsOfList] using hc
  exact not_mem_names_of_children hes h c (by simp)

theorem ignores_meanings {es : List Expr} (ih : ∀ e ∈ es, n ∉ e.names → e.meaning.Ignores n)
    (h : ∀ e ∈ es, n ∉ e.names) : ∀ m ∈ meanings es, m.Ignores n :=
  forall_mem_meanings.mpr fun e he => ih e he (h e he)

theorem ne_of_nullCheck {left : Expr} {ops : List Comparison} {rights : List Expr}
    (h : n ∉ (compare left ops rights).names) (c : NullCheck) (hc : NullCheck.ofCompare? left ops rights = some c) :
    c.name ≠ n := by
  rintro rfl
  apply h
  obtain ⟨op, right, rest, rfl, rfl, -, ⟨rfl, -⟩ | ⟨-, rfl⟩⟩ := NullCheck.ofCompare?_eq_some hc
  · exact mem_names_of_subterms (t := name c.name) (by simp [subterms]) rfl
  · exact mem_names_of_subterms (t := name c.name) (by simp [subterms, subtermsOfList]) rfl

theorem ne_of_typeTest {callee : Expr} {args keywords : List Expr} (h : n ∉ (call callee args keywords).names)
    (id : String) (hid : Meaning.typeTest? callee args = some id) : id ≠ n := by
  rintro rfl
  obtain ⟨rfl, kinds, rfl, -⟩ := Meaning.typeTest?_eq_some hid
  exact h (mem_names_of_subterms (t := name id) (by simp [subterms, subtermsOfList]) rfl)

theorem ne_of_head {e : Expr} {x : String} (hx : e.headName? = some x) (h : n ∉ e.names) : x ≠ n := by
  rintro rfl
  exact h (mem_names_of_subterms (mem_subterms_self e) hx)

theorem ignores_meaning {e : Expr} (h : n ∉ e.names) : e.meaning.Ignores n := by
  induction e with
  | literal value => exact Meaning.ignores_literal value
  | name id => exact Meaning.ignores_name (ne_of_head rfl h)
  | walrus target value ih =>
    exact Meaning.ignores_walrus (ne_of_head rfl h)
      (ih (not_mem_names_of_child (fun t ht => by simp [subterms, ht]) h))
  | not operand ih =>
    exact Meaning.ignores_not (ih (not_mem_names_of_child (fun t ht => by simp [subterms, ht]) h))
  | junction op operands ih =>
    exact Meaning.ignores_junction op
      (ignores_meanings ih (not_mem_names_of_children (fun t ht => by simp [subterms, ht]) h))
  | compare left ops rights ihl ihr =>
    have hl := ihl (not_mem_names_of_child (fun t ht => by simp [subterms, ht]) h)
    have hr := ignores_meanings ihr (not_mem_names_of_children (fun t ht => by simp [subterms, ht]) h)
    exact Meaning.ignores_compare (ne_of_nullCheck h) (List.forall_mem_cons.mpr ⟨hl, hr⟩)
  | cond test body orelse iht ihb iho =>
    exact Meaning.ignores_cond (iht (not_mem_names_of_child (fun t ht => by simp [subterms, ht]) h))
      (ihb (not_mem_names_of_child (fun t ht => by simp [subterms, ht]) h))
      (iho (not_mem_names_of_child (fun t ht => by simp [subterms, ht]) h))
  | call callee args keywords ihc iha ihk =>
    have hcallee : n ∉ callee.names := not_mem_names_of_child (fun t ht => by simp [subterms, ht]) h
    have ha := ignores_meanings iha (not_mem_names_of_children (fun t ht => by simp [subterms, ht]) h)
    have hk := ignores_meanings ihk (not_mem_names_of_children (fun t ht => by simp [subterms, ht]) h)
    refine Meaning.ignores_call hcallee (ne_of_typeTest h) (List.forall_mem_cons.mpr ⟨ihc hcallee, ?_⟩)
    exact List.forall_mem_append.mpr ⟨ha, hk⟩
  | keyword name value ih =>
    exact Meaning.ignores_inert _
      (by simpa using ih (not_mem_names_of_child (fun t ht => by simp [subterms, ht]) h))
  | member value field ih =>
    exact Meaning.ignores_inert _
      (by simpa using ih (not_mem_names_of_child (fun t ht => by simp [subterms, ht]) h))
  | subscript value index ihv ihi =>
    have hv := ihv (not_mem_names_of_child (fun t ht => by simp [subterms, ht]) h)
    have hi := ihi (not_mem_names_of_child (fun t ht => by simp [subterms, ht]) h)
    exact Meaning.ignores_inert _ (by simpa using ⟨hv, hi⟩)
  | starred value ih =>
    exact Meaning.ignores_inert _
      (by simpa using ih (not_mem_names_of_child (fun t ht => by simp [subterms, ht]) h))
  | tuple items ih =>
    exact Meaning.ignores_inert _
      (ignores_meanings ih (not_mem_names_of_children (fun t ht => by simp [subterms, ht]) h))
  | list items ih =>
    exact Meaning.ignores_inert _
      (ignores_meanings ih (not_mem_names_of_children (fun t ht => by simp [subterms, ht]) h))
  | binary op left right ihl ihr =>
    have hl := ihl (not_mem_names_of_child (fun t ht => by simp [subterms, ht]) h)
    have hr := ihr (not_mem_names_of_child (fun t ht => by simp [subterms, ht]) h)
    exact Meaning.ignores_inert _ (by simpa using ⟨hl, hr⟩)
  | form kind parts ih =>
    exact Meaning.ignores_inert _
      (ignores_meanings ih (not_mem_names_of_children (fun t ht => by simp [subterms, ht]) h))

variable {e : Expr} (h : n ∉ e.names) (v : Option Nullness)

include h

theorem evaluate_put (env : Env) : e.evaluate (env.put n v) = e.evaluate env :=
  (ignores_meaning h).value v env

theorem assume_put (truth : Bool) (state : State) : e.assume truth (state.put n v) = (e.assume truth state).put n v :=
  State.bind_put ((ignores_meaning h).assume truth v) state

theorem effects_put (env : Env) : e.effects (env.put n v) = (e.effects env).put n v :=
  Meaning.apply_put (ignores_meaning h).bindings v env

end Expr

end NullContract
