import NullContract.Flow.Exec
import NullContract.Proofs.Meanings
import NullContract.Proofs.Nested
import NullContract.Proofs.Rounds

/-!
Properties that every environment of the analysis has. An invariant says which names may be bound and read and which
verdicts may arise; a piece of code that keeps to this leads from environments with the property only to
environments with the property, through every statement, refinement, join and loop.
-/

namespace NullContract

structure Invariant where
  holds : Env → Prop
  binds : String → Prop
  reads : String → Prop
  yields : Nullness → Prop
  yields_nonNull : yields .nonNull
  yields_unknown : yields .unknown
  yields_join : ∀ {a b}, yields a → yields b → yields (a.join b)
  verdict : ∀ {env}, holds env → ∀ x, yields (env.verdict x)
  join : ∀ {a b}, holds a → holds b → holds (a.join b)
  insert : ∀ {env x v}, holds env → binds x → yields v → holds (env.insert x v)
  erase : ∀ {env x}, holds env → binds x → holds (env.erase x)
  refine_nonNull : ∀ {env env' x}, holds env → reads x → env.refine x .nonNull = some env' → holds env'
  refine_null : ∀ {env env' x}, holds env → reads x → yields .null → env.refine x .null = some env' → holds env'

def State.All (P : Env → Prop) (state : State) : Prop :=
  ∀ env, state = some env → P env

namespace State

variable {P : Env → Prop}

theorem all_none : All P none := by
  intro env h
  cases h

theorem all_some {env : Env} : All P (some env) ↔ P env :=
  ⟨fun h => h env rfl, fun h _ he => Option.some.inj he ▸ h⟩

theorem All.join (hP : ∀ {a b}, P a → P b → P (a.join b)) {s t : State} (hs : s.All P) (ht : t.All P) :
    (s.join t).All P := by
  cases s with
  | none => simpa using ht
  | some a =>
    cases t with
    | none => simpa using hs
    | some b => exact all_some.mpr (hP (all_some.mp hs) (all_some.mp ht))

theorem All.map {f : Env → Env} (hf : ∀ env, P env → P (f env)) {s : State} (hs : s.All P) : All P (s.map f) := by
  cases s with
  | none => exact all_none
  | some env => exact all_some.mpr (hf env (all_some.mp hs))

theorem All.bind {f : Env → State} (hf : ∀ env, P env → (f env).All P) {s : State} (hs : s.All P) :
    All P (s.bind f) := by
  cases s with
  | none => exact all_none
  | some env => exact hf env (all_some.mp hs)

end State

namespace Invariant

variable (I : Invariant)

theorem yields_joinAll {xs : List Nullness} (h : ∀ x ∈ xs, I.yields x) : I.yields (.joinAll xs) := by
  have hfold : ∀ ys : List Nullness, ∀ x, I.yields x → (∀ y ∈ ys, I.yields y) →
      I.yields (ys.foldl Nullness.join x) := by
    intro ys
    induction ys with
    | nil => exact fun x hx _ => hx
    | cons y ys ih =>
      intro x hx hys
      exact ih _ (I.yields_join hx (hys y (by simp))) (fun z hz => hys z (List.mem_cons_of_mem _ hz))
  cases xs with
  | nil => exact I.yields_nonNull
  | cons x xs => exact hfold xs x (h x (by simp)) (fun y hy => h y (List.mem_cons_of_mem _ hy))

def FitsNode : Expr → Prop
  | .literal .none => I.yields .null
  | .name id => I.reads id
  | .walrus target _ => I.binds target ∧ I.reads target
  | _ => True

def FitsExpr (e : Expr) : Prop :=
  ∀ t ∈ e.subterms, I.FitsNode t

structure Keeps (m : Meaning) : Prop where
  value : ∀ {env}, I.holds env → I.yields (m.value env)
  assume : ∀ truth {env}, I.holds env → (m.assume truth env).All I.holds
  bindings : ∀ p ∈ m.bindings.flatten, I.binds p.1 ∧ ∀ {env}, I.holds env → I.yields (p.2 env)

variable {I}

theorem holds_apply {bindings : List (List Meaning.Assignment)}
    (h : ∀ p ∈ bindings.flatten, I.binds p.1 ∧ ∀ {env}, I.holds env → I.yields (p.2 env)) {env : Env}
    (henv : I.holds env) : I.holds (Meaning.apply bindings env) :=
  Meaning.apply_induction (fun p hp _ he => I.insert he (h p hp).1 ((h p hp).2 he)) henv

theorem keeps_below {children : List Meaning} (h : ∀ m ∈ children, I.Keeps m) (p : Meaning.Assignment)
    (hp : p ∈ (Meaning.below children).flatten) : I.binds p.1 ∧ ∀ {env}, I.holds env → I.yields (p.2 env) := by
  obtain ⟨m, hm, hp⟩ := Meaning.mem_below.mp hp
  exact (h m hm).bindings p hp

theorem keeps_inert {value : Env → Nullness} {children : List Meaning} (hv : ∀ env, I.yields (value env))
    (h : ∀ m ∈ children, I.Keeps m) : I.Keeps (.inert value children) where
  value := fun _ => hv _
  assume := fun _ _ henv => State.all_some.mpr henv
  bindings := keeps_below h

theorem all_assumeName {id : String} (hr : I.reads id) (truth : Bool) {env : Env} (henv : I.holds env) :
    (Meaning.assumeName id truth env).All I.holds := by
  unfold Meaning.assumeName
  split
  · exact fun env' h => I.refine_nonNull henv hr h
  · exact State.all_some.mpr henv

theorem keeps_literal {lit : Literal} (h : I.FitsNode (.literal lit)) : I.Keeps (.literal lit) where
  value := by
    intro env _
    simp only [Meaning.literal]
    split
    · next hlit =>
      subst hlit
      exact h
    · exact I.yields_nonNull
  assume := by
    intro truth env henv
    simp only [Meaning.literal]
    split
    · exact State.all_some.mpr henv
    · exact State.all_none
  bindings := keeps_below (by simp)

theorem keeps_name {id : String} (h : I.reads id) : I.Keeps (.name id) where
  value := fun henv => I.verdict henv id
  assume := fun truth _ henv => all_assumeName h truth henv
  bindings := keeps_below (by simp)

theorem keeps_walrus {target : String} {m : Meaning} (hb : I.binds target) (hr : I.reads target) (h : I.Keeps m) :
    I.Keeps (.walrus target m) := by
  have hbindings : ∀ p ∈ (([(target, m.value)] :: m.bindings).flatten),
      I.binds p.1 ∧ ∀ {env}, I.holds env → I.yields (p.2 env) := by
    intro p hp
    rcases List.mem_append.mp hp with hp | hp
    · rw [List.mem_singleton.mp hp]
      exact ⟨hb, h.value⟩
    · exact h.bindings p hp
  exact {
    value := h.value
    assume := fun truth _ henv => all_assumeName hr truth (holds_apply hbindings henv)
    bindings := hbindings }

theorem keeps_not {m : Meaning} (h : I.Keeps m) : I.Keeps (.not m) where
  value := fun _ => I.yields_nonNull
  assume := fun truth _ henv => h.assume (!truth) henv
  bindings := keeps_below (by simpa using h)

theorem all_assumeAll {ms : List Meaning} (h : ∀ m ∈ ms, I.Keeps m) (truth : Bool) {state : State}
    (hs : state.All I.holds) : (Meaning.assumeAll truth ms state).All I.holds := by
  induction ms generalizing state with
  | nil => exact hs
  | cons m rest ih =>
    have hm := hs.bind (fun env henv => (h m (by simp)).assume truth henv)
    exact ih (fun m' hm' => h m' (List.mem_cons_of_mem _ hm')) hm

theorem all_assumeFirst {ms : List Meaning} (h : ∀ m ∈ ms, I.Keeps m) (truth : Bool) {state : State}
    (hs : state.All I.holds) : (Meaning.assumeFirst truth ms state).All I.holds := by
  induction ms generalizing state with
  | nil => exact State.all_none
  | cons m rest ih =>
    have hm := fun truth => hs.bind (fun env henv => (h m (by simp)).assume truth henv)
    exact (hm truth).join I.join (ih (fun m' hm' => h m' (List.mem_cons_of_mem _ hm')) (hm (!truth)))

theorem yields_chain {ms : List Meaning} (h : ∀ m ∈ ms, I.Keeps m) (stop : Bool) {state : State}
    (hs : state.All I.holds) : ∀ v ∈ Meaning.chain stop ms state, I.yields v := by
  induction ms generalizing state with
  | nil => cases state <;> simp [Meaning.chain]
  | cons m rest ih =>
    cases state with
    | none => simp [Meaning.chain]
    | some env =>
      have henv := State.all_some.mp hs
      have hvalue := (h m (by simp)).value henv
      cases rest with
      | nil => simpa [Meaning.chain] using hvalue
      | cons m' rest =>
        have hrest := ih (fun m' hm' => h m' (List.mem_cons_of_mem _ hm'))
          ((h m (by simp)).assume (!stop) henv)
        intro v hv
        simp only [Meaning.chain, List.mem_append] at hv
        rcases hv with hv | hv
        · -- a chain that stops at a true operand yields something that is not null
          split at hv
          · rw [List.mem_singleton.mp hv]
            split
            · exact I.yields_nonNull
            · exact hvalue
          · cases hv
        · exact hrest v hv

theorem keeps_junction {op : Junctor} {ms : List Meaning} (h : ∀ m ∈ ms, I.Keeps m) : I.Keeps (.junction op ms) where
  value := fun henv => I.yields_joinAll (yields_chain h _ (State.all_some.mpr henv))
  assume := by
    intro truth env henv
    simp only [Meaning.junction]
    split
    · exact all_assumeAll h truth (State.all_some.mpr henv)
    · exact all_assumeFirst h truth (State.all_some.mpr henv)
  bindings := keeps_below h

theorem keeps_compare {check : Option NullCheck} {children : List Meaning}
    (hcheck : ∀ c, check = some c → I.reads c.name ∧ I.yields .null) (h : ∀ m ∈ children, I.Keeps m) :
    I.Keeps (.compare check children) where
  value := fun _ => I.yields_nonNull
  assume := by
    intro truth env henv
    cases check with
    | none => exact State.all_some.mpr henv
    | some c =>
      obtain ⟨hr, hnull⟩ := hcheck c rfl
      intro env' h'
      simp only [Meaning.compare] at h'
      split at h'
      · exact I.refine_null henv hr hnull h'
      · exact I.refine_nonNull henv hr h'
  bindings := keeps_below h

theorem keeps_cond {test body orelse : Meaning} (ht : I.Keeps test) (hb : I.Keeps body) (ho : I.Keeps orelse) :
    I.Keeps (.cond test body orelse) where
  value := by
    intro env henv
    refine I.yields_joinAll fun v hv => ?_
    simp only [List.mem_append, Option.mem_toList, Option.map_eq_some_iff] at hv
    rcases hv with ⟨env', h', rfl⟩ | ⟨env', h', rfl⟩
    · exact hb.value (ht.assume true henv env' h')
    · exact ho.value (ht.assume false henv env' h')
  assume := fun _ _ henv => State.all_some.mpr henv
  bindings := keeps_below (by simpa using ⟨ht, hb, ho⟩)

theorem keeps_call {callee : Expr} {args : List Expr} {children : List Meaning}
    (htest : ∀ id, Meaning.typeTest? callee args = some id → I.reads id) (h : ∀ m ∈ children, I.Keeps m) :
    I.Keeps (.call callee args children) where
  value := by
    intro env _
    simp only [Meaning.call, Meaning.callValue]
    split
    · split
      · exact I.yields_nonNull
      · exact I.yields_unknown
    · exact I.yields_unknown
  assume := by
    intro truth env henv
    simp only [Meaning.call]
    split
    · next hid => exact fun env' h' => I.refine_nonNull henv (htest _ hid) h'
    · exact State.all_some.mpr henv
  bindings := keeps_below h

theorem fitsExpr_children {e : Expr} {es : List Expr} (h : I.FitsExpr e)
    (hes : ∀ t ∈ Expr.subtermsOfList es, t ∈ e.subterms) :
    ∀ c ∈ es, I.FitsExpr c :=
  Expr.forall_mem_subtermsOfList.mp fun t ht => h t (hes t ht)

theorem fits_nullCheck {left : Expr} {ops : List Comparison} {rights : List Expr}
    (h : I.FitsExpr (.compare left ops rights)) (c : NullCheck)
    (hc : NullCheck.ofCompare? left ops rights = some c) : I.reads c.name ∧ I.yields .null := by
  obtain ⟨op, right, rest, rfl, rfl, -, ⟨rfl, rfl⟩ | ⟨rfl, rfl⟩⟩ := NullCheck.ofCompare?_eq_some hc
  · exact ⟨h (.name c.name) (by simp [Expr.subterms]),
      h (.literal .none) (by simp [Expr.subterms, Expr.subtermsOfList])⟩
  · exact ⟨h (.name c.name) (by simp [Expr.subterms, Expr.subtermsOfList]),
      h (.literal .none) (by simp [Expr.subterms])⟩

theorem fits_typeTest {callee : Expr} {args keywords : List Expr} (h : I.FitsExpr (.call callee args keywords))
    (id : String) (hid : Meaning.typeTest? callee args = some id) : I.reads id := by
  obtain ⟨rfl, kinds, rfl, -⟩ := Meaning.typeTest?_eq_some hid
  exact h (.name id) (by simp [Expr.subterms, Expr.subtermsOfList])

theorem keeps_meanings {es : List Expr} (ih : ∀ e ∈ es, I.FitsExpr e → I.Keeps e.meaning)
    (h : ∀ e ∈ es, I.FitsExpr e) : ∀ m ∈ Expr.meanings es, I.Keeps m :=
  Expr.forall_mem_meanings.mpr fun e he => ih e he (h e he)

theorem keeps_meaning {e : Expr} (h : I.FitsExpr e) : I.Keeps e.meaning := by
  induction e with
  | literal value => exact keeps_literal (h _ (Expr.mem_subterms_self _))
  | name id => exact keeps_name (h _ (Expr.mem_subterms_self _))
  | walrus target value ih =>
    obtain ⟨hb, hr⟩ := h _ (Expr.mem_subterms_self _)
    exact keeps_walrus hb hr (ih fun t ht => h t (List.mem_cons_of_mem _ ht))
  | not operand ih => exact keeps_not (ih fun t ht => h t (List.mem_cons_of_mem _ ht))
  | junction op operands ih =>
    exact keeps_junction (keeps_meanings ih (fitsExpr_children h fun t ht => List.mem_cons_of_mem _ ht))
  | compare left ops rights ihl ihr =>
    have hl := ihl fun t ht => h t (by simp [Expr.subterms, ht])
    have hr := keeps_meanings ihr (fitsExpr_children h fun t ht => by simp [Expr.subterms, ht])
    exact keeps_compare (fits_nullCheck h) (List.forall_mem_cons.mpr ⟨hl, hr⟩)
  | cond test body orelse iht ihb iho =>
    exact keeps_cond (iht fun t ht => h t (by simp [Expr.subterms, ht]))
      (ihb fun t ht => h t (by simp [Expr.subterms, ht])) (iho fun t ht => h t (by simp [Expr.subterms, ht]))
  | call callee args keywords ihc iha ihk =>
    have hc := ihc fun t ht => h t (by simp [Expr.subterms, ht])
    have ha := keeps_meanings iha (fitsExpr_children h fun t ht => by simp [Expr.subterms, ht])
    have hk := keeps_meanings ihk (fitsExpr_children h fun t ht => by simp [Expr.subterms, ht])
    refine keeps_call (fits_typeTest h) (List.forall_mem_cons.mpr ⟨hc, fun m hm => ?_⟩)
    exact (List.mem_append.mp hm).elim (ha m) (hk m)
  | keyword name value ih =>
    exact keeps_inert (fun _ => I.yields_unknown) (by simpa using ih fun t ht => h t (List.mem_cons_of_mem _ ht))
  | member value field ih =>
    exact keeps_inert (fun _ => I.yields_unknown) (by simpa using ih fun t ht => h t (List.mem_cons_of_mem _ ht))
  | subscript value index ihv ihi =>
    have hv := ihv fun t ht => h t (by simp [Expr.subterms, ht])
    have hi := ihi fun t ht => h t (by simp [Expr.subterms, ht])
    exact keeps_inert (fun _ => I.yields_unknown) (by simpa using ⟨hv, hi⟩)
  | starred value ih =>
    exact keeps_inert (fun _ => I.yields_unknown) (by simpa using ih fun t ht => h t (List.mem_cons_of_mem _ ht))
  | tuple items ih =>
    exact keeps_inert (fun _ => I.yields_nonNull)
      (keeps_meanings ih (fitsExpr_children h fun t ht => List.mem_cons_of_mem _ ht))
  | list items ih =>
    exact keeps_inert (fun _ => I.yields_nonNull)
      (keeps_meanings ih (fitsExpr_children h fun t ht => List.mem_cons_of_mem _ ht))
  | binary op left right ihl ihr =>
    have hl := ihl fun t ht => h t (by simp [Expr.subterms, ht])
    have hr := ihr fun t ht => h t (by simp [Expr.subterms, ht])
    exact keeps_inert (fun _ => I.yields_nonNull) (by simpa using ⟨hl, hr⟩)
  | form kind parts ih =>
    refine keeps_inert (fun _ => ?_) (keeps_meanings ih (fitsExpr_children h fun t ht => List.mem_cons_of_mem _ ht))
    split
    · exact I.yields_nonNull
    · exact I.yields_unknown

theorem yields_evaluate {e : Expr} (h : I.FitsExpr e) {env : Env} (henv : I.holds env) : I.yields (e.evaluate env) :=
  (keeps_meaning h).value henv

theorem all_assume {e : Expr} (h : I.FitsExpr e) (truth : Bool) {state : State} (hs : state.All I.holds) :
    (e.assume truth state).All I.holds :=
  hs.bind fun _ henv => (keeps_meaning h).assume truth henv

theorem holds_effects {e : Expr} (h : I.FitsExpr e) {env : Env} (henv : I.holds env) : I.holds (e.effects env) :=
  holds_apply (keeps_meaning h).bindings henv

end Invariant

end NullContract
