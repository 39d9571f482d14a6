import NullContract.Proofs.FrameFlow
import NullContract.Proofs.HandlerEntry

/-!
What a final block is sure of when it starts. It is entered after the try statement has ended, and also by an exception
that leaves the body at any of its raise points. Its state is that of the first way if there is one, and only else the one
that joins all others.
-/

namespace NullContract

def tryEnd (body : List Stmt) (handlers : List Handler) (orelse : List Stmt) (state : State) : State :=
  (execHandlers handlers (handlerEntry state (execBlock body state))).next.join
    (execBlock orelse (execBlock body state).next).next

def finalStart (body : List Stmt) (handlers : List Handler) (orelse : List Stmt) (state : State) : State :=
  finalEntry (tryEnd body handlers orelse state) (handlerEntry state (execBlock body state))

theorem starts_finalStart (body : List Stmt) (handlers : List Handler) (orelse final : List Stmt) (state : State) :
    (Stmt.tryBlock body handlers orelse final).Starts state final (finalStart body handlers orelse state) :=
  .finalBody

def NonNullOnWay (body : List Stmt) (env : Env) (n : String) : Prop :=
  env.verdict n = .nonNull ∧ ∀ e, RaisePoint body (some env) (some e) → e.verdict n = .nonNull

section

variable {body orelse : List Stmt} {handlers : List Handler} {env joined : Env} {n : String}

theorem verdict_handlerEntry (h : handlerEntry (some env) (execBlock body (some env)) = some joined) (n : String) :
    joined.verdict n = .nonNull ↔ NonNullOnWay body env n := by
  constructor
  · intro hn
    have hle : ∀ e : Env, (some e : State) ≤ some joined → e.verdict n = .nonNull := by
      intro e he
      exact Nullness.eq_nonNull_of_le (hn ▸ Env.verdict_mono he n)
    constructor
    · exact hle env (h ▸ State.le_join_left _ _)
    · intro e he
      exact hle e (h ▸ he.le_raised.trans (State.le_join_right _ _))
  · rintro ⟨henv, hpoints⟩
    have hjoin : ∀ {a b : Env}, a.verdict n = .nonNull → b.verdict n = .nonNull → (a.join b).verdict n = .nonNull := by
      intro a b ha hb
      rw [Env.verdict_join, ha, hb, Nullness.join_self]
    have hraised : (execBlock body (some env)).raised.All fun e => e.verdict n = .nonNull :=
      all_raised_execBlock hjoin fun u hu e he => hpoints e (he ▸ hu)
    exact (State.all_some.mpr henv).join hjoin hraised joined h

theorem exists_handlerEntry (body : List Stmt) (env : Env) :
    ∃ joined, handlerEntry (some env) (execBlock body (some env)) = some joined := by
  obtain ⟨joined, hjoined, -⟩ :=
    State.exists_of_some_le (State.le_join_left (some env) (execBlock body (some env)).raised)
  exact ⟨joined, hjoined⟩

theorem getElem?_next_execBlock {b : List Stmt} (h : n ∉ namesOfBlock b) {out : Env}
    (hout : (execBlock b (some env)).next = some out) : out[n]? = env[n]? := by
  have hput := congrArg Outcome.next (execBlock_put h env[n]? (some env))
  rw [State.put_some, Env.put_slot] at hput
  change _ = (execBlock b (some env)).next.put n env[n]? at hput
  rw [hout, State.put_some, Option.some.injEq] at hput
  rw [hput, Env.getElem?_put, if_pos rfl]

theorem verdict_tryEnd_of_handler {handler : Handler} (hmem : handler ∈ handlers)
    (hname : n ∉ handler.name.toList) (hbody : n ∉ namesOfBlock handler.body)
    (hends : (execBlock handler.body (handler.entry (some env) body)).next ≠ none)
    (hjoined : handlerEntry (some env) (execBlock body (some env)) = some joined) :
    ∃ out, tryEnd body handlers orelse (some env) = some out ∧ joined.verdict n ≤ out.verdict n := by
  have hentry : handler.entry (some env) body = some (joined.bindAll handler.name.toList .nonNull) := by
    rw [Handler.entry, hjoined]
    rfl
  obtain ⟨e, he⟩ := Option.ne_none_iff_exists'.mp hends
  have hle : some e ≤ tryEnd body handlers orelse (some env) := by
    refine le_trans ?_ (State.le_join_left _ _)
    rw [← he, execHandlers_eq_mergeAll]
    exact Outcome.le_mergeAll (f := (·.next)) (fun _ _ => rfl) (List.mem_map_of_mem hmem)
  obtain ⟨out, hout, hle⟩ := State.exists_of_some_le hle
  rw [hentry] at he
  have hslot := getElem?_next_execBlock hbody he
  rw [Env.getElem?_bindAll, if_neg hname] at hslot
  refine ⟨out, hout, ?_⟩
  calc joined.verdict n = e.verdict n := by rw [Env.verdict, Env.verdict, hslot]
    _ ≤ out.verdict n := Env.verdict_mono hle n

end

theorem final_block_nonNull_iff (body : List Stmt) (handlers : List Handler) (orelse : List Stmt) (env : Env) :
    ∃ start joined, finalStart body handlers orelse (some env) = some start ∧
      (∀ final, (Stmt.tryBlock body handlers orelse final).Starts (some env) final (some start)) ∧
      handlerEntry (some env) (execBlock body (some env)) = some joined ∧ ∀ n,
        (tryEnd body handlers orelse (some env) = none → start.verdict n = .nonNull → NonNullOnWay body env n) ∧
        (∀ out, tryEnd body handlers orelse (some env) = some out →
          ((start.verdict n = .nonNull → NonNullOnWay body env n) ↔
            (out.verdict n = .nonNull → joined.verdict n = .nonNull))) ∧
        ∀ handler ∈ handlers, n ∉ handler.name.toList → n ∉ namesOfBlock handler.body →
          (execBlock handler.body (handler.entry (some env) body)).next ≠ none →
          start.verdict n = .nonNull → NonNullOnWay body env n := by
  obtain ⟨joined, hjoined⟩ := exists_handlerEntry body env
  have hways := verdict_handlerEntry hjoined
  cases hend : tryEnd body handlers orelse (some env) with
  | none =>
    have hstart : finalStart body handlers orelse (some env) = some joined := by
      rw [finalStart, hend, hjoined]
      rfl
    refine ⟨joined, joined, hstart, fun final => hstart ▸ starts_finalStart .., hjoined,
      fun n => ⟨fun _ => (hways n).mp, ?_, ?_⟩⟩
    · intro out hout
      cases hout
    · intro handler hmem hname hbody hends
      exact (hways n).mp
  | some out =>
    have hstart : finalStart body handlers orelse (some env) = some out := by
      rw [finalStart, hend]
      rfl
    refine ⟨out, joined, hstart, fun final => hstart ▸ starts_finalStart .., hjoined, fun n => ⟨?_, ?_, ?_⟩⟩
    · intro hdead
      cases hdead
    · intro out' hout'
      cases hout'
      rw [hways n]
    · intro handler hmem hname hbody hends hn
      obtain ⟨out', hout', hle⟩ := verdict_tryEnd_of_handler hmem hname hbody hends hjoined
      cases hend.symm.trans hout'
      exact (hways n).mp (Nullness.eq_nonNull_of_le (hn ▸ hle))

def readsNumber : List Stmt :=
  [.assign [.name "x"] (.call (.name "int") [.name "s"] [])]

def noNumber : Handler :=
  .mk false (some (.name "ValueError")) (some "fault") [.expr (.call (.name "warn") [.name "fault"] [])]

def readsNumberEntry : Env :=
  ((∅ : Env).insert "s" .nonNull).insert "x" .null

theorem final_block_nonNull_iff_readsNumber :
    ∃ start, finalStart readsNumber [noNumber] [] (some readsNumberEntry) = some start ∧
      start.verdict "s" = .nonNull ∧ start.verdict "x" = .nullable ∧
      NonNullOnWay readsNumber readsNumberEntry "s" := by
  obtain ⟨start, joined, hstart, -, -, hways⟩ := final_block_nonNull_iff readsNumber [noNumber] [] readsNumberEntry
  have hverdicts : (finalStart readsNumber [noNumber] [] (some readsNumberEntry)).map
      (fun start => (start.verdict "s", start.verdict "x")) = some (.nonNull, .nullable) := by
    decide +kernel
  rw [hstart, Option.map_some, Option.some.injEq, Prod.mk.injEq] at hverdicts
  refine ⟨start, hstart, hverdicts.1, hverdicts.2, ?_⟩
  exact (hways "s").2.2 noNumber (by simp) (by decide) (by decide) (by decide +kernel) hverdicts.1

/-- Without a handler the final block takes the number for read, also where reading it has failed. -/
theorem not_final_block_nonNull_on_way :
    ¬ ∀ start, finalStart readsNumber [] [] (some readsNumberEntry) = some start → start.verdict "x" = .nonNull →
      NonNullOnWay readsNumber readsNumberEntry "x" := by
  intro hways
  have hsure : (finalStart readsNumber [] [] (some readsNumberEntry)).map (·.verdict "x") = some .nonNull := by
    decide +kernel
  obtain ⟨start, hstart, hsure⟩ := Option.map_eq_some_iff.mp hsure
  have hentry : readsNumberEntry.verdict "x" = .null := by decide
  have hnonNull := (hways start hstart hsure).1
  rw [hentry] at hnonNull
  cases hnonNull

end NullContract
