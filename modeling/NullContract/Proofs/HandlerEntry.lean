import NullContract.Proofs.RaisePoints

/-!
What a handler is sure of when it starts. Its state joins the entry of the try statement with all raise points of the
body. A statement of the body that is not the first of its block starts at a raise point; the first one of a block starts
where the block is entered, and what is bound on the way in is not recorded unless the statement ends.
-/

namespace NullContract

theorem Nullness.eq_nonNull_of_le {a : Nullness} (h : a ≤ .nonNull) : a = .nonNull := by
  revert h
  cases a <;> decide

theorem Nullness.eq_null_of_le {a : Nullness} (h : a ≤ .null) : a = .null := by
  revert h
  cases a <;> decide

namespace Env

def Covers (start env : Env) (n : String) : Prop :=
  (start.verdict n = .nonNull → env.verdict n = .nonNull) ∧ (start.verdict n = .null → env.verdict n = .null)

variable {start env a b : Env} {n x : String}

theorem covers_of_le (h : (some env : State) ≤ some start) (n : String) : start.Covers env n := by
  have hle := verdict_mono h n
  constructor
  · intro hn
    exact Nullness.eq_nonNull_of_le (hn ▸ hle)
  · intro hn
    exact Nullness.eq_null_of_le (hn ▸ hle)

theorem Covers.join (ha : start.Covers a n) (hb : start.Covers b n) : start.Covers (a.join b) n := by
  constructor
  · intro hn
    rw [verdict_join, ha.1 hn, hb.1 hn, Nullness.join_self]
  · intro hn
    rw [verdict_join, ha.2 hn, hb.2 hn, Nullness.join_self]

theorem Covers.of_verdict (h : start.Covers a n) (hv : b.verdict n = a.verdict n) : start.Covers b n := by
  rw [Covers, hv]
  exact h

theorem Covers.refine {v : Nullness} (hv : v = .null ∨ v = .nonNull) (h : start.Covers a n)
    (href : a.refine x v = some b) : start.Covers b n := by
  obtain ⟨hnull, hnonNull, rfl⟩ := refine_eq_some.mp href
  by_cases hx : x = n
  · subst hx
    rw [Covers, verdict_insert, if_pos rfl]
    constructor
    · intro hs
      rcases hv with rfl | rfl
      · exact absurd ⟨rfl, h.1 hs⟩ hnull
      · rfl
    · intro hs
      rcases hv with rfl | rfl
      · rfl
      · exact absurd ⟨rfl, h.2 hs⟩ hnonNull
  · exact h.of_verdict (by rw [verdict_insert, if_neg hx])

end Env

namespace Invariant

def covered (start : Env) (n : String) : Invariant where
  holds := fun env => start.Covers env n
  binds := (· ≠ n)
  reads := fun _ => True
  yields := fun _ => True
  yields_nonNull := trivial
  yields_unknown := trivial
  yields_join := fun _ _ => trivial
  verdict := fun _ _ => trivial
  join := fun ha hb => ha.join hb
  insert := fun henv hx _ => henv.of_verdict (by rw [Env.verdict_insert, if_neg hx])
  erase := fun henv hx => henv.of_verdict (by rw [Env.verdict_erase, if_neg hx])
  refine_nonNull := fun henv _ h => henv.refine (.inr rfl) h
  refine_null := fun henv _ _ h => henv.refine (.inl rfl) h

variable {start : Env} {n : String}

theorem covered_fitsExpr {e : Expr} (h : n ∉ e.assigned) : (covered start n).FitsExpr e := by
  intro t ht
  unfold FitsNode
  split
  · trivial
  · trivial
  · next target value =>
    refine ⟨fun htarget => h ?_, trivial⟩
    exact List.mem_filterMap.mpr ⟨_, ht, congrArg some htarget⟩
  · trivial

theorem covered_fitsStmt {s : Stmt} (h : n ∉ s.binds) : (covered start n).FitsStmt s := by
  rw [Stmt.binds, List.mem_append, not_or] at h
  refine ⟨fun x hx hn => h.1 (hn ▸ hx), fun e he => covered_fitsExpr fun hn => h.2 ?_, fun _ => trivial⟩
  exact List.mem_flatMap.mpr ⟨e, he, hn⟩

end Invariant

/-- `BoundEntry n b state t`: the analysis of the block comes to a statement that binds `n` by itself and enters one of
its blocks in `t`. -/
def BoundEntry (n : String) (b : List Stmt) (state t : State) : Prop :=
  ∃ s rest u first more, Visits b state (s :: rest) u ∧ n ∈ s.binds ∧ s.Starts u (first :: more) t

/-- The states of a block that a property is known of: those that are recorded and those in which the name is bound on
the way into a block. -/
structure Seen (P : Env → Prop) (n : String) (b : List Stmt) (state : State) : Prop where
  points : ∀ t, RaisePoint b state t → t.All P
  entries : ∀ t, BoundEntry n b state t → t.All P

structure Held (P : Env → Prop) (b : List Stmt) (state : State) : Prop where
  starts : ∀ s rest t, Visits b state (s :: rest) t → t.All P
  continued : (execBlock b state).continued.All P

section

variable {P : Env → Prop} {n : String} {s : Stmt} {rest b : List Stmt} {state t : State}

theorem Seen.later (h : Seen P n (s :: rest) state) : Seen P n rest (s.exec state).next := by
  refine ⟨fun t ht => h.points t ht.later, ?_⟩
  rintro t ⟨s', rest', u, first, more, hvisit, hn, hstart⟩
  exact h.entries t ⟨s', rest', u, first, more, .next hvisit, hn, hstart⟩

theorem Seen.inside (h : Seen P n (s :: rest) state) (hs : s.Starts state b t) : Seen P n b t := by
  refine ⟨fun u hu => h.points u (.inside hs hu), ?_⟩
  rintro t ⟨s', rest', u, first, more, hvisit, hn, hstart⟩
  exact h.entries t ⟨s', rest', u, first, more, .inside hs hvisit, hn, hstart⟩

theorem Seen.next (h : Seen P n b state) (hstate : state.All P) : (execBlock b state).next.All P := by
  by_cases hb : b = []
  · subst hb
    exact hstate
  · exact h.points _ (.ends hb state)

theorem all_continued_exec (hP : ∀ {a b}, P a → P b → P (a.join b)) (hstate : state.All P)
    (h : ∀ b t, s.Starts state b t → (execBlock b t).continued.All P) : (s.exec state).continued.All P := by
  cases s with
  | forLoop isAsync target iter body orelse => exact h _ _ .forElse
  | whileLoop test body orelse => exact h _ _ .whileElse
  | ifElse line test body orelse => exact (h _ _ .ifTrue).join hP (h _ _ .ifFalse)
  | withBlock isAsync items body => exact h _ _ .withBody
  | matchCases subject cases =>
    have hcases : (execCases subject cases state).continued.All P := by
      rw [execCases_eq_mergeAll]
      exact Outcome.all_mergeAll (fun _ _ => rfl) hP rfl (List.forall_mem_map.mpr fun c hc => h _ _ (.caseBody hc))
    simp only [Stmt.exec]
    split <;> exact hcases
  | tryBlock body handlers orelse final =>
    have hhandlers : (execHandlers handlers (handlerEntry state (execBlock body state))).continued.All P := by
      rw [execHandlers_eq_mergeAll]
      exact Outcome.all_mergeAll (fun _ _ => rfl) hP rfl (List.forall_mem_map.mpr fun c hc => h _ _ (.handlerBody hc))
    exact ((h _ _ .tryBody).join hP (hhandlers.join hP (h _ _ .tryElse))).join hP (h _ _ .finalBody)
  | annAssign target hint value => cases value <;> exact State.all_none
  | «continue» => exact hstate
  | _ => exact State.all_none

theorem held_execBlock_of (hP : ∀ {a b}, P a → P b → P (a.join b))
    (ih : ∀ s ∈ b, ∀ rest state, state.All P → Seen P n (s :: rest) state →
      ∀ b t, s.Starts state b t → Held P b t)
    (hseen : Seen P n b state) (hstate : b ≠ [] → state.All P) : Held P b state := by
  induction b generalizing state with
  | nil =>
    refine ⟨fun s rest t h => ?_, State.all_none⟩
    cases h
  | cons s rest ihrest =>
    rw [List.forall_mem_cons] at ih
    have hs := hstate (List.cons_ne_nil s rest)
    have hblocks := ih.1 rest state hs hseen
    have hrest := ihrest ih.2 hseen.later fun _ => hseen.points _ (.first s rest state)
    refine ⟨fun s' rest' t h => ?_, ?_⟩
    · cases h with
      | refl => exact hs
      | next h => exact hrest.starts s' rest' t h
      | inside hstart h => exact (hblocks _ _ hstart).starts s' rest' t h
    · exact (all_continued_exec hP hs fun b t hstart => (hblocks b t hstart).continued).join hP hrest.continued

end

section

variable {start : Env} {n : String}

theorem held_starts (s : Stmt) :
    ∀ rest state, State.All (start.Covers · n) state → Seen (start.Covers · n) n (s :: rest) state →
      ∀ b t, s.Starts state b t → Held (start.Covers · n) b t := by
  induction s using Stmt.inductionOnStarts with
  | step s ih =>
    intro rest state hstate hseen
    have hjoin : ∀ {a b : Env}, start.Covers a n → start.Covers b n → start.Covers (a.join b) n := Env.Covers.join
    have hblocks : ∀ b t, s.Starts state b t → (b ≠ [] → State.All (start.Covers · n) t) →
        Held (start.Covers · n) b t :=
      fun b t hstart => held_execBlock_of hjoin (ih state b t hstart) (hseen.inside hstart)
    intro b t hstart
    apply hblocks b t hstart
    intro hb
    by_cases hn : n ∈ s.binds
    · obtain ⟨first, more, rfl⟩ := List.exists_cons_of_ne_nil hb
      exact hseen.entries t ⟨s, rest, state, first, more, .refl, hn, hstart⟩
    · refine Invariant.all_starts_of_resumes (Invariant.covered_fitsStmt hn) hstate (fun b t hstart ht => ?_) hstart
      have hinside := hseen.inside hstart
      exact ⟨hinside.next ht, (hblocks b t hstart fun _ => ht).continued, all_raised_execBlock hjoin hinside.points⟩

end

def Stmt.isCompound : Stmt → Bool
  | forLoop _ _ _ _ _ | whileLoop _ _ _ | ifElse _ _ _ _ | withBlock _ _ _ | matchCases _ _ | tryBlock _ _ _ _ => true
  | _ => false

theorem isCompound_of_starts {s : Stmt} {state t : State} {b : List Stmt} (h : s.Starts state b t) :
    s.isCompound = true := by
  cases h <;> rfl

theorem nested_of_visits {b b' : List Stmt} {state t : State} (h : Visits b state b' t) :
    ∀ u ∈ nestedOfBlock b', u ∈ nestedOfBlock b := by
  induction h with
  | refl => exact fun _ hu => hu
  | next _ ih => exact fun u hu => List.mem_append_right _ (ih u hu)
  | inside hstart _ ih => exact fun u hu => List.mem_append_left _ (nested_of_starts hstart u (ih u hu))

theorem Visits.enter {s : Stmt} {rest b b' : List Stmt} {state t u : State} (h : Visits b state (s :: rest) u)
    (hs : s.Starts u b' t) : Visits b state b' t := by
  generalize hb : s :: rest = c at h
  induction h with
  | refl =>
    subst hb
    exact .inside hs .refl
  | next _ ih => exact .next (ih hs hb)
  | inside hstart _ ih => exact .inside hstart (ih hs hb)

def Handler.entry (handler : Handler) (state : State) (body : List Stmt) : State :=
  (handlerEntry state (execBlock body state)).map (·.bindAll handler.name.toList .nonNull)

theorem handler_covers_statements_iff (body : List Stmt) (handler : Handler) (env : Env) :
    ∃ start, handler.entry (some env) body = some start ∧
      (∀ handlers orelse final, handler ∈ handlers →
        (Stmt.tryBlock body handlers orelse final).Starts (some env) handler.body (some start)) ∧
      ∀ n ∉ handler.name.toList,
        ((∀ s rest e, Visits body (some env) (s :: rest) (some e) → start.Covers e n) ↔
          ∀ e, BoundEntry n body (some env) (some e) → start.Covers e n) ∧
        ((∀ s ∈ nestedOfBlock body, s.isCompound = true → n ∉ s.binds) →
          ∀ s rest e, Visits body (some env) (s :: rest) (some e) → start.Covers e n) := by
  obtain ⟨joined, hjoined, henv⟩ :=
    State.exists_of_some_le (State.le_join_left (some env) (execBlock body (some env)).raised)
  have hraised : (execBlock body (some env)).raised ≤ some joined := hjoined ▸ State.le_join_right _ _
  have hstart : handler.entry (some env) body = some (joined.bindAll handler.name.toList .nonNull) := by
    rw [Handler.entry, handlerEntry, hjoined]
    rfl
  refine ⟨joined.bindAll handler.name.toList .nonNull, hstart, fun _ _ _ hmem => hstart ▸ .handlerBody hmem, ?_⟩
  intro n hn
  have hverdict : (joined.bindAll handler.name.toList .nonNull).verdict n = joined.verdict n := by
    rw [Env.verdict_bindAll, if_neg hn]
  have hcovers : ∀ e : Env, (joined.bindAll handler.name.toList .nonNull).Covers e n ↔ joined.Covers e n := by
    intro e
    rw [Env.Covers, hverdict, Env.Covers]
  simp only [hcovers]
  have hspread : (∀ e, BoundEntry n body (some env) (some e) → joined.Covers e n) →
      ∀ s rest e, Visits body (some env) (s :: rest) (some e) → joined.Covers e n := by
    intro hentries s rest e hvisit
    have hseen : Seen (joined.Covers · n) n body (some env) := by
      refine ⟨fun t ht e he => ?_, fun t ht e he => hentries e (he ▸ ht)⟩
      exact Env.covers_of_le (he ▸ ht.le_raised.trans hraised) n
    have hheld := held_execBlock_of Env.Covers.join (fun s _ => held_starts s) hseen
      fun _ => State.all_some.mpr (Env.covers_of_le henv n)
    exact hheld.starts s rest _ hvisit e rfl
  refine ⟨⟨?_, hspread⟩, ?_⟩
  · rintro hstarts e ⟨s, rest, u, first, more, hvisit, -, hstart⟩
    exact hstarts first more e (hvisit.enter hstart)
  · intro hfree
    apply hspread
    rintro e ⟨s, rest, u, first, more, hvisit, hbinds, hstart⟩
    have hmem : s ∈ nestedOfBlock body :=
      nested_of_visits hvisit s (List.mem_append_left _ (mem_nested_self s))
    exact absurd hbinds (hfree s hmem (isCompound_of_starts hstart))

def briefNone : List Stmt :=
  [.ifElse 5 (.name "flag")
    [.assign [.name "value"] (.literal .none), .assign [.name "value"] (.call (.name "compute") [.name "s"] [])] []]

def briefNoneEntry : Env :=
  ((∅ : Env).insert "s" .nonNull).insert "value" .nonNull

theorem handler_covers_statements_iff_briefNone :
    ∃ start, Handler.entry (.mk false none (some "fault") [.pass]) (some briefNoneEntry) briefNone = some start ∧
      start.verdict "s" = .nonNull ∧ start.verdict "value" = .nullable ∧
      ∀ s rest e, Visits briefNone (some briefNoneEntry) (s :: rest) (some e) →
        e.verdict "s" = .nonNull ∧ start.Covers e "value" := by
  obtain ⟨start, hstart, -, hcovers⟩ :=
    handler_covers_statements_iff briefNone (.mk false none (some "fault") [.pass]) briefNoneEntry
  have hverdicts : (Handler.entry (.mk false none (some "fault") [.pass]) (some briefNoneEntry) briefNone).map
      (fun start => (start.verdict "s", start.verdict "value")) = some (.nonNull, .nullable) := by
    decide +kernel
  rw [hstart, Option.map_some, Option.some.injEq, Prod.mk.injEq] at hverdicts
  have hs := (hcovers "s" (by decide)).2 (by decide)
  have hvalue := (hcovers "value" (by decide)).2 (by decide)
  refine ⟨start, hstart, hverdicts.1, hverdicts.2, fun s rest e hvisit => ⟨?_, hvalue s rest e hvisit⟩⟩
  exact (hs s rest e hvisit).1 hverdicts.1

def raisingLoop : List Stmt :=
  [.forLoop false (.name "item") (.name "items") [.raise []] []]

/-- A loop that raises at its first item: the handler takes the name for what it was before the loop. -/
theorem not_handler_covers_loop_target :
    ¬ ∀ start s rest e,
      Handler.entry (.mk false none none [.pass]) (some ((∅ : Env).insert "item" .nonNull)) raisingLoop = some start →
      Visits raisingLoop (some ((∅ : Env).insert "item" .nonNull)) (s :: rest) (some e) → start.Covers e "item" := by
  intro hcovers
  have hvisit : Visits raisingLoop (some ((∅ : Env).insert "item" .nonNull)) [.raise []]
      (some (((∅ : Env).insert "item" .nonNull).insert "item" .unknown)) :=
    .inside (.forRound (head_mem_heads _ _ _)) .refl
  have hsure : (Handler.entry (.mk false none none [.pass]) (some ((∅ : Env).insert "item" .nonNull)) raisingLoop).map
      (·.verdict "item") = some .nonNull := by
    decide +kernel
  obtain ⟨start, hstart, hsure⟩ := Option.map_eq_some_iff.mp hsure
  have hitem := (hcovers start _ _ _ hstart hvisit).1 hsure
  rw [Env.verdict_insert, if_pos rfl] at hitem
  cases hitem

end NullContract
