import NullContract.Flow.Exec
import NullContract.Proofs.Nested
import NullContract.Proofs.StateOrder

/-!
Captures and guards of a match statement. A pattern that matches binds its names before the guard is asked, and they stay
bound when the guard fails. The analysis tries every case from the entry of the statement, so a later case and the way past
all cases take a name for what it was at the entry.
-/

namespace NullContract

def Env.IsOpen (env : Env) (n : String) : Prop :=
  env.verdict n ≠ .nonNull ∧ env.verdict n ≠ .null

theorem Env.isOpen_congr {a b : Env} {n : String} (h : a[n]? = b[n]?) : a.IsOpen n ↔ b.IsOpen n := by
  rw [IsOpen, IsOpen, verdict, verdict, h]

def Case.PassesBy (c : Case) (n : String) : Prop :=
  c.guard = none ∧ (∀ truth, c.pattern ≠ .singleton truth) ∧ n ∉ c.pattern.captures

def fallThrough (cases : List Case) (state : State) : State :=
  if exhaustive cases then none else state

theorem next_exec_matchCases (subject : Expr) (cases : List Case) (state : State) :
    ((Stmt.matchCases subject cases).exec state).next =
      (execCases subject cases state).next.join (fallThrough cases state) := by
  simp only [Stmt.exec, fallThrough]
  split
  · rw [State.join_none]
  · rfl

structure CapturedBefore (cases : List Case) (n : String) (c : Case) (after : List Case) : Prop where
  tried : ∃ before, cases = before ++ c :: after
  guarded : c.guard ≠ none
  captured : n ∈ c.pattern.captures

def CapturesOutliveGuards (subject : Expr) (cases : List Case) (env : Env) : Prop :=
  ∀ n c after, CapturedBefore cases n c after →
    (∀ later ∈ after, later.PassesBy n →
      ∃ start, caseEntry subject later.pattern later.guard (some env) = some start ∧ start.IsOpen n) ∧
    ∀ out, fallThrough cases (some env) = some out → out.IsOpen n

def LeftOver (cases : List Case) (n : String) : Prop :=
  ∃ c after, CapturedBefore cases n c after ∧ (exhaustive cases = false ∨ ∃ later ∈ after, later.PassesBy n)

def guardedCaptures (cases : List Case) : List String :=
  (cases.filter (·.guard.isSome)).flatMap (·.pattern.captures)

section

variable {subject : Expr} {cases : List Case} {env : Env} {n : String}

theorem caseEntry_of_passesBy {c : Case} (h : c.PassesBy n) (subject : Expr) (env : Env) :
    ∃ start, caseEntry subject c.pattern c.guard (some env) = some start ∧ start[n]? = env[n]? := by
  obtain ⟨hguard, hpattern, hcaptures⟩ := h
  refine ⟨env.bindAll c.pattern.captures .unknown, ?_, by rw [Env.getElem?_bindAll, if_neg hcaptures]⟩
  rw [hguard, caseEntry, matchPattern]
  · rfl
  · intro truth id hsingleton
    exact absurd hsingleton (hpattern truth)

theorem mem_guardedCaptures {c : Case} {after : List Case} (h : CapturedBefore cases n c after) :
    n ∈ guardedCaptures cases := by
  obtain ⟨before, rfl⟩ := h.tried
  refine List.mem_flatMap.mpr ⟨c, List.mem_filter.mpr ⟨by simp, ?_⟩, h.captured⟩
  exact Option.isSome_iff_ne_none.mpr h.guarded

theorem outlive_of_leftOver (h : ∀ n, LeftOver cases n → env.IsOpen n) : CapturesOutliveGuards subject cases env := by
  intro n c after hcaptured
  constructor
  · intro later hlater hpasses
    obtain ⟨start, hstart, hslot⟩ := caseEntry_of_passesBy hpasses subject env
    have henv := h n ⟨c, after, hcaptured, .inr ⟨later, hlater, hpasses⟩⟩
    exact ⟨start, hstart, (Env.isOpen_congr hslot).mpr henv⟩
  · intro out hout
    rw [fallThrough] at hout
    split at hout
    · cases hout
    · next hexhaustive =>
      cases hout
      exact h n ⟨c, after, hcaptured, .inl (Bool.eq_false_iff.mpr hexhaustive)⟩

theorem leftOver_of_outlive (h : CapturesOutliveGuards subject cases env) (hleft : LeftOver cases n) :
    env.IsOpen n := by
  obtain ⟨c, after, hcaptured, hway⟩ := hleft
  obtain ⟨hlater, hpast⟩ := h n c after hcaptured
  rcases hway with hexhaustive | ⟨later, hmem, hpasses⟩
  · apply hpast
    rw [fallThrough, hexhaustive]
    rfl
  · obtain ⟨start, hstart, hslot⟩ := caseEntry_of_passesBy hpasses subject env
    obtain ⟨start', hstart', hopen⟩ := hlater later hmem hpasses
    cases hstart.symm.trans hstart'
    exact (Env.isOpen_congr hslot).mp hopen

end

theorem captures_outlive_guards_iff (subject : Expr) (cases : List Case) (env : Env) :
    (∀ c ∈ cases, ∀ n, c.PassesBy n →
      ∃ start, caseEntry subject c.pattern c.guard (some env) = some start ∧ start[n]? = env[n]?) ∧
    ((Stmt.matchCases subject cases).exec (some env)).next =
      (execCases subject cases (some env)).next.join (fallThrough cases (some env)) ∧
    (CapturesOutliveGuards subject cases env ↔ ∀ n, LeftOver cases n → env.IsOpen n) ∧
    CapturesOutliveGuards subject cases (env.bindAll (guardedCaptures cases) .unknown) := by
  refine ⟨fun c _ n hpasses => caseEntry_of_passesBy hpasses subject env, next_exec_matchCases subject cases (some env),
    ⟨fun h n => leftOver_of_outlive h, outlive_of_leftOver⟩, ?_⟩
  apply outlive_of_leftOver
  rintro n ⟨c, after, hcaptured, -⟩
  rw [Env.IsOpen, Env.verdict_bindAll, if_pos (mem_guardedCaptures hcaptured)]
  decide

def raisesOnAccepted : List Case :=
  [.mk (.capture (some "m")) (some (.name "accepted")) [.raise []], .mk (.capture none) none [.pass]]

def holdsNonNull : Env := (∅ : Env).insert "m" .nonNull

theorem leftOver_raisesOnAccepted : LeftOver raisesOnAccepted "m" := by
  refine ⟨_, _, ⟨⟨[], rfl⟩, nofun, by decide⟩, .inr ⟨_, List.mem_singleton_self _, rfl, nofun, by decide⟩⟩

theorem not_isOpen_holdsNonNull : ¬ holdsNonNull.IsOpen "m" := by
  intro hopen
  exact hopen.1 (by simp [holdsNonNull, Env.verdict])

theorem captures_outlive_guards_iff_raisesOnAccepted :
    LeftOver raisesOnAccepted "m" ∧ ¬ holdsNonNull.IsOpen "m" ∧
    CapturesOutliveGuards (.name "s") raisesOnAccepted
      (holdsNonNull.bindAll (guardedCaptures raisesOnAccepted) .unknown) :=
  ⟨leftOver_raisesOnAccepted, not_isOpen_holdsNonNull,
    (captures_outlive_guards_iff (.name "s") raisesOnAccepted holdsNonNull).2.2.2⟩

/-- A value that is known to be non-null at the entry is still taken for non-null where the subject has taken its name. -/
theorem not_captures_outlive_guards : ¬ CapturesOutliveGuards (.name "s") raisesOnAccepted holdsNonNull := by
  intro h
  exact not_isOpen_holdsNonNull (leftOver_of_outlive h leftOver_raisesOnAccepted)

end NullContract
