import NullContract.Proofs.BooleanLaws
import NullContract.Proofs.MonotoneMeaning

namespace NullContract

namespace Meaning

theorem mem_chain {stop : Bool} {ms : List Meaning} {state : State} {v : Nullness} :
    v ∈ chain stop ms state ↔ ∃ before m after env, ms = before ++ m :: after ∧ assumeAll (!stop) before state = some env ∧
      (after = [] ∧ v = m.value env ∨
        after ≠ [] ∧ m.assume stop env ≠ none ∧ v = if stop then .nonNull else m.value env) := by
  induction ms generalizing state with
  | nil => cases state <;> simp [chain]
  | cons m rest ih =>
    cases state with
    | none => simp [chain, assumeAll_none]
    | some env =>
      -- Either the chain ends with the first operand, or this one lets it go on and a later one is the value.
      have hrest : v ∈ chain stop (m :: rest) (some env) ↔
          (rest = [] ∧ v = m.value env ∨
            rest ≠ [] ∧ m.assume stop env ≠ none ∧ v = if stop then .nonNull else m.value env) ∨
          v ∈ chain stop rest (m.assume (!stop) env) := by
        cases rest with
        | nil => cases m.assume (!stop) env <;> simp [chain]
        | cons m' rest => simp [chain, Option.ne_none_iff_isSome]
      rw [hrest, ih]
      constructor
      · rintro (h | ⟨before, m', after, env', rfl, hbefore, h⟩)
        · exact ⟨[], m, rest, env, rfl, rfl, h⟩
        · exact ⟨m :: before, m', after, env', rfl, hbefore, h⟩
      · rintro ⟨before, m', after, env', hsplit, hbefore, h⟩
        cases before with
        | nil =>
          cases hsplit
          cases hbefore
          exact .inl h
        | cons m before =>
          cases hsplit
          exact .inr ⟨before, m', after, env', rfl, hbefore, h⟩

end Meaning

namespace Expr

def parts : Expr → Env → List Nullness
  | .cond test body orelse, env =>
    ((test.assume true (some env)).map body.evaluate).toList ++ ((test.assume false (some env)).map orelse.evaluate).toList
  | .junction op operands, env => Meaning.chain (op = .or) (meanings operands) (some env)
  | e, env => [e.evaluate env]

inductive HasParts : Expr → Prop where
  | cond (test body orelse : Expr) : HasParts (.cond test body orelse)
  | junction (op : Junctor) {operands : List Expr} (h : operands ≠ []) : HasParts (.junction op operands)

/-- A verdict that an expression may have by one of its parts: by a branch that the test allows, by an operand that stops the
junction after those before it have let it go on, or by the last operand. One that stops a disjunction is true, so not null. -/
inductive MayYield (env : Env) : Expr → Nullness → Prop where
  | body {test body orelse : Expr} {env' : Env} (h : test.assume true (some env) = some env') :
      MayYield env (.cond test body orelse) (body.evaluate env')
  | orelse {test body orelse : Expr} {env' : Env} (h : test.assume false (some env) = some env') :
      MayYield env (.cond test body orelse) (orelse.evaluate env')
  | stops {op : Junctor} {before after : List Expr} {operand : Expr} {env' : Env}
      (hbefore : (Expr.junction op before).assume (op = .and) (some env) = some env')
      (hstops : operand.assume (op = .or) (some env') ≠ none) (hafter : after ≠ []) :
      MayYield env (.junction op (before ++ operand :: after)) (if op = .or then .nonNull else operand.evaluate env')
  | last {op : Junctor} {before : List Expr} {operand : Expr} {env' : Env}
      (hbefore : (Expr.junction op before).assume (op = .and) (some env) = some env') :
      MayYield env (.junction op (before ++ [operand])) (operand.evaluate env')

variable {env : Env} {e : Expr} {v : Nullness}

theorem evaluate_eq_joinAll (e : Expr) (env : Env) : e.evaluate env = .joinAll (e.parts env) := by
  cases e <;> rfl

theorem assume_junction_and (op : Junctor) (operands : List Expr) (state : State) :
    (Expr.junction op operands).assume (op = .and) state =
      Meaning.assumeAll (!decide (op = .or)) (meanings operands) state := by
  have hnot : (!decide (op = .or)) = decide (op = .and) := by cases op <;> rfl
  rw [assume, meaning, Meaning.bind_junction, if_pos rfl, hnot]

theorem mem_parts_cond {test body orelse : Expr} :
    v ∈ (Expr.cond test body orelse).parts env ↔ MayYield env (.cond test body orelse) v := by
  simp only [parts, List.mem_append, Option.mem_toList, Option.map_eq_some_iff]
  constructor
  · rintro (⟨env', h, rfl⟩ | ⟨env', h, rfl⟩)
    · exact .body h
    · exact .orelse h
  · intro h
    cases h with
    | body h => exact .inl ⟨_, h, rfl⟩
    | orelse h => exact .inr ⟨_, h, rfl⟩

theorem mem_parts_junction {op : Junctor} {operands : List Expr} :
    v ∈ (Expr.junction op operands).parts env ↔ MayYield env (.junction op operands) v := by
  rw [parts, Meaning.mem_chain, meanings_eq_map]
  constructor
  · rintro ⟨before, m, after, env', hsplit, hbefore, h⟩
    obtain ⟨before, rest, rfl, rfl, hrest⟩ := List.map_eq_append_iff.mp hsplit
    obtain ⟨operand, after, rfl, rfl, rfl⟩ := List.map_eq_cons_iff.mp hrest
    rw [← meanings_eq_map, ← assume_junction_and] at hbefore
    rcases h with ⟨hafter, rfl⟩ | ⟨hafter, hstops, rfl⟩
    · rw [List.map_eq_nil_iff.mp hafter]
      exact .last hbefore
    · have hyield := MayYield.stops hbefore hstops (mt List.map_eq_nil_iff.mpr hafter)
      simpa [evaluate] using hyield
  · intro h
    cases h with
    | @stops _ before after operand env' hbefore hstops hafter =>
      rw [assume_junction_and, meanings_eq_map] at hbefore
      refine ⟨_, operand.meaning, after.map meaning, env', by simp, hbefore, .inr ⟨?_, hstops, ?_⟩⟩
      · simpa using hafter
      · simp [evaluate]
    | @last _ before operand env' hbefore =>
      rw [assume_junction_and, meanings_eq_map] at hbefore
      exact ⟨_, operand.meaning, [], env', by simp, hbefore, .inl ⟨rfl, rfl⟩⟩

theorem HasParts.mem_parts (h : e.HasParts) : v ∈ e.parts env ↔ MayYield env e v := by
  cases h with
  | cond test body orelse => exact mem_parts_cond
  | junction op h => exact mem_parts_junction

theorem HasParts.parts_ne_nil (h : e.HasParts) (env : Env) : e.parts env ≠ [] := by
  cases h with
  | cond test body orelse =>
    obtain ⟨truth, hlive⟩ := test.live_meaning env
    obtain ⟨env', henv'⟩ := Option.ne_none_iff_exists'.mp hlive
    cases truth <;> simp [parts, assume, henv']
  | junction op h =>
    refine Meaning.chain_ne_nil (forall_mem_meanings.mpr fun e _ => e.live_meaning) ?_ _ env
    rwa [meanings_eq_map, ne_eq, List.map_eq_nil_iff]

theorem test_keeps_an_outcome (env : Env) :
    (∀ test : Expr, test.assume true (some env) ≠ none ∨ test.assume false (some env) ≠ none) ∧
    ∀ e : Expr, e.HasParts → ∃ v rest, e.parts env = v :: rest ∧ e.evaluate env = rest.foldl Nullness.join v ∧
      ∀ w, w ∈ v :: rest ↔ MayYield env e w := by
  constructor
  · intro test
    obtain ⟨truth, hlive⟩ := test.live_meaning env
    cases truth with
    | false => exact .inr hlive
    | true => exact .inl hlive
  · intro e he
    obtain ⟨v, rest, hparts⟩ := List.exists_cons_of_ne_nil (he.parts_ne_nil env)
    refine ⟨v, rest, hparts, ?_, fun w => ?_⟩
    · rw [evaluate_eq_joinAll, hparts, Nullness.joinAll]
    · rw [← hparts, he.mem_parts]

def nameOrNone : Expr :=
  .junction .or [.name "x", .cond (.compare (.name "x") [.is] [.literal .none]) (.literal .none) (.name "x")]

theorem test_keeps_an_outcome_nameOrNone :
    nameOrNone.HasParts ∧ nameOrNone.parts ((∅ : Env).insert "x" .nullable) = [.nonNull, .nullable] ∧
      ∀ w, w ∈ [.nonNull, .nullable] ↔ MayYield ((∅ : Env).insert "x" .nullable) nameOrNone w := by
  have hhas : nameOrNone.HasParts := .junction .or (by simp)
  have hparts : nameOrNone.parts ((∅ : Env).insert "x" .nullable) = [.nonNull, .nullable] := by decide +kernel
  obtain ⟨v, rest, hcons, -, hmem⟩ := (test_keeps_an_outcome ((∅ : Env).insert "x" .nullable)).2 nameOrNone hhas
  rw [← hcons, hparts] at hmem
  exact ⟨hhas, hparts, hmem⟩

end Expr

end NullContract
