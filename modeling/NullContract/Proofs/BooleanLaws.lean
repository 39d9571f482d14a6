import Mathlib.Data.List.Forall2
import Mathlib.Logic.Relation
import NullContract.Proofs.Meanings
import NullContract.Proofs.StateOrder

/-!
The laws of negation and of nested junctions, as rewritings of tests. A law may be applied below negations and
junctions only: what a test compares, calls or assigns stays as it is. The rewritten test leads to the same states, so a
test may be brought to its negation normal form and its junctions may be flattened.
-/

namespace NullContract

def Junctor.dual : Junctor → Junctor
  | and => or
  | or => and

namespace Expr

inductive NegationLaw : Expr → Expr → Prop where
  | twice (t : Expr) : NegationLaw (.not (.not t)) t
  | junction (op : Junctor) (operands : List Expr) :
      NegationLaw (.not (.junction op operands)) (.junction op.dual (operands.map .not))

inductive NestingLaw : Expr → Expr → Prop where
  | splice (op : Junctor) (before inner after : List Expr) :
      NestingLaw (.junction op (before ++ .junction op inner :: after)) (.junction op (before ++ inner ++ after))

inductive Rewrites (law : Expr → Expr → Prop) : Expr → Expr → Prop where
  | here {t t' : Expr} (h : law t t') : Rewrites law t t'
  | not {t t' : Expr} (h : Rewrites law t t') : Rewrites law (.not t) (.not t')
  | operand {t t' : Expr} (op : Junctor) (before after : List Expr) (h : Rewrites law t t') :
      Rewrites law (.junction op (before ++ t :: after)) (.junction op (before ++ t' :: after))

end Expr

namespace Meaning

theorem assumeAll_append (truth : Bool) (ms ms' : List Meaning) (state : State) :
    assumeAll truth (ms ++ ms') state = assumeAll truth ms' (assumeAll truth ms state) := by
  induction ms generalizing state with
  | nil => rfl
  | cons m rest ih => exact ih _

theorem assumeFirst_append (truth : Bool) (ms ms' : List Meaning) (state : State) :
    assumeFirst truth (ms ++ ms') state =
      (assumeFirst truth ms state).join (assumeFirst truth ms' (assumeAll (!truth) ms state)) := by
  induction ms generalizing state with
  | nil => simp [assumeFirst, assumeAll]
  | cons m rest ih => simp only [List.cons_append, assumeFirst, assumeAll, ih, State.join_assoc]

theorem assumeAll_map_not (truth : Bool) (ms : List Meaning) (state : State) :
    assumeAll truth (ms.map not) state = assumeAll (!truth) ms state := by
  induction ms generalizing state with
  | nil => rfl
  | cons m rest ih => exact ih _

theorem assumeFirst_map_not (truth : Bool) (ms : List Meaning) (state : State) :
    assumeFirst truth (ms.map not) state = assumeFirst (!truth) ms state := by
  induction ms generalizing state with
  | nil => rfl
  | cons m rest ih =>
    simp only [List.map_cons, assumeFirst, ih]
    rfl

theorem assumeAll_none (truth : Bool) (ms : List Meaning) : assumeAll truth ms none = none := by
  induction ms with
  | nil => rfl
  | cons m rest ih => exact ih

theorem assumeFirst_none (truth : Bool) (ms : List Meaning) : assumeFirst truth ms none = none := by
  induction ms with
  | nil => rfl
  | cons m rest ih => exact ih

theorem bind_junction (op : Junctor) (ms : List Meaning) (truth : Bool) (state : State) :
    state.bind ((junction op ms).assume truth) =
      if decide (op = .and) = truth then assumeAll truth ms state else assumeFirst truth ms state := by
  cases state with
  | none => simp [assumeAll_none, assumeFirst_none]
  | some env => rfl

theorem assume_not_junction (op : Junctor) (ms : List Meaning) :
    (not (junction op ms)).assume = (junction op.dual (ms.map not)).assume := by
  funext truth env
  simp only [not, junction, assumeAll_map_not, assumeFirst_map_not]
  cases op <;> cases truth <;> rfl

theorem assume_junction_splice (op : Junctor) (before inner after : List Meaning) :
    (junction op (before ++ junction op inner :: after)).assume = (junction op (before ++ inner ++ after)).assume := by
  funext truth env
  have houter : ∀ ms, (junction op ms).assume truth env =
      if decide (op = .and) = truth then assumeAll truth ms (some env) else assumeFirst truth ms (some env) :=
    fun _ => rfl
  rw [houter, houter]
  by_cases hall : decide (op = .and) = truth
  · -- All operands have the outcome: the inner ones take the state from those before them and hand it on.
    rw [if_pos hall, if_pos hall, assumeAll_append, assumeAll, bind_junction, if_pos hall, assumeAll_append,
      assumeAll_append]
  · -- The inner junction decides if one of its operands does, and it lets the chain go on if none of them does.
    have hother : decide (op = .and) = !truth := by
      revert hall
      cases truth <;> simp
    rw [if_neg hall, if_neg hall, assumeFirst_append, assumeFirst, bind_junction, bind_junction, if_neg hall,
      if_pos hother, assumeFirst_append, assumeFirst_append, assumeAll_append, State.join_assoc]

theorem assume_junction_congr {m m' : Meaning} (op : Junctor) (before after : List Meaning) (h : m.assume = m'.assume) :
    (junction op (before ++ m :: after)).assume = (junction op (before ++ m' :: after)).assume := by
  funext truth env
  simp only [junction, assumeAll_append, assumeFirst_append, assumeAll, assumeFirst, h]

end Meaning

namespace Expr

variable {law : Expr → Expr → Prop} {t t' : Expr}

theorem NegationLaw.assume_eq (h : NegationLaw t t') : t.meaning.assume = t'.meaning.assume := by
  cases h with
  | twice t =>
    funext truth env
    simp [meaning, Meaning.not]
  | junction op operands =>
    have hnots : meanings (operands.map .not) = (meanings operands).map Meaning.not := by
      simp [meanings_eq_map, meaning]
    rw [meaning, meaning, meaning, hnots]
    apply Meaning.assume_not_junction

theorem NestingLaw.assume_eq (h : NestingLaw t t') : t.meaning.assume = t'.meaning.assume := by
  cases h with
  | splice op before inner after =>
    simp only [meaning, meanings_eq_map, List.map_append, List.map_cons]
    apply Meaning.assume_junction_splice

theorem Rewrites.assume_eq (hlaw : ∀ {t t' : Expr}, law t t' → t.meaning.assume = t'.meaning.assume)
    (h : Rewrites law t t') : t.meaning.assume = t'.meaning.assume := by
  induction h with
  | here h => exact hlaw h
  | not _ ih =>
    funext truth env
    simp only [meaning, Meaning.not, ih]
  | operand op before after _ ih =>
    simp only [meaning, meanings_eq_map, List.map_append, List.map_cons]
    exact Meaning.assume_junction_congr op _ _ ih

theorem Rewrites.mono {law' : Expr → Expr → Prop} (hlaw : ∀ {t t' : Expr}, law t t' → law' t t')
    (h : Rewrites law t t') : Rewrites law' t t' := by
  induction h with
  | here h => exact .here (hlaw h)
  | not _ ih => exact .not ih
  | operand op before after _ ih => exact .operand op before after ih

def SameByLaws : Expr → Expr → Prop :=
  Relation.EqvGen (Rewrites fun t t' => NegationLaw t t' ∨ NestingLaw t t')

theorem SameByLaws.assume_eq (h : SameByLaws t t') (truth : Bool) (state : State) :
    t'.assume truth state = t.assume truth state := by
  have hassume : t.meaning.assume = t'.meaning.assume := by
    induction h with
    | rel _ _ h => exact h.assume_eq fun hlaw => hlaw.elim NegationLaw.assume_eq NestingLaw.assume_eq
    | refl _ => rfl
    | symm _ _ _ ih => exact ih.symm
    | trans _ _ _ _ _ ih ih' => exact ih.trans ih'
  rw [assume, assume, hassume]

structure IsNormalForm (law : Expr → Expr → Prop) (t n : Expr) : Prop where
  reached : Relation.ReflTransGen (Rewrites law) t n
  normal : ∀ n', ¬ Rewrites law n n'

mutual
def pushNot (negated : Bool) : Expr → Expr
  | .not operand => operand.pushNot (!negated)
  | .junction op operands => .junction (if negated then op.dual else op) (pushNots negated operands)
  | t => if negated then .not t else t

def pushNots (negated : Bool) : List Expr → List Expr
  | [] => []
  | t :: rest => t.pushNot negated :: pushNots negated rest
end

def negationNormal (t : Expr) : Expr :=
  t.pushNot false

def operandsIn (op : Junctor) : Expr → List Expr
  | .junction op' operands => if op' = op then operands else [.junction op' operands]
  | t => [t]

mutual
def flattened : Expr → Expr
  | .not operand => .not operand.flattened
  | .junction op operands => .junction op (flattenedOperands op operands)
  | t => t

def flattenedOperands (op : Junctor) : List Expr → List Expr
  | [] => []
  | t :: rest => t.flattened.operandsIn op ++ flattenedOperands op rest
end

theorem pushNots_eq_map (negated : Bool) (ts : List Expr) : pushNots negated ts = ts.map (pushNot negated) := by
  induction ts with
  | nil => rfl
  | cons t rest ih => simp [pushNots, ih]

theorem flattenedOperands_eq_flatMap (op : Junctor) (ts : List Expr) :
    flattenedOperands op ts = (ts.map flattened).flatMap (operandsIn op) := by
  induction ts with
  | nil => rfl
  | cons t rest ih => simp [flattenedOperands, ih]

open Relation (ReflTransGen)

theorem reaches_not (h : ReflTransGen (Rewrites law) t t') : ReflTransGen (Rewrites law) (.not t) (.not t') :=
  h.lift Expr.not fun _ _ => .not

theorem reaches_operands {ts ts' : List Expr} (h : List.Forall₂ (ReflTransGen (Rewrites law)) ts ts') (op : Junctor)
    (before : List Expr) :
    ReflTransGen (Rewrites law) (.junction op (before ++ ts)) (.junction op (before ++ ts')) := by
  induction h generalizing before with
  | nil => exact .refl
  | @cons t t' ts ts' ht _ ih =>
    have hfirst : ReflTransGen (Rewrites law) (.junction op (before ++ t :: ts)) (.junction op (before ++ t' :: ts)) :=
      ht.lift (fun t => Expr.junction op (before ++ t :: ts)) fun _ _ => Rewrites.operand op before ts
    have hrest := ih (before ++ [t'])
    rw [List.append_assoc, List.append_assoc] at hrest
    exact hfirst.trans hrest

theorem not_rewrites_junction {op : Junctor} {ts : List Expr} (hlaw : ∀ n, ¬ law (.junction op ts) n)
    (hts : ∀ t ∈ ts, ∀ n, ¬ Rewrites law t n) (n : Expr) : ¬ Rewrites law (.junction op ts) n := by
  intro h
  cases h with
  | here h => exact hlaw _ h
  | operand _ before after h => exact hts _ (by simp) _ h

theorem reaches_pushNot (t : Expr) (negated : Bool) :
    ReflTransGen (Rewrites NegationLaw) (if negated then .not t else t) (t.pushNot negated) := by
  -- The operands of a negated junction are reached with negations in front of them, so both cases go together.
  induction t generalizing negated with
  | not operand ih =>
    cases negated with
    | false => exact ih true
    | true => exact .head (.here (.twice operand)) (ih false)
  | junction op operands ih =>
    rw [pushNot, pushNots_eq_map]
    cases negated with
    | false =>
      refine reaches_operands ?_ op []
      rw [List.forall₂_map_right_iff, List.forall₂_same]
      exact fun t ht => ih t ht false
    | true =>
      refine .head (.here (.junction op operands)) (reaches_operands ?_ op.dual [])
      rw [List.forall₂_map_left_iff, List.forall₂_map_right_iff, List.forall₂_same]
      exact fun t ht => ih t ht true
  | _ => exact .refl

theorem not_rewrites_pushNot (t : Expr) (negated : Bool) (n : Expr) : ¬ Rewrites NegationLaw (t.pushNot negated) n := by
  induction t generalizing negated n with
  | not operand ih => exact ih (!negated) n
  | junction op operands ih =>
    rw [pushNot, pushNots_eq_map]
    apply not_rewrites_junction
    · rintro n ⟨⟩
    · intro t ht n
      obtain ⟨operand, hoperand, rfl⟩ := List.mem_map.mp ht
      exact ih operand hoperand negated n
  | _ =>
    intro h
    cases negated with
    | false => cases h with | here h => cases h
    | true =>
      cases h with
      | here h => cases h
      | not h => cases h with | here h => cases h

theorem isNormalForm_negationNormal (t : Expr) : IsNormalForm NegationLaw t t.negationNormal where
  reached := reaches_pushNot t false
  normal := not_rewrites_pushNot t false

theorem reaches_flatMap (op : Junctor) (before ts : List Expr) :
    ReflTransGen (Rewrites NestingLaw) (.junction op (before ++ ts)) (.junction op (before ++ ts.flatMap (operandsIn op))) := by
  induction ts generalizing before with
  | nil => exact .refl
  | cons t rest ih =>
    have hrest := ih (before ++ t.operandsIn op)
    rw [List.append_assoc _ _ (rest.flatMap _), ← List.flatMap_cons] at hrest
    refine ReflTransGen.trans ?_ hrest
    unfold operandsIn
    split
    · next op' inner =>
      split
      · next hop =>
        subst hop
        exact .single (.here (.splice op' before inner rest))
      · rw [List.append_assoc, List.singleton_append]
    · rw [List.append_assoc, List.singleton_append]

theorem reaches_flattened (t : Expr) : ReflTransGen (Rewrites NestingLaw) t t.flattened := by
  induction t with
  | not operand ih => exact reaches_not ih
  | junction op operands ih =>
    rw [flattened, flattenedOperands_eq_flatMap]
    refine ReflTransGen.trans (reaches_operands ?_ op []) (reaches_flatMap op [] _)
    rw [List.forall₂_map_right_iff, List.forall₂_same]
    exact ih
  | _ => exact .refl

theorem normal_operandsIn {op : Junctor} (h : ∀ n, ¬ Rewrites NestingLaw t n) {e : Expr} (he : e ∈ t.operandsIn op) :
    (∀ n, ¬ Rewrites NestingLaw e n) ∧ ∀ inner, e ≠ .junction op inner := by
  cases t with
  | junction op' operands =>
    by_cases hop : op' = op
    · subst hop
      rw [operandsIn, if_pos rfl] at he
      obtain ⟨before, after, rfl⟩ := List.append_of_mem he
      refine ⟨fun n hn => h _ (.operand op' before after hn), ?_⟩
      rintro inner rfl
      exact h _ (.here (.splice op' before inner after))
    · rw [operandsIn, if_neg hop, List.mem_singleton] at he
      subst he
      refine ⟨h, ?_⟩
      rintro inner ⟨⟩
      exact hop rfl
  | _ =>
    rw [operandsIn, List.mem_singleton] at he
    · subst he
      exact ⟨h, by simp⟩
    · simp

theorem not_rewrites_flattened (t n : Expr) : ¬ Rewrites NestingLaw t.flattened n := by
  induction t generalizing n with
  | not operand ih =>
    intro h
    cases h with
    | here h => cases h
    | not h => exact ih _ h
  | junction op operands ih =>
    rw [flattened, flattenedOperands_eq_flatMap]
    have hoperands : ∀ e ∈ (operands.map flattened).flatMap (operandsIn op),
        (∀ n, ¬ Rewrites NestingLaw e n) ∧ ∀ inner, e ≠ .junction op inner := by
      intro e he
      obtain ⟨t, ht, he⟩ := List.mem_flatMap.mp he
      obtain ⟨operand, hoperand, rfl⟩ := List.mem_map.mp ht
      exact normal_operandsIn (ih operand hoperand) he
    generalize (operands.map flattened).flatMap (operandsIn op) = ts at hoperands
    apply not_rewrites_junction
    · intro n hlaw
      cases hlaw with
      | splice _ before inner after => exact (hoperands _ (by simp)).2 inner rfl
    · exact fun e he => (hoperands e he).1
  | _ =>
    intro h
    cases h with
    | here h => cases h

theorem isNormalForm_flattened (t : Expr) : IsNormalForm NestingLaw t t.flattened where
  reached := reaches_flattened t
  normal := not_rewrites_flattened t

theorem sameByLaws_of_reaches (hlaw : ∀ {t t' : Expr}, law t t' → NegationLaw t t' ∨ NestingLaw t t')
    (h : ReflTransGen (Rewrites law) t t') : SameByLaws t t' := by
  apply Relation.EqvGen.reflTransGen_le_eqvGen
  exact ReflTransGen.mono (fun _ _ => Rewrites.mono hlaw) _ _ h

theorem sameByLaws_negationNormal (t : Expr) : SameByLaws t t.negationNormal :=
  sameByLaws_of_reaches .inl (isNormalForm_negationNormal t).reached

theorem sameByLaws_flattened (t : Expr) : SameByLaws t t.flattened :=
  sameByLaws_of_reaches .inr (isNormalForm_flattened t).reached

theorem tests_respect_boolean_laws (t : Expr) (truth : Bool) (state : State) :
    (IsNormalForm NegationLaw t t.negationNormal ∧ t.negationNormal.assume truth state = t.assume truth state) ∧
    (IsNormalForm NestingLaw t t.flattened ∧ t.flattened.assume truth state = t.assume truth state) ∧
    (∀ t', SameByLaws t t' → t'.assume truth state = t.assume truth state) ∧
    ∀ check, t.nullCheck? = some check →
      t.assume truth state = state.refine check.name (if check.assertsNull = truth then .null else .nonNull) := by
  refine ⟨⟨isNormalForm_negationNormal t, ?_⟩, ⟨isNormalForm_flattened t, ?_⟩, ?_, ?_⟩
  · exact (sameByLaws_negationNormal t).assume_eq truth state
  · exact (sameByLaws_flattened t).assume_eq truth state
  · exact fun t' h => h.assume_eq truth state
  · intro check hcheck
    rw [assume, State.refine]
    congr 1
    funext env
    exact assume_of_nullCheck hcheck truth env

def testsNone (name : String) : Expr :=
  .compare (.name name) [.is] [.literal .none]

def allThere : Expr :=
  .not (.junction .or [testsNone "x", .junction .or [testsNone "y", .not (.name "z")]])

theorem tests_respect_boolean_laws_allThere :
    SameByLaws allThere (.junction .and [.not (testsNone "x"), .not (testsNone "y"), .name "z"]) ∧
      (Expr.junction .and [.not (testsNone "x"), .not (testsNone "y"), .name "z"]).assume true (some ∅) =
        allThere.assume true (some ∅) ∧
      (Expr.not (testsNone "x")).nullCheck? = some ⟨"x", false⟩ ∧
      (Expr.not (testsNone "x")).assume true (some ∅) = State.refine (some ∅) "x" .nonNull := by
  have hsame : SameByLaws allThere (.junction .and [.not (testsNone "x"), .not (testsNone "y"), .name "z"]) :=
    .trans _ _ _ (sameByLaws_negationNormal allThere) (sameByLaws_flattened allThere.negationNormal)
  obtain ⟨-, -, hlaws, -⟩ := tests_respect_boolean_laws allThere true (some ∅)
  obtain ⟨-, -, -, hcheck⟩ := tests_respect_boolean_laws (.not (testsNone "x")) true (some ∅)
  exact ⟨hsame, hlaws _ hsame, rfl, hcheck ⟨"x", false⟩ rfl⟩

end Expr

end NullContract
