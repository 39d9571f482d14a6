import Mathlib
import NullContract.Proofs.LiteralSize

/-!
The texts that a hint quotes are shorter than the text it is read from. Reading uses tokens up and never adds one, so the
literals that an expression is made of fit into the tokens it is read from.
-/

set_option mvcgen.warning false

namespace NullContract

mutual
def Expr.quoted : Expr → List Text
  | .literal (.text text) => [text]
  | .binary .bitOr left right => left.quoted ++ right.quoted
  | .subscript _ index => index.quoted
  | .tuple members => quotedOfList members
  | _ => []

def quotedOfList : List Expr → List Text
  | [] => []
  | member :: rest => member.quoted ++ quotedOfList rest
end

theorem mem_quotedOfList {members : List Expr} {text : Text} :
    text ∈ quotedOfList members ↔ ∃ member ∈ members, text ∈ member.quoted := by
  induction members with
  | nil => simp [quotedOfList]
  | cons member rest ih => simp [quotedOfList, ih]

def Expr.Brief (N : Nat) (e : Expr) : Prop :=
  ∀ text ∈ e.quoted, text.length < N

namespace Expr

variable {M N : Nat} {e left right : Expr}

@[grind →]
theorem Brief.mono (h : e.Brief M) (hM : M ≤ N) : e.Brief N :=
  fun text htext => lt_of_lt_of_le (h text htext) hM

theorem brief_tuple {members : List Expr} : (tuple members).Brief N ↔ ∀ member ∈ members, member.Brief N := by
  simp only [Brief, quoted, mem_quotedOfList]
  constructor
  · exact fun h e he text htext => h text ⟨e, he, htext⟩
  · rintro h text ⟨e, he, htext⟩
    exact h e he text htext

theorem brief_binary (op : BinaryOp) (hleft : left.Brief N) (hright : right.Brief N) : (binary op left right).Brief N := by
  cases op with
  | bitOr =>
    intro text htext
    exact (List.mem_append.mp htext).elim (hleft text) (hright text)
  | _ => exact fun text htext => absurd htext List.not_mem_nil

theorem brief_of_quoted (h : e.quoted = []) : e.Brief N := by
  simp [Brief, h]

end Expr

namespace Source

open Parse Std.Do

/-- From tokens of a given weight at most the parser reads what the postcondition says. -/
abbrev Gives {α : Type} (N : Nat) (p : Parse α) (post : α → Input → Prop) : Prop :=
  ⦃fun input => ⌜weight input.tokens ≤ N⌝⦄ p ⦃post⟨fun a input => ⌜post a input⌝, fun _ => ⌜True⌝⟩⦄

abbrev Bounded {α : Type} (N : Nat) (p : Parse α) (Q : α → Prop) : Prop :=
  Gives N p fun a input => weight input.tokens ≤ N ∧ Q a

section Primitives

variable {α : Type} {N : Nat} {p p' : Parse α} {post : α → Input → Prop} {Q : α → Prop}

theorem gives_iff : Gives N p post ↔
    ∀ input a rest, weight input.tokens ≤ N → p input = some (a, rest) → post a rest := by
  rw [Gives, Triple]
  refine forall_congr' fun input => ?_
  change (weight input.tokens ≤ N → ((Option.instWP.wp (p input)).trans _).down) ↔ _
  cases p input with
  | none => exact ⟨fun _ _ _ _ h => (nomatch h), fun _ _ => trivial⟩
  | some result =>
    obtain ⟨a, rest⟩ := result
    refine ⟨fun h a' rest' hinput heq => ?_, fun h hinput => h a rest hinput rfl⟩
    cases heq
    exact h hinput

theorem Gives.orElse (h : Gives N p post) (h' : Gives N p' post) : Gives N (p <|> p') post := by
  rw [gives_iff] at h h' ⊢
  intro input a rest hinput hrun
  have hor : (p <|> p') input = (p input <|> p' input) := rfl
  rw [hor] at hrun
  cases hp : p input with
  | none =>
    rw [hp] at hrun
    exact h' input a rest hinput hrun
  | some result =>
    rw [hp] at hrun
    cases hrun
    exact h input a rest hinput hp

@[spec]
theorem bounded_failure : Bounded N (failure : Parse α) fun _ => False :=
  gives_iff.mpr fun _ _ _ _ h => nomatch h

@[spec]
theorem bounded_guard (b : Prop) [Decidable b] : Bounded N (guard b : Parse Unit) fun _ => b := by
  unfold guard
  split
  · mvcgen
  · exact gives_iff.mpr fun _ _ _ _ h => nomatch h

@[spec]
theorem gives_next : Gives N next fun kind input => kind.weight + weight input.tokens ≤ N := by
  rw [gives_iff]
  intro input kind rest hinput hrun
  unfold next at hrun
  split at hrun
  · cases hrun
  · next token tokens htokens =>
    cases hrun
    rwa [htokens, weight_cons] at hinput

@[spec]
theorem bounded_peek : Bounded N peek fun _ => True := by
  unfold Bounded peek
  mvcgen

@[spec]
theorem bounded_sees (test : TokenKind → Bool) : Bounded N (sees test) fun _ => True := by
  unfold Bounded sees
  mvcgen
  omega

@[spec]
theorem bounded_accept (test : TokenKind → Bool) : Bounded N (accept test) fun _ => True := by
  unfold Bounded accept
  mvcgen <;> omega

@[spec]
theorem bounded_expect (test : TokenKind → Bool) : Bounded N (expect test) fun _ => True := by
  unfold Bounded expect
  mvcgen
  omega

@[spec]
theorem bounded_seesOp (symbol : String) : Bounded N (seesOp symbol) fun _ => True :=
  bounded_sees _

@[spec]
theorem bounded_seesKeyword (id : String) : Bounded N (seesKeyword id) fun _ => True :=
  bounded_sees _

@[spec]
theorem bounded_acceptOp (symbol : String) : Bounded N (acceptOp symbol) fun _ => True :=
  bounded_accept _

@[spec]
theorem bounded_acceptKeyword (id : String) : Bounded N (acceptKeyword id) fun _ => True :=
  bounded_accept _

@[spec]
theorem bounded_op (symbol : String) : Bounded N (op symbol) fun _ => True :=
  bounded_expect _

@[spec]
theorem bounded_keyword (id : String) : Bounded N (keyword id) fun _ => True :=
  bounded_expect _

theorem bounded_lineEnd : Bounded N lineEnd fun _ => True :=
  bounded_expect _

@[spec]
theorem bounded_textEnd : Bounded N textEnd fun _ => True :=
  bounded_expect _

@[spec]
theorem bounded_name : Bounded N name fun _ => True := by
  unfold Bounded name
  mvcgen <;> omega

@[spec]
theorem bounded_seesNameThen (symbol : String) : Bounded N (seesNameThen symbol) fun _ => True := by
  unfold Bounded seesNameThen
  mvcgen

theorem bounded_many (h : Bounded N p Q) (fuel : Nat) : Bounded N (many p fuel) fun list => ∀ a ∈ list, Q a := by
  induction fuel with
  | zero =>
    unfold Bounded many
    mvcgen
    simp_all
  | succ fuel ih =>
    rw [many]
    refine Gives.orElse ?_ ?_
    · unfold Gives
      mvcgen [h, ih]
      all_goals grind
    · unfold Gives
      mvcgen
      all_goals grind

theorem bounded_commaList {more : Parse Bool} (h : Bounded N p Q) (hmore : Bounded N more fun _ => True) (fuel : Nat) :
    Bounded N (commaList p more fuel) fun list => ∀ a ∈ list.1, Q a := by
  induction fuel with
  | zero => exact gives_iff.mpr fun _ _ _ _ h => nomatch h
  | succ fuel ih =>
    unfold Bounded
    rw [commaList]
    mvcgen [h, hmore, ih]
    all_goals grind

end Primitives

structure Rules.Briefs (r : Rules) : Prop where
  expression : ∀ N, Bounded N r.expression (Expr.Brief N)
  disjunction : ∀ N, Bounded N r.disjunction (Expr.Brief N)
  inversion : ∀ N, Bounded N r.inversion (Expr.Brief N)
  bitOr : ∀ N, Bounded N r.bitOr (Expr.Brief N)
  factor : ∀ N, Bounded N r.factor (Expr.Brief N)

section Grammar

variable {N : Nat} {r : Rules}

@[spec]
theorem bounded_expression (hr : r.Briefs) : Bounded N r.expression (Expr.Brief N) := hr.expression N

@[spec]
theorem bounded_disjunction (hr : r.Briefs) : Bounded N r.disjunction (Expr.Brief N) := hr.disjunction N

@[spec]
theorem bounded_inversion (hr : r.Briefs) : Bounded N r.inversion (Expr.Brief N) := hr.inversion N

@[spec]
theorem bounded_bitOr (hr : r.Briefs) : Bounded N r.bitOr (Expr.Brief N) := hr.bitOr N

@[spec]
theorem bounded_factor (hr : r.Briefs) : Bounded N r.factor (Expr.Brief N) := hr.factor N

theorem brief_tupleUnlessSingle {list : List Expr × Bool} (h : ∀ e ∈ list.1, e.Brief N) : (tupleUnlessSingle list).Brief N := by
  unfold tupleUnlessSingle
  split
  · exact h _ List.mem_cons_self
  · exact Expr.brief_tuple.mpr h

theorem bounded_after {α : Type} {p : Parse α} {Q : α → Prop} (id : String) (h : Bounded N p Q) : Bounded N (after id p) Q := by
  unfold Bounded after
  mvcgen [h]
  all_goals grind

theorem bounded_not {p : Parse Bool} (h : Bounded N p fun _ => True) : Bounded N (do return !(← p)) fun _ => True := by
  unfold Bounded
  mvcgen [h]

@[spec]
theorem bounded_starExpression (hr : r.Briefs) : Bounded N r.starExpression (Expr.Brief N) := by
  unfold Bounded Rules.starExpression
  mvcgen
  all_goals grind [Expr.Brief, Expr.quoted]

@[spec]
theorem bounded_starExpressions (hr : r.Briefs) : Bounded N r.starExpressions (Expr.Brief N) := by
  have hlist := fun M => bounded_commaList (bounded_starExpression hr (N := M)) (bounded_sees startsStarExpression) r.fuel
  unfold Bounded Rules.starExpressions
  mvcgen [hlist]
  all_goals grind [brief_tupleUnlessSingle]

@[spec]
theorem bounded_namedExpression (hr : r.Briefs) : Bounded N r.namedExpression (Expr.Brief N) := by
  unfold Bounded Rules.namedExpression
  mvcgen
  all_goals grind [Expr.Brief, Expr.quoted]

@[spec]
theorem bounded_starNamedExpression (hr : r.Briefs) : Bounded N r.starNamedExpression (Expr.Brief N) := by
  unfold Bounded Rules.starNamedExpression
  mvcgen
  all_goals grind [Expr.Brief, Expr.quoted]

@[spec]
theorem bounded_yieldExpression (hr : r.Briefs) : Bounded N r.yieldExpression (Expr.Brief N) := by
  unfold Bounded Rules.yieldExpression
  mvcgen
  all_goals grind [Expr.Brief, Expr.quoted]

theorem bounded_starTarget (hr : r.Briefs) : Bounded N r.starTarget fun _ => True := by
  unfold Bounded Rules.starTarget
  mvcgen
  all_goals grind

@[spec]
theorem bounded_loopTargets (hr : r.Briefs) : Bounded N r.loopTargets fun _ => True := by
  have hlist := fun M => bounded_commaList (bounded_starTarget hr (N := M)) (bounded_not (bounded_seesKeyword "in")) r.fuel
  unfold Bounded Rules.loopTargets
  mvcgen [hlist]
  all_goals grind

@[spec]
theorem bounded_seesComprehension : Bounded N Rules.seesComprehension fun _ => True := by
  unfold Bounded Rules.seesComprehension
  mvcgen

theorem bounded_comprehensionClause (hr : r.Briefs) : Bounded N r.comprehensionClause fun _ => True := by
  have hconditions := fun M => bounded_many (bounded_after "if" (bounded_disjunction hr (N := M))) r.fuel
  unfold Bounded Rules.comprehensionClause
  mvcgen [hconditions]
  all_goals grind

@[spec]
theorem bounded_comprehensionClauses (hr : r.Briefs) : Bounded N r.comprehensionClauses fun _ => True := by
  have hclause := fun M => bounded_comprehensionClause hr (N := M)
  have hmany := fun M => bounded_many (hclause M) r.fuel
  unfold Bounded Rules.comprehensionClauses
  mvcgen [hclause, hmany]
  all_goals grind

theorem bounded_moreItems : Bounded N (do return !(← seesClosing)) fun _ => True :=
  bounded_not (bounded_sees _)

@[spec]
theorem bounded_parenthesized (hr : r.Briefs) : Bounded N r.parenthesized (Expr.Brief N) := by
  have hlist := fun M => bounded_commaList (bounded_starNamedExpression hr (N := M)) bounded_moreItems r.fuel
  unfold Bounded Rules.parenthesized
  mvcgen [hlist]
  all_goals grind [Expr.Brief, Expr.quoted, Expr.brief_tuple]

@[spec]
theorem bounded_listDisplay (hr : r.Briefs) : Bounded N r.listDisplay (Expr.Brief N) := by
  have hlist := fun M => bounded_commaList (bounded_starNamedExpression hr (N := M)) bounded_moreItems r.fuel
  unfold Bounded Rules.listDisplay
  mvcgen [hlist]
  all_goals grind [Expr.Brief, Expr.quoted]

theorem bounded_dictItem (hr : r.Briefs) : Bounded N r.dictItem fun _ => True := by
  unfold Bounded Rules.dictItem
  mvcgen
  all_goals grind

@[spec]
theorem bounded_dictRest (hr : r.Briefs) (first : Expr × Expr) : Bounded N (r.dictRest first) (Expr.Brief N) := by
  have hlist := fun M => bounded_commaList (bounded_dictItem hr (N := M)) bounded_moreItems r.fuel
  unfold Bounded Rules.dictRest
  mvcgen [hlist]
  all_goals grind [Expr.Brief, Expr.quoted, Rules.dictOf]

@[spec]
theorem bounded_braced (hr : r.Briefs) : Bounded N r.braced (Expr.Brief N) := by
  have hitem := fun M => bounded_dictItem hr (N := M)
  have hlist := fun M => bounded_commaList (bounded_starNamedExpression hr (N := M)) bounded_moreItems r.fuel
  unfold Bounded Rules.braced
  mvcgen [hitem, hlist]
  all_goals grind [Expr.Brief, Expr.quoted]

end Grammar

section Quotations

variable {N : Nat} {r : Rules} {qs : List Quotation}

@[spec]
theorem gives_nextQuotation : Gives N Rules.nextQuotation fun q input => q.body.length + 2 + weight input.tokens ≤ N := by
  unfold Gives Rules.nextQuotation
  mvcgen
  all_goals grind [TokenKind.weight]

theorem gives_many_nextQuotation (fuel : Nat) : Gives N (many Rules.nextQuotation fuel) fun qs input =>
    (qs.map fun q => q.body.length + 2).sum + weight input.tokens ≤ N := by
  induction fuel generalizing N with
  | zero =>
    unfold Gives many
    mvcgen
    all_goals grind
  | succ fuel ih =>
    have ih := fun M => ih (N := M)
    rw [many]
    refine Gives.orElse ?_ ?_
    · unfold Gives
      mvcgen [ih]
      all_goals grind
    · unfold Gives
      mvcgen
      all_goals grind

theorem length_flatten_literals {parts : List Text} (h : qs.mapM (fun q => literalText q.raw q.body) = some parts) :
    parts.flatten.length + 2 * qs.length ≤ (qs.map fun q => q.body.length + 2).sum := by
  induction qs generalizing parts with
  | nil =>
    cases h
    simp
  | cons q qs ih =>
    rw [List.mapM_cons] at h
    obtain ⟨part, hpart, h⟩ := Option.bind_eq_some_iff.mp h
    obtain ⟨rest, hrest, h⟩ := Option.bind_eq_some_iff.mp h
    cases h
    have hlength := length_literalText hpart
    have := ih hrest
    simp only [List.flatten_cons, List.length_append, List.length_cons, List.map_cons, List.sum_cons]
    omega

theorem brief_joinQuotations {e : Expr} (h : Rules.joinQuotations r qs = some e) (hne : qs ≠ []) :
    e.Brief (qs.map fun q => q.body.length + 2).sum := by
  unfold Rules.joinQuotations at h
  split at h
  · obtain ⟨parts, -, h⟩ := Option.bind_eq_some_iff.mp h
    cases h
    exact Expr.brief_of_quoted rfl
  · split at h
    · cases h
    · split at h
      · obtain ⟨parts, -, h⟩ := Option.bind_eq_some_iff.mp h
        cases h
        exact Expr.brief_of_quoted rfl
      · obtain ⟨parts, hparts, h⟩ := Option.bind_eq_some_iff.mp h
        cases h
        intro text htext
        rw [List.mem_singleton.mp htext]
        have hlength := length_flatten_literals hparts
        have hpos := List.length_pos_of_ne_nil hne
        omega

@[spec]
theorem bounded_quotations : Bounded N r.quotations (Expr.Brief N) := by
  have hmany := fun M => gives_many_nextQuotation (N := M) r.fuel
  unfold Bounded Rules.quotations
  mvcgen [hmany]
  rename_i hinput first between hfirst rest last hrest
  cases hjoin : r.joinQuotations (first :: rest) with
  | none => trivial
  | some e =>
    have hbrief := brief_joinQuotations hjoin (List.cons_ne_nil _ _)
    rw [List.map_cons, List.sum_cons] at hbrief
    exact ⟨by omega, hbrief.mono (by omega)⟩

end Quotations

section Grammar

variable {N : Nat} {r : Rules}

theorem brief_number (n : Number) : (Expr.literal n.literal).Brief N := by
  cases n <;> exact Expr.brief_of_quoted rfl

@[spec]
theorem bounded_atom (hr : r.Briefs) : Bounded N r.atom (Expr.Brief N) := by
  unfold Bounded Rules.atom
  mvcgen
  all_goals grind [Expr.Brief, Expr.quoted, brief_number]

theorem bounded_sliceItem (hr : r.Briefs) : Bounded N r.sliceItem (Expr.Brief N) := by
  unfold Bounded Rules.sliceItem
  mvcgen
  all_goals grind [Expr.Brief, Expr.quoted]

@[spec]
theorem bounded_subscriptIndex (hr : r.Briefs) : Bounded N r.subscriptIndex (Expr.Brief N) := by
  have hlist := fun M => bounded_commaList (bounded_sliceItem hr (N := M)) bounded_moreItems r.fuel
  unfold Bounded Rules.subscriptIndex
  mvcgen [hlist]
  all_goals grind [Expr.brief_tuple, List.mem_singleton_self]

@[spec]
theorem bounded_argument (hr : r.Briefs) : Bounded N r.argument fun _ => True := by
  unfold Bounded Rules.argument
  mvcgen
  all_goals grind

@[spec]
theorem bounded_argumentsFrom (hr : r.Briefs) (first : Rules.Argument) : Bounded N (r.argumentsFrom first) fun _ => True := by
  have hlist := fun M => bounded_commaList (bounded_argument hr (N := M)) bounded_moreItems r.fuel
  unfold Bounded Rules.argumentsFrom
  mvcgen [hlist]
  all_goals grind

@[spec]
theorem bounded_callArguments (hr : r.Briefs) : Bounded N r.callArguments fun _ => True := by
  unfold Bounded Rules.callArguments
  mvcgen
  all_goals grind

theorem bounded_trailer (hr : r.Briefs) : Bounded N r.trailer fun trailer => ∀ e, (trailer e).Brief N := by
  unfold Bounded Rules.trailer
  mvcgen
  all_goals grind [Expr.Brief, Expr.quoted]

theorem brief_foldl_trailers {trailers : List (Expr → Expr)} {e : Expr} (h : ∀ trailer ∈ trailers, ∀ e, (trailer e).Brief N)
    (he : e.Brief N) : (trailers.foldl (fun e trailer => trailer e) e).Brief N := by
  induction trailers generalizing e with
  | nil => exact he
  | cons trailer trailers ih =>
    obtain ⟨htrailer, h⟩ := List.forall_mem_cons.mp h
    exact ih h (htrailer e)

@[spec]
theorem bounded_primary (hr : r.Briefs) : Bounded N r.primary (Expr.Brief N) := by
  have hmany := fun M => bounded_many (bounded_trailer hr (N := M)) r.fuel
  unfold Bounded Rules.primary
  mvcgen [hmany]
  rename_i hinput e between he trailers last htrailers
  refine ⟨by omega, brief_foldl_trailers (fun trailer ht e => ?_) (he.2.mono hinput)⟩
  exact (htrailers.2 trailer ht e).mono (by omega)

@[spec]
theorem bounded_awaited (hr : r.Briefs) : Bounded N r.awaited (Expr.Brief N) := by
  unfold Bounded Rules.awaited
  mvcgen
  all_goals grind [Expr.Brief, Expr.quoted]

@[spec]
theorem bounded_power (hr : r.Briefs) : Bounded N r.power (Expr.Brief N) := by
  unfold Bounded Rules.power
  mvcgen
  all_goals grind [Expr.brief_binary]

@[spec]
theorem bounded_factorRule (hr : r.Briefs) : Bounded N r.factorRule (Expr.Brief N) := by
  unfold Bounded Rules.factorRule
  mvcgen
  all_goals grind [Expr.Brief, Expr.quoted]

@[spec]
theorem bounded_binaryOperator (symbols : List String) : Bounded N (Rules.binaryOperator symbols) fun _ => True := by
  unfold Bounded Rules.binaryOperator
  mvcgen
  · rename_i symbol _ _ input _
    cases Rules.binarySymbols.lookup symbol with
    | none => trivial
    | some op => exact (by omega : weight input.tokens ≤ N)
  all_goals grind

theorem bounded_operation (symbols : List String) {operand : Parse Expr} (h : ∀ M, Bounded M operand (Expr.Brief M)) :
    Bounded N (Rules.operation symbols operand) fun operation => operation.2.Brief N := by
  unfold Bounded Rules.operation
  mvcgen [h]
  all_goals grind

theorem brief_foldl_operations {operations : List (BinaryOp × Expr)} {first : Expr}
    (h : ∀ operation ∈ operations, operation.2.Brief N) (hfirst : first.Brief N) :
    (operations.foldl (fun e (op, right) => .binary op e right) first).Brief N := by
  induction operations generalizing first with
  | nil => exact hfirst
  | cons operation operations ih =>
    obtain ⟨hoperation, h⟩ := List.forall_mem_cons.mp h
    exact ih h (Expr.brief_binary _ hfirst hoperation)

theorem bounded_leftAssoc (symbols : List String) {operand : Parse Expr} (h : ∀ M, Bounded M operand (Expr.Brief M)) :
    Bounded N (r.leftAssoc symbols operand) (Expr.Brief N) := by
  have hmany := fun M => bounded_many (bounded_operation symbols h (N := M)) r.fuel
  unfold Bounded Rules.leftAssoc
  mvcgen [h, hmany]
  rename_i hinput first between hfirst operations last hoperations
  refine ⟨by omega, brief_foldl_operations (fun operation ho => ?_) (hfirst.2.mono hinput)⟩
  exact (hoperations.2 operation ho).mono (by omega)

@[spec]
theorem bounded_bitOrRule (hr : r.Briefs) : Bounded N r.bitOrRule (Expr.Brief N) :=
  bounded_leftAssoc _ fun _ => bounded_leftAssoc _ fun _ => bounded_leftAssoc _ fun _ => bounded_leftAssoc _ fun _ =>
    bounded_leftAssoc _ fun _ => bounded_leftAssoc _ fun _ => bounded_factorRule hr

@[spec]
theorem bounded_comparisonOperator : Bounded N Rules.comparisonOperator fun _ => True := by
  unfold Bounded Rules.comparisonOperator
  mvcgen
  all_goals grind

theorem bounded_compared (hr : r.Briefs) : Bounded N r.compared fun _ => True := by
  unfold Bounded Rules.compared
  mvcgen
  all_goals grind

@[spec]
theorem bounded_comparison (hr : r.Briefs) : Bounded N r.comparison (Expr.Brief N) := by
  have hmany := fun M => bounded_many (bounded_compared hr (N := M)) r.fuel
  unfold Bounded Rules.comparison
  mvcgen [hmany]
  all_goals grind [Expr.Brief, Expr.quoted]

theorem bounded_inversionRule (hr : r.Briefs) : Bounded N r.inversionRule (Expr.Brief N) := by
  unfold Bounded Rules.inversionRule
  mvcgen
  all_goals grind [Expr.Brief, Expr.quoted]

theorem bounded_junctionOf (junctor : Junctor) (id : String) {operand : Parse Expr}
    (h : ∀ M, Bounded M operand (Expr.Brief M)) : Bounded N (r.junctionOf junctor id operand) (Expr.Brief N) := by
  have hmany := fun M => bounded_many (bounded_after id (h M)) r.fuel
  unfold Bounded Rules.junctionOf
  mvcgen [h, hmany]
  all_goals grind [Expr.Brief, Expr.quoted]

@[spec]
theorem bounded_disjunctionRule (hr : r.Briefs) : Bounded N r.disjunctionRule (Expr.Brief N) :=
  bounded_junctionOf _ _ fun _ => bounded_junctionOf _ _ fun _ => bounded_inversionRule hr

@[spec]
theorem bounded_param (hr : r.Briefs) (hinted starred : Bool) : Bounded N (r.param hinted starred) fun _ => True := by
  unfold Bounded Rules.param
  mvcgen
  all_goals grind

@[spec]
theorem bounded_paramDefault (hr : r.Briefs) : Bounded N r.paramDefault fun _ => True := by
  unfold Bounded Rules.paramDefault
  mvcgen
  all_goals grind

@[spec]
theorem bounded_paramEntry (hr : r.Briefs) (hinted : Bool) (s : Rules.ParamState) :
    Bounded N (r.paramEntry hinted s) fun _ => True := by
  unfold Bounded Rules.paramEntry
  mvcgen
  all_goals grind

theorem bounded_paramList (hr : r.Briefs) (hinted : Bool) (closing : String) (fuel : Nat) (s : Rules.ParamState) :
    Bounded N (r.paramList hinted closing fuel s) fun _ => True := by
  induction fuel generalizing N s with
  | zero => exact gives_iff.mpr fun _ _ _ _ h => nomatch h
  | succ fuel ih =>
    have ih := fun M => ih (N := M)
    unfold Bounded Rules.paramList
    mvcgen [ih]
    all_goals grind

@[spec]
theorem bounded_lambda (hr : r.Briefs) : Bounded N r.lambda (Expr.Brief N) := by
  have hlist := fun M => bounded_paramList hr false ":" r.fuel {} (N := M)
  unfold Bounded Rules.lambda
  mvcgen [hlist]
  all_goals grind [Expr.Brief, Expr.quoted]

@[spec]
theorem bounded_conditional (hr : r.Briefs) (e : Expr) :
    Bounded N (r.conditional e <|> pure e) fun result => result = e ∨ result.Brief N := by
  refine Gives.orElse ?_ ?_
  · unfold Gives Rules.conditional
    mvcgen
    all_goals grind [Expr.Brief, Expr.quoted]
  · unfold Gives
    mvcgen
    all_goals grind

theorem bounded_expressionRule (hr : r.Briefs) : Bounded N r.expressionRule (Expr.Brief N) := by
  unfold Bounded Rules.expressionRule
  mvcgen
  all_goals grind

theorem briefs_rules (level : Nat) : (rules level).Briefs := by
  induction level with
  | zero =>
    have hnone : ∀ N, Bounded N (failure : Parse Expr) (Expr.Brief N) := fun N => gives_iff.mpr fun _ _ _ _ h => nomatch h
    exact ⟨hnone, hnone, hnone, hnone, hnone⟩
  | succ level ih =>
    exact ⟨fun _ => bounded_expressionRule ih, fun _ => bounded_disjunctionRule ih, fun _ => bounded_inversionRule ih,
      fun _ => bounded_bitOrRule ih, fun _ => bounded_factorRule ih⟩

theorem bounded_soleExpression (hr : r.Briefs) : Bounded N (soleExpression r) (Expr.Brief N) := by
  have hlist := fun M => bounded_commaList (bounded_expression hr (N := M)) (bounded_sees startsExpression) r.fuel
  have hlines := fun M => bounded_many (bounded_lineEnd (N := M)) r.fuel
  unfold Bounded soleExpression
  mvcgen [hlist, hlines]
  all_goals grind [brief_tupleUnlessSingle]

end Grammar

theorem chars?_eq_some {text : Text} {cs : List Char} : text.chars? = some cs ↔ text = .ofChars cs := by
  induction text generalizing cs with
  | nil => cases cs <;> simp [Text.chars?, Text.ofChars]
  | cons point text ih =>
    have hcons : Text.chars? (point :: text) =
        point.char?.bind fun c => (Text.chars? text).bind fun cs => some (c :: cs) := List.mapM_cons
    rw [hcons, Option.bind_eq_some_iff]
    constructor
    · rintro ⟨c, hc, h⟩
      obtain ⟨rest, hrest, h⟩ := Option.bind_eq_some_iff.mp h
      cases h
      cases point with
      | char d =>
        cases hc
        rw [ih.mp hrest]
        rfl
      | surrogate index => cases hc
    · intro h
      cases cs with
      | nil => cases h
      | cons c rest =>
        obtain ⟨rfl, htext⟩ := List.cons.inj h
        exact ⟨c, rfl, Option.bind_eq_some_iff.mpr ⟨rest, ih.mpr htext, rfl⟩⟩

theorem brief_readExpression {text : Text} {hint : Expr} (h : readExpression text = .ok hint) :
    hint.Brief text.length := by
  unfold readExpression at h
  split at h
  · next cs hcs =>
    unfold readBy at h
    split at h
    · cases h
    · dsimp only at h
      split at h
      · next e rest hrun =>
        cases h
        obtain ⟨list, hlist, hrun⟩ := Option.bind_eq_some_iff.mp hrun
        have hweight : weight list ≤ text.length := by
          have htokens := weight_tokens hlist
          have hlines := length_unifyLineEnds cs
          rw [chars?_eq_some.mp hcs, Text.ofChars, List.length_map]
          omega
        exact (gives_iff.mp (bounded_soleExpression (briefs_rules _)) _ _ _ hweight hrun).2
      · cases h
  · cases h

end Source

end NullContract
