import Mathlib.Logic.Relation
import NullContract.Proofs.AssignmentOrder
import NullContract.Proofs.HintReading
import NullContract.Proofs.Verdicts

/-!
The reading of hints as a recursion without a bound. It goes from a hint to its parts, and from a string to the hint that is
read from it. With each string that it comes to the quoted texts get shorter, and between two strings the hints get smaller,
so it ends. What it answers does not depend on which parts of a hint are quoted.
-/

namespace NullContract

namespace Expr

/-- One level of reading a hint: `self` answers for its parts, or for the hint that a string holds. -/
def admitsNoneStep (read : Reader) (self : Expr → Except SourceError Bool) : Expr → Except SourceError Bool
  | .literal .none => .ok true
  | .literal (.text text) =>
    match read text with
    | .ok hint => self hint
    | .error .malformed => .ok false
    | .error e => .error e
  | .binary .bitOr left right => do
    if ← self left then return true
    self right
  | .subscript head index =>
    if head.simpleName? = some "Optional" then .ok true
    else if head.simpleName? = some "Union" then index.unionMembers.anyM self
    else .ok false
  | _ => .ok false

inductive Asks (read : Reader) : Expr → Expr → Prop where
  | text {text : Text} {hint : Expr} (h : read text = .ok hint) : Asks read hint (.literal (.text text))
  | left (left right : Expr) : Asks read left (.binary .bitOr left right)
  | right (left right : Expr) : Asks read right (.binary .bitOr left right)
  | member {head index member : Expr} (hhead : head.simpleName? = some "Union") (h : member ∈ index.unionMembers) :
      Asks read member (.subscript head index)

/-- In the second hint, a string from which a part of the first hint is read stands in place of that part: of all of the hint,
of a side of `|` or of a member of a union. -/
inductive Quotes (read : Reader) : Expr → Expr → Prop where
  | whole {text : Text} {hint : Expr} (h : read text = .ok hint) : Quotes read hint (.literal (.text text))
  | left {left left' : Expr} (right : Expr) (h : Quotes read left left') :
      Quotes read (.binary .bitOr left right) (.binary .bitOr left' right)
  | right (left : Expr) {right right' : Expr} (h : Quotes read right right') :
      Quotes read (.binary .bitOr left right) (.binary .bitOr left right')
  | member {head index index' member member' : Expr} {before after : List Expr}
      (hhead : head.simpleName? = some "Union") (hindex : index.unionMembers = before ++ member :: after)
      (hindex' : index'.unionMembers = before ++ member' :: after) (h : Quotes read member member') :
      Quotes read (.subscript head index) (.subscript head index')

section

variable {read : Reader} {self self' : Expr → Except SourceError Bool} {hint hint' : Expr}

theorem anyM_congr {members : List Expr} (h : ∀ member ∈ members, self member = self' member) :
    members.anyM self = members.anyM self' := by
  induction members with
  | nil => rfl
  | cons member rest ih =>
    obtain ⟨hmember, hrest⟩ := List.forall_mem_cons.mp h
    rw [List.anyM, List.anyM, hmember, ih hrest]

theorem anyM_replace {member member' : Expr} (h : self member' = self member) (before after : List Expr) :
    (before ++ member' :: after).anyM self = (before ++ member :: after).anyM self := by
  induction before with
  | nil => rw [List.nil_append, List.nil_append, List.anyM, List.anyM, h]
  | cons other before ih => rw [List.cons_append, List.cons_append, List.anyM, List.anyM, ih]

theorem anyAdmitsNoneBy_eq_anyM (quoted : Text → Except SourceError Bool) (members : List Expr) :
    anyAdmitsNoneBy quoted members = members.anyM (admitsNoneBy quoted) := by
  induction members with
  | nil => rfl
  | cons member rest ih =>
    rw [anyAdmitsNoneBy, List.anyM, ih]
    cases member.admitsNoneBy quoted with
    | error e => rfl
    | ok admits => cases admits <;> rfl

theorem admitsNoneStep_congr (h : ∀ part, Asks read part hint → self part = self' part) :
    admitsNoneStep read self hint = admitsNoneStep read self' hint := by
  cases hint with
  | literal value =>
    cases value with
    | text text =>
      cases hread : read text with
      | ok hint => simp only [admitsNoneStep, hread, h hint (.text hread)]
      | error e => cases e <;> simp only [admitsNoneStep, hread]
    | _ => rfl
  | binary op left right =>
    cases op with
    | bitOr => simp only [admitsNoneStep, h left (.left left right), h right (.right left right)]
    | _ => rfl
  | subscript head index =>
    by_cases hhead : head.simpleName? = some "Union"
    · simp only [admitsNoneStep, hhead, anyM_congr fun member hmember => h member (.member hhead hmember)]
    · simp only [admitsNoneStep, hhead]
      rfl
  | _ => rfl

theorem admitsNone_eq_step (hread : read.Shrinks) (hint : Expr) :
    hint.admitsNone read = admitsNoneStep read (fun part => part.admitsNone read) hint := by
  cases hint with
  | literal value =>
    cases value with
    | text text => exact admitsNone_text hread text
    | _ => rfl
  | binary op left right => cases op <;> rfl
  | subscript head index =>
    by_cases hhead : head.simpleName? = some "Union"
    · rw [admitsNone, admitsNoneBy_union hhead, anyAdmitsNoneBy_eq_anyM]
      simp [admitsNoneStep, hhead, admitsNone]
    · rw [admitsNone, admitsNoneBy_subscript hhead]
      by_cases hoptional : head.simpleName? = some "Optional" <;> simp [admitsNoneStep, hhead, hoptional]
  | _ => rfl

def quotedBound (e : Expr) : Nat :=
  (e.quoted.map fun text => text.length + 1).foldr max 0

theorem quotedBound_le {N : Nat} : hint.quotedBound ≤ N ↔ hint.Brief N := by
  unfold quotedBound Brief
  induction hint.quoted with
  | nil => simp
  | cons text texts ih => simp [ih]

theorem lex_of_part {part : Expr} (hquoted : part.quoted ⊆ hint.quoted) (hsize : sizeOf part < sizeOf hint) :
    Prod.Lex (· < ·) (· < ·) (part.quotedBound, sizeOf part) (hint.quotedBound, sizeOf hint) := by
  have hbrief : hint.Brief hint.quotedBound := quotedBound_le.mp (le_refl _)
  have hbound : part.quotedBound ≤ hint.quotedBound :=
    quotedBound_le.mpr fun text htext => hbrief text (hquoted htext)
  rcases hbound.lt_or_eq with hlt | heq
  · exact .left _ _ hlt
  · rw [heq]
    exact .right _ hsize

theorem sizeOf_unionMember {index member : Expr} (h : member ∈ index.unionMembers) : sizeOf member ≤ sizeOf index := by
  cases index with
  | tuple members => exact (sizeOf_lt_of_mem_children h).le
  | _ => rw [List.mem_singleton.mp h]

theorem Asks.lex (hread : read.Shrinks) {part : Expr} (h : Asks read part hint) :
    Prod.Lex (· < ·) (· < ·) (part.quotedBound, sizeOf part) (hint.quotedBound, sizeOf hint) := by
  cases h with
  | @text text _ h =>
    have hshorter : part.quotedBound ≤ text.length := quotedBound_le.mpr (hread text part h)
    have hbound : (Expr.literal (.text text)).quotedBound = text.length + 1 := by simp [quotedBound, quoted]
    exact .left _ _ (by omega)
  | left _ right => exact lex_of_part (List.subset_append_left _ _) (sizeOf_lt_of_mem_children (by simp [children]))
  | right left _ => exact lex_of_part (List.subset_append_right _ _) (sizeOf_lt_of_mem_children (by simp [children]))
  | @member head index _ hhead h =>
    have hindex : sizeOf index < sizeOf (Expr.subscript head index) := sizeOf_lt_of_mem_children (by simp [children])
    apply lex_of_part
    · exact fun text htext => mem_quoted_subscript.mpr ⟨part, h, htext⟩
    · exact (sizeOf_unionMember h).trans_lt hindex

theorem wellFounded_asks (hread : read.Shrinks) : WellFounded (Asks read) := by
  refine Subrelation.wf (fun h => ?_) (InvImage.wf (fun e : Expr => (e.quotedBound, sizeOf e))
    (WellFounded.prod_lex Nat.lt_wfRel.wf Nat.lt_wfRel.wf))
  exact h.lex hread

theorem eq_admitsNone_of_step (hread : read.Shrinks) (hself : ∀ hint, self hint = admitsNoneStep read self hint) (hint : Expr) :
    self hint = hint.admitsNone read := by
  induction hint using (wellFounded_asks hread).induction with
  | h hint ih => rw [hself, admitsNone_eq_step hread, admitsNoneStep_congr ih]

theorem Quotes.admitsNone_eq (hread : read.Shrinks) (h : Quotes read hint hint') :
    hint'.admitsNone read = hint.admitsNone read := by
  induction h with
  | whole h => rw [admitsNone_text hread, h]
  | left right _ ih => rw [admitsNone_eq_step hread, admitsNone_eq_step hread, admitsNoneStep, admitsNoneStep, ih]
  | right left _ ih => rw [admitsNone_eq_step hread, admitsNone_eq_step hread, admitsNoneStep, admitsNoneStep, ih]
  | member hhead hindex hindex' _ ih =>
    rw [admitsNone_eq_step hread, admitsNone_eq_step hread, admitsNoneStep, admitsNoneStep, hindex, hindex',
      anyM_replace ih]

theorem admitsNone_eq_of_quotes (hread : read.Shrinks) (h : Relation.ReflTransGen (Quotes read) hint hint') :
    hint'.admitsNone read = hint.admitsNone read := by
  induction h with
  | refl => rfl
  | tail _ h ih => exact (h.admitsNone_eq hread).trans ih

end

theorem hint_reading_ends_and_ignores_quoting {read : Reader} (hread : read.Shrinks) :
    WellFounded (Asks read) ∧
    (∀ (self self' : Expr → Except SourceError Bool) (hint : Expr), (∀ part, Asks read part hint → self part = self' part) →
      admitsNoneStep read self hint = admitsNoneStep read self' hint) ∧
    (∀ self : Expr → Except SourceError Bool,
      (∀ hint, self hint = admitsNoneStep read self hint) ↔ ∀ hint, self hint = hint.admitsNone read) ∧
    ∀ hint hint', Relation.ReflTransGen (Quotes read) hint hint' → hint'.admitsNone read = hint.admitsNone read := by
  refine ⟨wellFounded_asks hread, fun _ _ _ => admitsNoneStep_congr, fun self => ⟨eq_admitsNone_of_step hread, ?_⟩,
    fun _ _ => admitsNone_eq_of_quotes hread⟩
  intro hself hint
  rw [hself, admitsNone_eq_step hread]
  exact admitsNoneStep_congr fun part _ => (hself part).symm

def intUnion (member : Expr) : Expr :=
  .subscript (.name "Union") (.tuple [.name "int", member])

def isUnionWithQuotedNone : Expr → Bool
  | .subscript (.name head) (.tuple [.name first, .literal (.text text)]) =>
    head = "Union" && first = "int" && text = Text.ofString "None"
  | _ => false

theorem eq_of_isNone {e : Expr} (h : e.isNone = true) : e = .literal .none := by
  unfold isNone at h
  split at h
  · rfl
  · cases h

theorem eq_of_isUnionWithQuotedNone {e : Expr} (h : e.isUnionWithQuotedNone = true) :
    e = intUnion (.literal (.text "None")) := by
  unfold isUnionWithQuotedNone at h
  split at h
  · simp only [Bool.and_eq_true, decide_eq_true_eq] at h
    obtain ⟨⟨rfl, rfl⟩, rfl⟩ := h
    rfl
  · cases h

theorem hint_reading_ends_and_ignores_quoting_quotedTwice :
    (∀ hint : Expr, hint.admitsNone Source.readExpression =
      admitsNoneStep Source.readExpression (fun part => part.admitsNone Source.readExpression) hint) ∧
    Relation.ReflTransGen (Quotes Source.readExpression) (intUnion (.literal .none))
      (.literal (.text "Union[int, 'None']")) ∧
    (Expr.literal (.text "Union[int, 'None']")).admitsNone Source.readExpression =
      (intUnion (.literal .none)).admitsNone Source.readExpression := by
  have hnone : (Source.readExpression "None").map isNone = .ok true := by decide +kernel
  have hunion : (Source.readExpression "Union[int, 'None']").map isUnionWithQuotedNone = .ok true := by decide +kernel
  obtain ⟨e, hnone, he⟩ := map_eq_ok.mp hnone
  cases eq_of_isNone he
  obtain ⟨e, hunion, he⟩ := map_eq_ok.mp hunion
  cases eq_of_isUnionWithQuotedNone he
  have hmember : Quotes Source.readExpression (intUnion (.literal .none)) (intUnion (.literal (.text "None"))) :=
    @Quotes.member _ _ _ _ _ _ [.name "int"] [] rfl rfl rfl (.whole hnone)
  have hquotes := (Relation.ReflTransGen.single hmember).tail (.whole hunion)
  obtain ⟨-, -, hself, hquoting⟩ := hint_reading_ends_and_ignores_quoting Source.readExpression_shrinks
  exact ⟨(hself _).mpr fun _ => rfl, hquotes, hquoting _ _ hquotes⟩

end Expr

end NullContract
