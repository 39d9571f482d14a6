import NullContract.Proofs.QuotedTexts
import NullContract.Proofs.SyntaxInduction

namespace NullContract

def Expr.unionMembers : Expr → List Expr
  | .tuple members => members
  | index => [index]

section

variable {quoted quoted' : Text → Except SourceError Bool} {head index : Expr} {text : Text} {e : SourceError}
  {members : List Expr}

theorem admitsNoneBy_union (hhead : head.simpleName? = some "Union") :
    (Expr.subscript head index).admitsNoneBy quoted = anyAdmitsNoneBy quoted index.unionMembers := by
  have hone : anyAdmitsNoneBy quoted [index] = index.admitsNoneBy quoted := by
    simp only [anyAdmitsNoneBy]
    cases index.admitsNoneBy quoted with
    | error e => rfl
    | ok admits => cases admits <;> rfl
  cases index with
  | tuple members => simp [Expr.admitsNoneBy, Expr.unionMembers, hhead]
  | _ =>
    refine Eq.trans ?_ hone.symm
    simp [Expr.admitsNoneBy, hhead]

theorem admitsNoneBy_subscript (hhead : head.simpleName? ≠ some "Union") :
    (Expr.subscript head index).admitsNoneBy quoted = .ok (decide (head.simpleName? = some "Optional")) := by
  by_cases hoptional : head.simpleName? = some "Optional" <;> cases index <;>
    simp [Expr.admitsNoneBy, hhead, hoptional]

theorem mem_quoted_subscript :
    text ∈ (Expr.subscript head index).quoted ↔ ∃ member ∈ index.unionMembers, text ∈ member.quoted := by
  cases index <;> simp [Expr.quoted, Expr.unionMembers, mem_quotedOfList]

theorem Expr.hintInd {motive : Expr → Prop} (text : ∀ text, motive (.literal (.text text)))
    (either : ∀ left right, motive left → motive right → motive (.binary .bitOr left right))
    (union : ∀ head index, head.simpleName? = some "Union" → (∀ member ∈ index.unionMembers, motive member) →
      motive (.subscript head index))
    (other : ∀ e admits, (∀ quoted, e.admitsNoneBy quoted = .ok admits) → motive e) (e : Expr) : motive e := by
  -- The members of a union may be one level further down, in a tuple.
  suffices h : motive e ∧ ∀ member ∈ e.unionMembers, motive member from h.1
  have hself : ∀ e : Expr, motive e → e.unionMembers = [e] → motive e ∧ ∀ member ∈ e.unionMembers, motive member := by
    intro e he hmembers
    refine ⟨he, fun member hmember => ?_⟩
    rw [hmembers] at hmember
    rwa [List.mem_singleton.mp hmember]
  induction e with
  | literal value =>
    refine hself _ ?_ rfl
    cases value with
    | text value => exact text value
    | none => exact other _ true fun _ => rfl
    | _ => exact other _ false fun _ => rfl
  | binary op left right hleft hright =>
    refine hself _ ?_ rfl
    cases op with
    | bitOr => exact either left right hleft.1 hright.1
    | _ => exact other _ false fun _ => rfl
  | subscript head index _ hindex =>
    refine hself _ ?_ rfl
    by_cases hhead : head.simpleName? = some "Union"
    · exact union head index hhead hindex.2
    · exact other _ _ fun _ => admitsNoneBy_subscript hhead
  | tuple members ih => exact ⟨other _ false fun _ => rfl, fun member hmember => (ih member hmember).1⟩
  | _ => exact hself _ (other _ false fun _ => rfl) rfl

theorem anyAdmitsNoneBy_congr (h : ∀ member ∈ members, member.admitsNoneBy quoted = member.admitsNoneBy quoted') :
    anyAdmitsNoneBy quoted members = anyAdmitsNoneBy quoted' members := by
  induction members with
  | nil => rfl
  | cons member rest ih =>
    obtain ⟨hmember, hrest⟩ := List.forall_mem_cons.mp h
    rw [anyAdmitsNoneBy, anyAdmitsNoneBy, hmember, ih hrest]

theorem anyAdmitsNoneBy_append {before : List Expr} (h : ∀ other ∈ before, other.admitsNoneBy quoted = .ok false)
    (rest : List Expr) : anyAdmitsNoneBy quoted (before ++ rest) = anyAdmitsNoneBy quoted rest := by
  induction before with
  | nil => rfl
  | cons member before ih =>
    obtain ⟨hmember, h⟩ := List.forall_mem_cons.mp h
    rw [List.cons_append, anyAdmitsNoneBy, hmember, ← ih h]
    rfl

theorem anyAdmitsNoneBy_eq_error (h : anyAdmitsNoneBy quoted members = .error e) :
    ∃ before member after, members = before ++ member :: after ∧
      (∀ other ∈ before, other.admitsNoneBy quoted = .ok false) ∧ member.admitsNoneBy quoted = .error e := by
  induction members with
  | nil => cases h
  | cons member members ih =>
    rw [anyAdmitsNoneBy] at h
    cases hmember : member.admitsNoneBy quoted with
    | error e' =>
      rw [hmember] at h
      cases h
      exact ⟨[], member, members, rfl, by simp, hmember⟩
    | ok admits =>
      rw [hmember] at h
      cases admits with
      | true => cases h
      | false =>
        obtain ⟨before, other, after, rfl, hbefore, hother⟩ := ih h
        exact ⟨member :: before, other, after, rfl, List.forall_mem_cons.mpr ⟨hmember, hbefore⟩, hother⟩

theorem admitsNoneBy_congr {hint : Expr} (h : ∀ text ∈ hint.quoted, quoted text = quoted' text) :
    hint.admitsNoneBy quoted = hint.admitsNoneBy quoted' := by
  induction hint using Expr.hintInd with
  | text text => exact h text (List.mem_singleton_self text)
  | either left right hleft hright =>
    have hl := hleft fun text htext => h text (List.mem_append_left _ htext)
    have hr := hright fun text htext => h text (List.mem_append_right _ htext)
    rw [Expr.admitsNoneBy, Expr.admitsNoneBy, hl, hr]
  | union head index hhead ih =>
    rw [admitsNoneBy_union hhead, admitsNoneBy_union hhead]
    exact anyAdmitsNoneBy_congr fun member hmember =>
      ih member hmember fun text htext => h text (mem_quoted_subscript.mpr ⟨member, hmember, htext⟩)
  | other e admits he => rw [he, he]

end

def Reader.Shrinks (read : Reader) : Prop :=
  ∀ text hint, read text = .ok hint → hint.Brief text.length

theorem Source.readExpression_shrinks : Reader.Shrinks readExpression :=
  fun _ _ => brief_readExpression

section

variable {read : Reader}

theorem quotedAdmitsNone_eq (hread : read.Shrinks) {text : Text} {fuel fuel' : Nat} (h : text.length < fuel)
    (h' : text.length < fuel') : quotedAdmitsNone read fuel text = quotedAdmitsNone read fuel' text := by
  induction fuel generalizing text fuel' with
  | zero => exact absurd h (Nat.not_lt_zero _)
  | succ fuel ih =>
    obtain ⟨fuel', rfl⟩ : ∃ n, fuel' = n + 1 := ⟨fuel' - 1, by omega⟩
    rw [quotedAdmitsNone, quotedAdmitsNone]
    split
    · next hint hhint =>
      refine admitsNoneBy_congr fun inner hinner => ?_
      have hlt := hread text hint hhint inner hinner
      exact ih (by omega) (by omega)
    · rfl
    · rfl

theorem admitsNone_text (hread : read.Shrinks) (text : Text) :
    (Expr.literal (.text text)).admitsNone read =
      match read text with
      | .ok hint => hint.admitsNone read
      | .error .malformed => .ok false
      | .error e => .error e := by
  rw [Expr.admitsNone, Expr.admitsNoneBy, quotedAdmitsNone]
  cases htext : read text with
  | ok hint =>
    refine admitsNoneBy_congr fun inner hinner => ?_
    exact quotedAdmitsNone_eq hread (hread text hint htext inner hinner) (Nat.lt_succ_self _)
  | error e => cases e <;> rfl

/-- Reading the hint comes to the text: it stands in the hint or in a text that is read before, and what is read before it
does not settle that `None` is admitted. -/
inductive Expr.Consults (read : Reader) : Expr → Text → Prop where
  | here (text : Text) : Consults read (.literal (.text text)) text
  | within {text inner : Text} {hint : Expr} (hread : read text = .ok hint) (h : Consults read hint inner) :
      Consults read (.literal (.text text)) inner
  | left {left right : Expr} {text : Text} (h : Consults read left text) : Consults read (.binary .bitOr left right) text
  | right {left right : Expr} {text : Text} (hleft : left.admitsNone read = .ok false) (h : Consults read right text) :
      Consults read (.binary .bitOr left right) text
  | member {head index member : Expr} {before after : List Expr} {text : Text} (hhead : head.simpleName? = some "Union")
      (hindex : index.unionMembers = before ++ member :: after)
      (hbefore : ∀ other ∈ before, other.admitsNone read = .ok false) (h : Consults read member text) :
      Consults read (.subscript head index) text

theorem admitsNone_of_consults (hread : read.Shrinks) {hint : Expr} {text : Text} {e : SourceError}
    (h : hint.Consults read text) (htext : read text = .error e) (he : e ≠ .malformed) : hint.admitsNone read = .error e := by
  induction h with
  | here text =>
    rw [admitsNone_text hread, htext]
    cases e with
    | malformed => exact absurd rfl he
    | _ => rfl
  | within hinner _ ih =>
    rw [admitsNone_text hread, hinner]
    exact ih htext
  | left _ ih =>
    rw [Expr.admitsNone] at ih ⊢
    rw [Expr.admitsNoneBy, ih htext]
    rfl
  | right hleft _ ih =>
    rw [Expr.admitsNone] at hleft ih ⊢
    rw [Expr.admitsNoneBy, hleft]
    exact ih htext
  | member hhead hindex hbefore _ ih =>
    have hmember := ih htext
    rw [Expr.admitsNone] at hmember ⊢
    rw [admitsNoneBy_union hhead, hindex, anyAdmitsNoneBy_append hbefore, anyAdmitsNoneBy, hmember]
    rfl

theorem consults_of_admitsNone (hread : read.Shrinks) {N : Nat} {hint : Expr} {e : SourceError} (hbrief : hint.Brief N)
    (h : hint.admitsNone read = .error e) : ∃ text, hint.Consults read text ∧ read text = .error e ∧ e ≠ .malformed := by
  -- Outside on the length of the texts, inside on the hint itself.
  induction N using Nat.strong_induction_on generalizing hint with
  | h N ihN =>
    induction hint using Expr.hintInd with
    | text text =>
      rw [admitsNone_text hread] at h
      cases htext : read text with
      | ok hint =>
        rw [htext] at h
        have hlt : text.length < N := hbrief text (List.mem_singleton_self text)
        obtain ⟨inner, hinner, herror⟩ := ihN text.length hlt (hread text hint htext) h
        exact ⟨inner, .within htext hinner, herror⟩
      | error e' =>
        rw [htext] at h
        cases e' with
        | malformed => cases h
        | _ =>
          cases h
          exact ⟨text, .here text, htext, by decide⟩
    | either left right hleft hright =>
      have hl : left.Brief N := fun text htext => hbrief text (List.mem_append_left _ htext)
      have hr : right.Brief N := fun text htext => hbrief text (List.mem_append_right _ htext)
      rw [Expr.admitsNone, Expr.admitsNoneBy] at h
      cases hadmits : left.admitsNone read with
      | error e' =>
        rw [← Expr.admitsNone, hadmits] at h
        cases h
        obtain ⟨text, htext, herror⟩ := hleft hl hadmits
        exact ⟨text, .left htext, herror⟩
      | ok admits =>
        rw [← Expr.admitsNone, hadmits] at h
        cases admits with
        | true => cases h
        | false =>
          obtain ⟨text, htext, herror⟩ := hright hr h
          exact ⟨text, .right hadmits htext, herror⟩
    | union head index hhead ih =>
      rw [Expr.admitsNone, admitsNoneBy_union hhead] at h
      obtain ⟨before, member, after, hindex, hbefore, hmember⟩ := anyAdmitsNoneBy_eq_error h
      have hmem : member ∈ index.unionMembers := by simp [hindex]
      have hb : member.Brief N := fun text htext => hbrief text (mem_quoted_subscript.mpr ⟨member, hmem, htext⟩)
      obtain ⟨text, htext, herror⟩ := ih member hmem hb hmember
      exact ⟨text, .member hhead hindex hbefore htext, herror⟩
    | other hint admits hadmits =>
      rw [Expr.admitsNone, hadmits] at h
      cases h

theorem Expr.exists_brief (e : Expr) : ∃ N, e.Brief N := by
  refine ⟨(e.quoted.map List.length).sum + 1, fun text htext => ?_⟩
  have hle := List.single_le_sum (by simp) _ (List.mem_map_of_mem (f := List.length) htext)
  omega

theorem admitsNone_eq_error (hread : read.Shrinks) {hint : Expr} {e : SourceError} :
    hint.admitsNone read = .error e ↔ ∃ text, hint.Consults read text ∧ read text = .error e ∧ e ≠ .malformed := by
  constructor
  · obtain ⟨N, hN⟩ := hint.exists_brief
    exact consults_of_admitsNone hread hN
  · rintro ⟨text, hconsults, htext, he⟩
    exact admitsNone_of_consults hread hconsults htext he

end

end NullContract
