import Mathlib.Data.List.DropRight
import NullContract.Proofs.Entry
import NullContract.Proofs.TextParts
import NullContract.Proofs.Verdicts

namespace NullContract

section

variable {α : Type} {p : α → Bool} {x : α}

theorem rdropWhile_append_replicate (hx : p x = true) (xs : List α) (count : Nat) :
    (xs ++ List.replicate count x).rdropWhile p = xs.rdropWhile p := by
  rw [List.rdropWhile, List.rdropWhile, List.reverse_append, List.reverse_replicate, List.dropWhile_append_of_pos]
  intro y hy
  rw [List.eq_of_mem_replicate hy]
  exact hx

theorem exists_rdropWhile_append (hp : ∀ y, p y = true → y = x) (xs : List α) :
    ∃ count, xs = xs.rdropWhile p ++ List.replicate count x := by
  have hdropped : xs.rtakeWhile p = List.replicate (xs.rtakeWhile p).length x := by
    refine List.eq_replicate_iff.mpr ⟨rfl, fun y hy => ?_⟩
    exact hp y (List.mem_rtakeWhile_imp hy)
  refine ⟨(xs.rtakeWhile p).length, ?_⟩
  rw [← hdropped, List.rdropWhile_append_rtakeWhile]

end

section

variable {α : Type} {sep : α} {parts : List (List α)}

theorem intercalate_cons (between part : List α) (rest : List (List α)) :
    between.intercalate (part :: rest) = part ++ rest.flatMap (between ++ ·) := by
  induction rest generalizing part with
  | nil => simp
  | cons next rest ih => rw [List.intercalate_cons_cons, ih, List.flatMap_cons, List.append_assoc, List.append_assoc]

theorem intercalate_append (between : List α) (hne : parts ≠ []) (more : List (List α)) :
    between.intercalate (parts ++ more) = between.intercalate parts ++ more.flatMap (between ++ ·) := by
  obtain ⟨part, rest, rfl⟩ := List.exists_cons_of_ne_nil hne
  rw [List.cons_append, intercalate_cons, intercalate_cons, List.flatMap_append, List.append_assoc]

theorem intercalate_append_replicate_nil (hne : parts ≠ []) (count : Nat) :
    [sep].intercalate (parts ++ List.replicate count []) = [sep].intercalate parts ++ List.replicate count sep := by
  have hseps : (List.replicate count ([] : List α)).flatMap ([sep] ++ ·) = List.replicate count sep := by
    simp [List.flatMap_replicate]
  rw [intercalate_append _ hne, hseps]

theorem exists_intercalate_eq {last : List α} (h : parts.getLast? = some last) (between : List α) :
    ∃ before, between.intercalate parts = before ++ last := by
  obtain ⟨init, rfl⟩ := List.getLast?_eq_some_iff.mp h
  by_cases hinit : init = []
  · exact ⟨[], by simp [hinit]⟩
  · refine ⟨between.intercalate init ++ between, ?_⟩
    rw [intercalate_append _ hinit, List.flatMap_singleton, List.append_assoc]

variable [DecidableEq α]

theorem pieces_intercalate_append (hsep : ∀ part ∈ parts, sep ∉ part) (hne : parts ≠ []) (count : Nat) :
    pieces sep ([sep].intercalate parts ++ List.replicate count sep) = parts ++ List.replicate count [] := by
  rw [← intercalate_append_replicate_nil hne]
  apply pieces_intercalate
  · intro part hpart
    rcases List.mem_append.mp hpart with hpart | hpart
    · exact hsep part hpart
    · rw [List.eq_of_mem_replicate hpart]
      exact List.not_mem_nil
  · simp [hne]

end

structure Separated (parts : List Text) : Prop where
  free : ∀ part ∈ parts, .char ';' ∉ part
  last : ∀ part, parts.getLast? = some part → part ≠ []

def unterminated (t : Text) : Text :=
  t.rdropWhile (· = .char ';')

section

variable {parts : List Text} {contract : Text}

theorem exists_pieces_eq (contract : Text) :
    ∃ count, pieces (.char ';') contract = clauses contract ++ List.replicate count [] :=
  exists_rdropWhile_append (fun _ => List.isEmpty_iff.mp) _

theorem separated_clauses (contract : Text) : Separated (clauses contract) := by
  obtain ⟨count, hparts⟩ := exists_pieces_eq contract
  constructor
  · intro part hpart
    have hpiece : part ∈ pieces (.char ';') contract := by
      rw [hparts]
      exact List.mem_append_left _ hpart
    exact not_mem_piece part hpiece
  · rintro part hlast rfl
    have hne : (pieces (.char ';') contract).rdropWhile List.isEmpty ≠ [] := by
      intro hnil
      rw [show clauses contract = [] from hnil] at hlast
      cases hlast
    -- An empty clause at the end would have been dropped.
    have hkept := List.rdropWhile_last_not List.isEmpty (pieces (.char ';') contract) hne
    have hempty := Option.some.inj ((List.getLast?_eq_some_getLast hne).symm.trans hlast)
    exact hkept (List.isEmpty_iff.mpr hempty)

theorem pieces_separators (count : Nat) :
    pieces (CodePoint.char ';') (List.replicate count (.char ';')) = List.replicate (count + 1) [] := by
  have hparts : ∀ part ∈ ([[]] : List Text), CodePoint.char ';' ∉ part := by simp
  exact pieces_intercalate_append hparts (List.cons_ne_nil _ _) count

theorem exists_joined (contract : Text) :
    ∃ count, contract = Text.intercalate ";" (clauses contract) ++ List.replicate count (.char ';') := by
  obtain ⟨count, hparts⟩ := exists_pieces_eq contract
  have hcontract := intercalate_pieces (.char ';') contract
  rw [hparts] at hcontract
  by_cases hne : clauses contract = []
  · rw [hne] at hparts hcontract ⊢
    cases count with
    | zero => exact absurd hparts (pieces_ne_nil _ _)
    | succ count =>
      refine ⟨count, hcontract.symm.trans ?_⟩
      rw [List.nil_append, ← pieces_separators]
      exact intercalate_pieces _ _
  · rw [intercalate_append_replicate_nil hne] at hcontract
    exact ⟨count, hcontract.symm⟩

theorem exists_pieces_joined (h : Separated parts) (count : Nat) :
    ∃ empty, pieces (.char ';') (Text.intercalate ";" parts ++ List.replicate count (.char ';')) =
      parts ++ List.replicate empty [] := by
  by_cases hne : parts = []
  · rw [hne]
    exact ⟨count + 1, pieces_separators count⟩
  · exact ⟨count, pieces_intercalate_append h.free hne count⟩

theorem clauses_joined (h : Separated parts) (count : Nat) :
    clauses (Text.intercalate ";" parts ++ List.replicate count (.char ';')) = parts := by
  obtain ⟨empty, hpieces⟩ := exists_pieces_joined h count
  have hkept : parts.rdropWhile List.isEmpty = parts := by
    refine List.rdropWhile_eq_self_iff.mpr fun hne hempty => ?_
    exact h.last _ (List.getLast?_eq_some_getLast hne) (List.isEmpty_iff.mp hempty)
  rw [clauses, hpieces]
  exact (rdropWhile_append_replicate rfl parts empty).trans hkept

theorem clauses_eq_iff :
    clauses contract = parts ↔
      Separated parts ∧ ∃ count, contract = Text.intercalate ";" parts ++ List.replicate count (.char ';') := by
  constructor
  · rintro rfl
    exact ⟨separated_clauses contract, exists_joined contract⟩
  · rintro ⟨hparts, count, rfl⟩
    exact clauses_joined hparts count

theorem clauses_eq_singleton {text : Text} :
    clauses contract = [text] ↔
      text ≠ [] ∧ .char ';' ∉ text ∧ ∃ count, contract = text ++ List.replicate count (.char ';') := by
  have hsingle : Separated [text] ↔ text ≠ [] ∧ .char ';' ∉ text := by
    constructor
    · intro h
      exact ⟨h.last text rfl, h.free text (by simp)⟩
    · rintro ⟨hne, hfree⟩
      exact ⟨by simpa using hfree, by simpa using hne⟩
  have hjoined : Text.intercalate ";" [text] = text := List.intercalate_singleton
  rw [clauses_eq_iff, hsingle, hjoined, and_assoc]

theorem unterminated_append (t : Text) (count : Nat) :
    unterminated (t ++ List.replicate count (.char ';')) = unterminated t :=
  rdropWhile_append_replicate (by simp) t count

theorem unterminated_joined (h : Separated parts) :
    unterminated (Text.intercalate ";" parts) = Text.intercalate ";" parts := by
  refine List.rdropWhile_eq_self_iff.mpr fun hne hsep => ?_
  cases hlast : parts.getLast? with
  | none =>
    rw [List.getLast?_eq_none_iff.mp hlast] at hne
    exact hne rfl
  | some last =>
    -- The joined text ends as its last clause does, and no clause holds a separator.
    obtain ⟨before, hbefore⟩ := exists_intercalate_eq hlast ";"
    have hend : last.getLast? = some (.char ';') := by
      rw [← of_decide_eq_true hsep, ← List.getLast?_eq_some_getLast hne, Text.intercalate, ← List.intercalate, hbefore,
        List.getLast?_append, List.getLast?_eq_some_getLast (h.last last hlast), Option.some_or]
    exact h.free last (List.mem_of_getLast? hlast) (List.mem_of_getLast? hend)

theorem joined_clauses (contract : Text) : Text.intercalate ";" (clauses contract) = unterminated contract := by
  obtain ⟨count, hcontract⟩ := exists_joined contract
  have hjoined := unterminated_joined (separated_clauses contract)
  rw [← unterminated_append _ count, ← hcontract] at hjoined
  exact hjoined.symm

theorem clauses_unterminated (contract : Text) : clauses (unterminated contract) = clauses contract := by
  have hclauses := clauses_joined (separated_clauses contract) 0
  rwa [List.replicate_zero, List.append_nil, joined_clauses] at hclauses

def SameUnterminated (s t : Text) : Prop :=
  ∃ text count count', s = text ++ List.replicate count (.char ';') ∧ t = text ++ List.replicate count' (.char ';')

theorem clauses_eq_clauses_iff {s t : Text} : clauses s = clauses t ↔ SameUnterminated s t := by
  constructor
  · intro h
    obtain ⟨count, hs⟩ := exists_joined s
    obtain ⟨count', ht⟩ := exists_joined t
    rw [← h] at ht
    exact ⟨_, count, count', hs, ht⟩
  · rintro ⟨text, count, count', rfl, rfl⟩
    rw [← clauses_unterminated, unterminated_append, ← clauses_unterminated (text ++ _), unterminated_append]

theorem exists_clauses_eq_singleton :
    (∃ text, clauses contract = [text]) ↔ unterminated contract ≠ [] ∧ .char ';' ∉ unterminated contract := by
  constructor
  · rintro ⟨text, htext⟩
    have hjoined := joined_clauses contract
    rw [htext] at hjoined
    obtain ⟨hne, hfree, -⟩ := clauses_eq_singleton.mp htext
    rw [← hjoined, show Text.intercalate ";" [text] = text from List.intercalate_singleton]
    exact ⟨hne, hfree⟩
  · rintro ⟨hne, hfree⟩
    refine ⟨unterminated contract, clauses_eq_singleton.mpr ⟨hne, hfree, ?_⟩⟩
    exact exists_rdropWhile_append (fun c hc => of_decide_eq_true hc) contract

end

section

variable {oracle : Oracle} {deep : Bool} {c : Candidate} {contract : Text}

theorem state_ne_invalidShape {text : Text} {checked : Checked} (hcontract : c.subject.contract = some contract)
    (htext : clauses contract = [text]) (h : check oracle deep c = .ok checked) : checked.state ≠ .invalidShape := by
  cases hread : readClause text.strip with
  | error e =>
    simp only [check, checkBy, hcontract, htext, checkClause, hread] at h
    cases h
    simp
  | ok clause =>
    have hclause := clause?_eq_some_iff.mpr ⟨contract, text, hcontract, htext, hread⟩
    rw [(check_of_clause hclause h).1]
    split
    · decide
    · split <;> decide

theorem exists_invalidShape_iff (oracle : Oracle) (deep : Bool) (hcontract : c.subject.contract = some contract) :
    (∃ checked, check oracle deep c = .ok checked ∧ checked.state = .invalidShape) ↔
      unterminated contract = [] ∨ .char ';' ∈ unterminated contract := by
  by_cases hsingle : ∃ text, clauses contract = [text]
  · obtain ⟨hne, hfree⟩ := exists_clauses_eq_singleton.mp hsingle
    obtain ⟨text, htext⟩ := hsingle
    simp only [hne, hfree, or_self, iff_false]
    rintro ⟨checked, hchecked, hstate⟩
    exact state_ne_invalidShape hcontract htext hchecked hstate
  · have hshape : unterminated contract = [] ∨ .char ';' ∈ unterminated contract := by
      rw [exists_clauses_eq_singleton] at hsingle
      tauto
    simp only [hshape, iff_true, check, checkBy, hcontract]
    split
    · next text htext => exact absurd ⟨text, htext⟩ hsingle
    · exact ⟨_, rfl, rfl⟩

end

theorem splitting_inverts_joining :
    (∀ contract : Text, Separated (clauses contract) ∧
      Text.intercalate ";" (clauses contract) = unterminated contract) ∧
    (∀ parts : List Text, Separated parts → clauses (Text.intercalate ";" parts) = parts) ∧
    (∀ s t : Text, clauses s = clauses t ↔ SameUnterminated s t) ∧
    ∀ (oracle : Oracle) (deep : Bool) (c : Candidate) (contract : Text), c.subject.contract = some contract →
      ((∃ checked, check oracle deep c = .ok checked ∧ checked.state = .invalidShape) ↔
        unterminated contract = [] ∨ .char ';' ∈ unterminated contract) := by
  refine ⟨fun contract => ⟨separated_clauses contract, joined_clauses contract⟩, fun parts hparts => ?_,
    fun s t => clauses_eq_clauses_iff, fun oracle deep c contract => exists_invalidShape_iff oracle deep⟩
  have hclauses := clauses_joined hparts 0
  rwa [List.replicate_zero, List.append_nil] at hclauses

theorem splitting_inverts_joining_emptyClauses :
    Separated ["", " ", "_ -> null"] ∧ clauses (Text.intercalate ";" ["", " ", "_ -> null"]) = ["", " ", "_ -> null"] ∧
    ∃ checked, check (flowOracle readLiteral) true (Function.under (.plain "f" [] []) ";_ -> null;;") = .ok checked ∧
      checked.state = .invalidShape := by
  obtain ⟨-, hjoined, -, hshape⟩ := splitting_inverts_joining
  have hparts : Separated ["", " ", "_ -> null"] := by
    constructor
    · decide
    · intro part hpart
      cases hpart
      decide
  refine ⟨hparts, hjoined _ hparts, ?_⟩
  exact (hshape _ _ (Function.under (.plain "f" [] []) ";_ -> null;;") _ rfl).mpr (.inr (by decide))

end NullContract
