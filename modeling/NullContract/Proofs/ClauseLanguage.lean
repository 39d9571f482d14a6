import Mathlib.Data.List.Forall2
import NullContract.Proofs.ClauseReading

namespace NullContract

/-- Constraints written out with commas between them and any blanks around each; blanks alone stand for none. -/
def Spells (constraints : List Constraint) (text : Text) : Prop :=
  (constraints = [] ∧ ∀ c ∈ text, c.isBlank = true) ∨
    ∃ parts : List Text, List.Forall₂ (fun constraint part => Padded constraint.text part) constraints parts ∧
      text = Text.intercalate "," parts

theorem word_chars (constraint : Constraint) :
    ∀ c ∈ (constraint.text : Text), c.isBlank = false ∧ c ≠ .char ',' ∧ c ≠ .char '-' := by
  cases constraint <;> decide

theorem word_ne_nil (constraint : Constraint) : (constraint.text : Text) ≠ [] := by
  cases constraint <;> decide

theorem strip_word (constraint : Constraint) : Text.strip constraint.text = constraint.text :=
  strip_of_no_blank fun c hc => (word_chars constraint c hc).1

theorem ofText?_eq_some {word : Text} {constraint : Constraint} :
    Constraint.ofText? word = some constraint ↔ word = constraint.text := by
  constructor
  · intro h
    simpa [eq_comm] using List.find?_some h
  · rintro rfl
    cases constraint <;> decide

theorem readToken_eq_some {token : Text} {constraint : Constraint} :
    readToken token = some constraint ↔ Padded constraint.text token := by
  rw [readToken, ofText?_eq_some]
  constructor
  · intro h
    have hpadded := padded_strip token
    rwa [h] at hpadded
  · intro h
    rw [h.strip, strip_word]

theorem readToken_word (constraint : Constraint) : readToken constraint.text = some constraint :=
  readToken_eq_some.mpr ⟨[], [], by simp, by simp, by simp⟩

theorem readToken_strip (token : Text) : readToken token.strip = readToken token := by
  rw [readToken, readToken, Text.strip_strip]

section

variable {constraints : List Constraint} {text : Text} {parts : List Text}

theorem forall_mem_padded {word : Text} {Q : CodePoint → Prop} (h : Padded word text)
    (hblank : ∀ c : CodePoint, c.isBlank = true → Q c) (hword : ∀ c ∈ word, Q c) : ∀ c ∈ text, Q c := by
  obtain ⟨before, after, hb, ha, rfl⟩ := h
  simp only [List.mem_append, or_imp, forall_and]
  exact ⟨⟨fun c hc => hblank c (hb c hc), hword⟩, fun c hc => hblank c (ha c hc)⟩

theorem forall_mem_parts (h : List.Forall₂ (fun constraint part => Padded constraint.text part) constraints parts)
    {Q : CodePoint → Prop} (hblank : ∀ c : CodePoint, c.isBlank = true → Q c)
    (hword : ∀ constraint : Constraint, ∀ c ∈ (constraint.text : Text), Q c) : ∀ part ∈ parts, ∀ c ∈ part, Q c := by
  induction h with
  | nil => simp
  | @cons constraint part _ _ hpart _ ih =>
    exact List.forall_mem_cons.mpr ⟨forall_mem_padded hpart hblank (hword constraint), ih⟩

theorem ne_of_blank {c d : CodePoint} (hd : d.isBlank = false) (hc : c.isBlank = true) : c ≠ d := by
  rintro rfl
  rw [hc] at hd
  cases hd

theorem Spells.arrow_free (h : Spells constraints text) : ¬ arrow <:+: text := by
  have hminus : ∀ c ∈ text, c ≠ .char '-' := by
    rcases h with ⟨-, hblank⟩ | ⟨parts, hparts, rfl⟩
    · exact fun c hc => ne_of_blank (by decide) (hblank c hc)
    · refine forall_mem_intercalate (by decide) (forall_mem_parts hparts ?_ ?_)
      · exact fun c => ne_of_blank (by decide)
      · exact fun constraint c hc => (word_chars constraint c hc).2.2
  intro harrow
  exact hminus (.char '-') (harrow.subset (by simp [arrow_eq])) rfl

theorem Padded.arrow_free {constraint : Constraint} (h : Padded constraint.text text) : ¬ arrow <:+: text := by
  have hspells : Spells [constraint] text := .inr ⟨[text], .cons h .nil, List.intercalate_singleton.symm⟩
  exact hspells.arrow_free

theorem map_strip_parts (h : List.Forall₂ (fun constraint part => Padded constraint.text part) constraints parts) :
    parts.map Text.strip = constraints.map fun constraint => (constraint.text : Text) := by
  induction h with
  | nil => rfl
  | cons hpart _ ih => rw [List.map_cons, List.map_cons, ih, hpart.strip, strip_word]

theorem antecedentTokens_of_spells (h : Spells constraints text) :
    antecedentTokens text = constraints.map fun constraint => (constraint.text : Text) := by
  rcases h with ⟨rfl, hblank⟩ | ⟨parts, hparts, rfl⟩
  · exact if_pos (stripBy_eq_nil.mpr hblank)
  · cases parts with
    | nil =>
      cases hparts
      rfl
    | cons part parts =>
      obtain ⟨constraint, rest, hpart, -, rfl⟩ := List.forall₂_cons_right_iff.mp hparts
      have hcomma : ∀ p ∈ part :: parts, CodePoint.char ',' ∉ p := by
        intro p hp hc
        refine forall_mem_parts (Q := (· ≠ .char ',')) hparts ?_ ?_ p hp _ hc rfl
        · exact fun c => ne_of_blank (by decide)
        · exact fun constraint c hc => (word_chars constraint c hc).2.1
      have hpieces : pieces (.char ',') (Text.intercalate "," (part :: parts)) = part :: parts :=
        pieces_intercalate hcomma (List.cons_ne_nil _ _)
      -- The first word is not blank, so the text is not either.
      have hstrip : (Text.intercalate "," (part :: parts)).strip ≠ [] := by
        intro hnil
        have hblank := stripBy_eq_nil.mp hnil
        have hsub : part ⊆ Text.intercalate "," (part :: parts) :=
          (infix_intercalate (List.mem_cons_self ..)).subset
        have hpartnil : part.strip = [] := stripBy_eq_nil.mpr fun c hc => hblank c (hsub hc)
        rw [hpart.strip, strip_word] at hpartnil
        exact word_ne_nil constraint hpartnil
      rw [antecedentTokens, if_neg hstrip, hpieces]
      exact map_strip_parts hparts

theorem filterMap_readToken_words (constraints : List Constraint) :
    (constraints.map fun constraint => (constraint.text : Text)).filterMap readToken = constraints := by
  have hread : readToken ∘ (fun constraint : Constraint => (constraint.text : Text)) = some := funext readToken_word
  rw [List.filterMap_map, hread, List.filterMap_some]

theorem forall₂_padded_pieces (h : ∀ part ∈ parts, (readToken part).isNone = false) :
    List.Forall₂ (fun constraint part => Padded constraint.text part) (parts.filterMap readToken) parts := by
  induction parts with
  | nil => exact .nil
  | cons part parts ih =>
    rw [List.forall_mem_cons] at h
    cases hread : readToken part with
    | none =>
      rw [hread] at h
      cases h.1
    | some constraint =>
      rw [List.filterMap_cons_some hread]
      exact .cons (readToken_eq_some.mp hread) (ih h.2)

theorem spells_of_antecedentTokens (h : ∀ token ∈ antecedentTokens text, (readToken token).isNone = false) :
    Spells ((antecedentTokens text).filterMap readToken) text := by
  unfold antecedentTokens at h ⊢
  split at h
  · next hblank => exact .inl ⟨by rw [if_pos hblank]; rfl, stripBy_eq_nil.mp hblank⟩
  · next hblank =>
    refine .inr ⟨pieces (.char ',') text, ?_, (intercalate_pieces _ _).symm⟩
    have hread : readToken ∘ Text.strip = readToken := funext readToken_strip
    rw [if_neg hblank, List.filterMap_map, hread]
    refine forall₂_padded_pieces fun part hpart => ?_
    rw [← readToken_strip]
    exact h _ (List.mem_map_of_mem hpart)

end

structure IsClause (antecedent : List Constraint) (consequent : Option Constraint) (text : Text) : Prop where
  oneArrow : arrowCount text = 1
  sides : ∃ before after : Text, text = before ++ arrow ++ after ∧ Spells antecedent before ∧
    ∀ constraint, consequent = some constraint ↔ Padded constraint.text after

structure Clause.States (clause : Clause) (antecedent : List Constraint) (consequent : Option Constraint) : Prop where
  unknownTokens : clause.unknownTokens = []
  tokens : clause.binding.tokens = antecedent.map fun constraint => (constraint.text : Text)
  antecedent : clause.antecedent = antecedent
  consequent : clause.consequent = consequent

section

variable {text : Text} {antecedent : List Constraint} {consequent : Option Constraint}

theorem isClause_of_readClause {clause : Clause} (h : readClause text = .ok clause)
    (hvalid : clause.unknownTokens = []) : IsClause clause.antecedent clause.consequent text := by
  obtain ⟨binding, hbind, rfl⟩ := readClause_eq_ok_iff.mp h
  have hone := bindClause_ok_iff_arrowCount.mp ⟨binding, hbind⟩
  obtain ⟨before, after, rfl, -, -, rfl⟩ := bindClause_eq_ok.mp hbind
  refine ⟨hone, before, after, rfl, ?_, ?_⟩
  · apply spells_of_antecedentTokens
    intro token htoken
    simpa only [Bool.not_eq_true] using List.filter_eq_nil_iff.mp hvalid token htoken
  · intro constraint
    rw [readToken_strip, readToken_eq_some]

theorem readClause_of_isClause (h : IsClause antecedent consequent text) :
    ∃ clause, readClause text = .ok clause ∧ clause.States antecedent consequent := by
  obtain ⟨hone, before, after, rfl, hspells, hconsequent⟩ := h
  rw [arrowCount_divided] at hone
  have hbefore : ¬ arrow <:+: before := arrowCount_eq_zero.mp (by omega)
  have hafter : ¬ arrow <:+: after := arrowCount_eq_zero.mp (by omega)
  have hbind := bindClause_eq_ok.mpr ⟨before, after, rfl, hbefore, hafter, rfl⟩
  have htokens := antecedentTokens_of_spells hspells
  refine ⟨_, readClause_eq_ok_iff.mpr ⟨_, hbind, rfl⟩, ?_, htokens, ?_, ?_⟩
  · rw [htokens, List.filter_eq_nil_iff]
    intro token htoken
    obtain ⟨constraint, -, rfl⟩ := List.mem_map.mp htoken
    rw [readToken_word]
    simp
  · rw [htokens, filterMap_readToken_words]
  · refine Option.ext fun constraint => ?_
    rw [hconsequent, readToken_strip, readToken_eq_some]

theorem isClause_of_spelled {constraint : Constraint} {before after : Text} (hb : Spells antecedent before)
    (ha : Padded constraint.text after) : IsClause antecedent (some constraint) (before ++ arrow ++ after) := by
  refine ⟨?_, before, after, rfl, hb, fun other => ?_⟩
  · rw [arrowCount_divided, arrowCount_eq_zero.mpr hb.arrow_free, arrowCount_eq_zero.mpr ha.arrow_free]
  · rw [← readToken_eq_some, readToken_eq_some.mpr ha]

end

section

variable {tokens : List Text}

theorem antecedentTokens_spec (text : Text) :
    (∀ token ∈ antecedentTokens text, token.strip = token ∧ .char ',' ∉ token ∧ token <:+: text) ∧
      antecedentTokens text ≠ [[]] := by
  unfold antecedentTokens
  split
  · simp
  · next hblank =>
    constructor
    · intro token htoken
      obtain ⟨piece, hpiece, rfl⟩ := List.mem_map.mp htoken
      have hpart := Text.isInfix_strip piece
      exact ⟨Text.strip_strip piece, fun h => not_mem_piece piece hpiece (hpart.subset h),
        hpart.trans (isInfix_of_mem_pieces hpiece)⟩
    · intro h
      obtain ⟨piece, rest, hpieces, hpiece, hrest⟩ := List.map_eq_cons_iff.mp h
      rw [List.map_eq_nil_iff] at hrest
      have htext := intercalate_pieces (.char ',') text
      rw [hpieces, hrest, List.intercalate_singleton] at htext
      exact hblank (htext ▸ hpiece)

def listed (tokens : List Text) : Text :=
  Text.intercalate ", " tokens ++ [.char ' ']

theorem listed_singleton (token : Text) : listed [token] = token ++ [.char ' '] :=
  congrArg (· ++ [CodePoint.char ' ']) List.intercalate_singleton

theorem listed_cons_cons (first next : Text) (rest : List Text) :
    listed (first :: next :: rest) = first ++ .char ',' :: ([.char ' '] ++ listed (next :: rest)) := by
  have h : List.intercalate (", " : Text) (first :: next :: rest) =
      first ++ (", " : Text) ++ List.intercalate (", " : Text) (next :: rest) :=
    List.intercalate_cons_cons
  have hsep : (", " : Text) = [.char ',', .char ' '] := rfl
  rw [listed, Text.intercalate, ← List.intercalate, h, hsep]
  simp [listed, Text.intercalate, List.intercalate, hsep]

theorem map_strip_pieces_listed (h : ∀ token ∈ tokens, token.strip = token ∧ .char ',' ∉ token) (hne : tokens ≠ []) :
    (pieces (.char ',') (listed tokens)).map Text.strip = tokens := by
  induction tokens with
  | nil => exact absurd rfl hne
  | cons token rest ih =>
    obtain ⟨⟨hstrip, hcomma⟩, hrest⟩ := List.forall_mem_cons.mp h
    cases rest with
    | nil =>
      have hend : CodePoint.char ',' ∉ token ++ [.char ' '] := by
        rw [List.mem_append, not_or]
        exact ⟨hcomma, by decide⟩
      have hpad : Text.strip (token ++ [.char ' ']) = token.strip :=
        Padded.strip ⟨[], [.char ' '], by simp, by decide, by simp⟩
      rw [listed_singleton, pieces_of_not_mem hend, List.map_singleton, hpad, hstrip]
    | cons next rest =>
      rw [listed_cons_cons, pieces_append_sep hcomma, List.map_cons, hstrip, map_strip_pieces_pad (by decide),
        ih hrest (List.cons_ne_nil _ _)]

theorem antecedentTokens_listed (h : ∀ token ∈ tokens, token.strip = token ∧ .char ',' ∉ token) (hne : tokens ≠ [[]]) :
    antecedentTokens (listed tokens) = tokens := by
  by_cases hnil : tokens = []
  · rw [hnil]
    decide
  · have hpieces := map_strip_pieces_listed h hnil
    have hstrip : (listed tokens).strip ≠ [] := by
      -- A blank text has no comma, so it would give a single empty token.
      intro hblank
      have hcomma := not_mem_of_blank (c := .char ',') (by decide) (stripBy_eq_nil.mp hblank)
      rw [pieces_of_not_mem hcomma, List.map_singleton, hblank] at hpieces
      exact hne hpieces.symm
    rw [antecedentTokens, if_neg hstrip, hpieces]

theorem arrow_free_listed (h : ∀ token ∈ tokens, ¬ arrow <:+: token) : ¬ arrow <:+: listed tokens := by
  rw [← arrowCount_eq_zero]
  induction tokens with
  | nil => decide
  | cons token rest ih =>
    obtain ⟨htoken, hrest⟩ := List.forall_mem_cons.mp h
    cases rest with
    | nil =>
      rw [listed_singleton, arrowCount_append_blank (by decide), arrowCount_eq_zero]
      exact htoken
    | cons next rest =>
      have hcomma : ∀ t : Text, ¬ arrow <+: .char ',' :: t := by simp [arrow_prefix_cons]
      rw [listed_cons_cons, arrowCount_append_cons (by decide), arrowCount_cons, if_neg (hcomma _),
        arrowCount_blank_append (by decide), ih hrest, arrowCount_eq_zero.mpr htoken]

end

def Binding.printed (binding : Binding) : Text :=
  Text.intercalate ", " binding.tokens ++ (" -> " : Text) ++ binding.consequent

theorem bindClause_printed {text : Text} {binding : Binding} (h : bindClause text = .ok binding) :
    bindClause binding.printed = .ok binding := by
  obtain ⟨before, after, rfl, hbefore, hafter, rfl⟩ := bindClause_eq_ok.mp h
  obtain ⟨htokens, hne⟩ := antecedentTokens_spec before
  refine bindClause_eq_ok.mpr ⟨listed (antecedentTokens before), [.char ' '] ++ after.strip, ?_, ?_, ?_, ?_⟩
  · have harrow : (" -> " : Text) = [.char ' '] ++ arrow ++ [.char ' '] := rfl
    simp only [Binding.printed, listed, harrow, List.append_assoc]
  · exact arrow_free_listed fun token htoken harrow => hbefore (harrow.trans (htokens token htoken).2.2)
  · rw [arrow_infix_blank_append (by decide)]
    exact fun harrow => hafter (harrow.trans (Text.isInfix_strip after))
  · have hpad : Text.strip ([.char ' '] ++ after.strip) = after.strip.strip :=
      Padded.strip ⟨[.char ' '], [], by decide, by simp, by simp⟩
    rw [antecedentTokens_listed (fun token htoken => ⟨(htokens token htoken).1, (htokens token htoken).2.1⟩) hne, hpad,
      Text.strip_strip]

theorem reading_inverts_writing :
    (∀ text : Text, (∃ e, bindClause text = .error e) ↔ arrowCount text ≠ 1) ∧
    (∀ text : Text, (∃ clause, readClause text = .ok clause ∧ clause.unknownTokens = []) ↔
      ∃ antecedent consequent, IsClause antecedent consequent text) ∧
    (∀ (text : Text) (antecedent : List Constraint) (consequent : Option Constraint),
      IsClause antecedent consequent text →
      ∃ clause, readClause text = .ok clause ∧ clause.States antecedent consequent) ∧
    (∀ (antecedent : List Constraint) (consequent : Constraint) (before after : Text),
      Spells antecedent before → Padded consequent.text after →
      ∃ clause, readClause (before ++ arrow ++ after) = .ok clause ∧ clause.States antecedent (some consequent)) ∧
    ∀ (text : Text) (binding : Binding), bindClause text = .ok binding → bindClause binding.printed = .ok binding := by
  refine ⟨fun text => ?_, fun text => ?_, fun _ _ _ => readClause_of_isClause, ?_, fun _ _ => bindClause_printed⟩
  · rw [← not_iff_not, not_not, ← bindClause_ok_iff_arrowCount]
    cases bindClause text <;> simp
  · constructor
    · rintro ⟨clause, hread, hvalid⟩
      exact ⟨_, _, isClause_of_readClause hread hvalid⟩
    · rintro ⟨antecedent, consequent, h⟩
      obtain ⟨clause, hread, hstates⟩ := readClause_of_isClause h
      exact ⟨clause, hread, hstates.unknownTokens⟩
  · intro antecedent consequent before after hb ha
    exact readClause_of_isClause (isClause_of_spelled hb ha)

theorem reading_inverts_writing_padded :
    (∃ clause, readClause "\u3000!null\t,_ -> maybe" = .ok clause ∧ clause.States [.nonNull, .any] none) ∧
    (∃ clause, readClause (" \n" ++ arrow ++ "false ") = .ok clause ∧ clause.States [] (some .isFalse)) ∧
    bindClause (Binding.printed ⟨["a-", "", ">b"], ">"⟩) = .ok ⟨["a-", "", ">b"], ">"⟩ := by
  obtain ⟨-, -, hread, hwritten, hprinted⟩ := reading_inverts_writing
  refine ⟨hread _ _ _ ⟨by decide +kernel, "\u3000!null\t,_ ", " maybe", rfl, ?_, ?_⟩, hwritten _ _ _ _ ?_ ?_, ?_⟩
  · have hfirst : Padded "!null" "\u3000!null\t" := ⟨"\u3000", "\t", by decide, by decide, rfl⟩
    have hsecond : Padded "_" "_ " := ⟨[], " ", by simp, by decide, rfl⟩
    exact .inr ⟨["\u3000!null\t", "_ "], .cons hfirst (.cons hsecond .nil), rfl⟩
  · intro constraint
    rw [← readToken_eq_some]
    cases constraint <;> decide
  · exact .inl ⟨rfl, by decide⟩
  · exact ⟨[], " ", by simp, by decide, rfl⟩
  · exact hprinted "a- ,, >b->>" _ (by decide +kernel)

end NullContract
