import Mathlib.Algebra.Order.Ring.Nat
import Mathlib.Data.List.TakeDrop
import NullContract.Source.Reading

namespace NullContract.Source

section Escape

variable {bytes : Bool} {cs rest : List Char} {points : Text}

theorem length_hexEscape? {width : Nat} {point : CodePoint} (h : hexEscape? width cs = some (point, rest)) :
    rest.length ≤ cs.length := by
  simp only [hexEscape?, Option.bind_eq_bind, Option.bind_eq_some_iff, Option.pure_def, Option.some.injEq,
    Prod.mk.injEq] at h
  obtain ⟨-, -, -, -, -, rfl⟩ := h
  simp

theorem length_octalEscape? {c : Char} {point : CodePoint} (h : octalEscape? bytes c cs = some (point, rest)) :
    rest.length ≤ cs.length := by
  simp only [octalEscape?, Option.bind_eq_bind, Option.bind_eq_some_iff, Option.pure_def, Option.some.injEq,
    Prod.mk.injEq] at h
  obtain ⟨-, -, -, rfl⟩ := h
  simp

theorem length_namedEscape? {point : CodePoint} (h : namedEscape? cs = some (point, rest)) : rest.length ≤ cs.length := by
  unfold namedEscape? at h
  split at h
  · simp only [Option.bind_eq_bind, Option.bind_eq_some_iff, Option.pure_def, Option.some.injEq, Prod.mk.injEq] at h
    obtain ⟨-, -, -, -, -, rfl⟩ := h
    rw [List.length_drop, List.length_cons]
    omega
  · cases h

theorem length_readEscape (h : readEscape bytes cs = some (points, rest)) : points.length + rest.length ≤ cs.length + 1 := by
  have hone : ∀ {escape : Option (CodePoint × List Char)} {tail : List Char},
      (∀ {point rest}, escape = some (point, rest) → rest.length ≤ tail.length) →
      escape.map (fun p => ([p.1], p.2)) = some (points, rest) → points.length + rest.length ≤ tail.length + 2 := by
    intro escape tail hrest hmap
    obtain ⟨⟨point, rest'⟩, hescape, heq⟩ := Option.map_eq_some_iff.mp hmap
    cases heq
    have := hrest hescape
    simp only [List.length_singleton]
    omega
  unfold readEscape at h
  split at h
  · cases h
    exact Nat.le_refl _
  · cases h
    simp only [List.length_nil, List.length_cons]
    omega
  · next c tail _ =>
    dsimp only at h
    split at h
    · cases h
      simp only [List.length_cons, List.length_nil]
      omega
    · split at h
      · exact hone length_octalEscape? h
      · split at h
        · exact hone length_hexEscape? h
        · split at h
          · exact hone length_hexEscape? h
          · split at h
            · exact hone length_hexEscape? h
            · split at h
              · exact hone length_namedEscape? h
              · cases h
                simp only [List.length_cons, List.length_nil]
                omega

theorem length_unescape {fuel : Nat} {text : Text} (h : unescape bytes fuel cs = some text) : text.length ≤ cs.length := by
  fun_induction unescape bytes fuel cs generalizing text with
  | case1 =>
    cases h
    exact Nat.le_refl _
  | case2 => cases h
  | case3 fuel tail ih =>
    simp only [Option.bind_eq_bind, Option.bind_eq_some_iff, Option.pure_def, Option.some.injEq] at h
    obtain ⟨⟨points, after⟩, hescape, rest, hrest, rfl⟩ := h
    have hpoints := length_readEscape hescape
    have hrest : rest.length ≤ after.length := ih _ hrest
    simp only [List.length_append, List.length_cons]
    omega
  | case4 fuel c tail _ ih =>
    simp only [Option.bind_eq_bind, Option.bind_eq_some_iff, Option.pure_def, Option.some.injEq] at h
    obtain ⟨rest, hrest, rfl⟩ := h
    exact Nat.succ_le_succ (ih hrest)

theorem length_literalText {raw : Bool} {text : Text} (h : literalText raw cs = some text) : text.length ≤ cs.length := by
  unfold literalText at h
  split at h
  · cases h
    simp [Text.ofChars]
  · exact length_unescape h

end Escape

def TokenKind.weight : TokenKind → Nat
  | .quotation q => q.body.length + 2
  | _ => 0

def weight (tokens : List Token) : Nat :=
  (tokens.map (·.kind.weight)).sum

section Token

variable {cs rest : List Char}

theorem length_readBody {quote : Char} {long : Bool} {body : List Char} (h : readBody quote long cs = some body) :
    body.length + 1 ≤ cs.length := by
  fun_induction readBody quote long cs generalizing body with
  | case1 => cases h
  | case2 c rest ih =>
    obtain ⟨body', hbody, rfl⟩ := Option.map_eq_some_iff.mp h
    have := ih hbody
    simp only [List.length_cons]
    omega
  | case3 =>
    cases h
    simp
  | case4 => cases h
  | case5 c rest _ _ _ ih =>
    obtain ⟨body', hbody, rfl⟩ := Option.map_eq_some_iff.mp h
    exact Nat.succ_le_succ (ih hbody)

theorem length_readMarks {count count' : Nat} {q q' : Quotation} (h : readMarks count q cs = some (q', count', rest)) :
    rest.length ≤ cs.length := by
  fun_induction readMarks count q cs with
  | case1 => simp_all
  | _ => grind

theorem size_readQuotation? {q : Quotation} {size : Nat} (h : readQuotation? cs = some (some (q, size))) :
    q.body.length + 2 ≤ size ∧ q.body.length + 2 ≤ cs.length := by
  simp only [readQuotation?, Option.bind_eq_bind, Option.bind_eq_some_iff, Option.pure_def] at h
  obtain ⟨⟨marks, count, rest⟩, hmarks, h⟩ := h
  have hrest := length_readMarks hmarks
  cases rest with
  | nil => cases h
  | cons quote rest =>
    obtain ⟨body, hbody, heq⟩ := Option.map_eq_some_iff.mp (Option.some.inj h)
    cases heq
    have hlength := length_readBody hbody
    simp only [List.length_drop, List.length_cons] at hlength hrest ⊢
    constructor
    · split <;> omega
    · omega

theorem weight_readToken? {kind : TokenKind} {size : Nat} (h : readToken? cs = some (kind, size)) :
    kind.weight + (cs.drop size).length ≤ cs.length := by
  have hlight : kind.weight = 0 → kind.weight + (cs.drop size).length ≤ cs.length := by
    intro hkind
    rw [hkind, List.length_drop]
    omega
  unfold readToken? at h
  split at h
  · next result hquotation =>
    obtain ⟨⟨q, size'⟩, rfl, heq⟩ := Option.map_eq_some_iff.mp h
    cases heq
    have := size_readQuotation? hquotation
    rw [TokenKind.weight, List.length_drop]
    omega
  · split at h
    · cases h
    · split at h
      · obtain ⟨number, -, heq⟩ := Option.map_eq_some_iff.mp h
        cases heq
        exact hlight rfl
      · split at h
        · unfold readWord at h
          dsimp only at h
          split at h
          · cases h
            exact hlight rfl
          · split at h
            · cases h
              exact hlight rfl
            · cases h
        · obtain ⟨symbol, -, heq⟩ := Option.map_eq_some_iff.mp h
          cases heq
          exact hlight rfl

theorem length_measure {i i' : Indentation} {p p' : Position} (h : measure i p cs = some (i', p', rest)) :
    rest.length ≤ cs.length := by
  fun_induction measure i p cs with
  | case5 => cases h
  | case6 =>
    cases h
    exact Nat.le_refl _
  | _ => grind

theorem weight_cons (kind : TokenKind) (start stop : Position) (tokens : List Token) :
    weight (⟨kind, start, stop⟩ :: tokens) = kind.weight + weight tokens := by
  simp [weight]

theorem weight_append (tokens tokens' : List Token) : weight (tokens ++ tokens') = weight tokens + weight tokens' := by
  simp [weight]

theorem weight_layout (p : Position) (change : Option Nat) : weight (layout p change) = 0 := by
  cases change with
  | none => rfl
  | some closed => simp [layout, weight, TokenKind.weight]

theorem weight_lex {fuel : Nat} {s : LexState} {p : Position} {acc tokens : List Token}
    (h : lex fuel s p cs acc = some tokens) : weight tokens ≤ cs.length + weight acc := by
  fun_induction lex fuel s p cs acc with
  | case1 => cases h
  | case2 fuel s p cs acc _ ihLine ihEnd ihRest =>
    simp only [Option.bind_eq_bind, Option.bind_eq_some_iff] at h
    obtain ⟨⟨i, p', rest⟩, hmeasure, h⟩ := h
    have hrest := length_measure hmeasure
    split at h
    · split at h
      · next after hafter =>
        have hdrop : (rest.dropWhile fun c => decide (c ≠ '\n')).length ≤ rest.length :=
          (List.dropWhile_sublist _).length_le
        rw [hafter, List.length_cons] at hdrop
        have := ihLine _ _ h
        omega
      · have := ihEnd _ h
        rw [List.length_nil] at this
        omega
    · next after hline =>
      have hline : rest = '\n' :: after := hline
      rw [hline, List.length_cons] at hrest
      have := ihLine _ _ h
      omega
    · simp only [Option.bind_eq_some_iff] at h
      obtain ⟨⟨levels, change⟩, -, h⟩ := h
      have := ihRest _ _ _ _ h
      rw [weight_append, weight_layout] at this
      omega
  | case3 =>
    cases h
    simp [weight_cons, TokenKind.weight]
  | case4 => cases h
  | case8 fuel s p acc _ tail comment rest hspan ih =>
    have hlength : rest.length ≤ ('#' :: tail).length := by
      rw [List.span_eq_takeWhile_dropWhile, Prod.mk.injEq] at hspan
      rw [← hspan.2]
      exact (List.dropWhile_sublist _).length_le
    have h : lex fuel s (advance p (('#' :: tail).span fun c => decide (c ≠ '\n')).1)
        (('#' :: tail).span fun c => decide (c ≠ '\n')).2 acc = some tokens := h
    rw [hspan] at h
    have := ih h
    omega
  | case9 fuel s p acc _ rest next _ ih =>
    have hlight : TokenKind.lineEnd.weight = 0 := rfl
    have := ih h
    rw [weight_cons, hlight] at this
    rw [List.length_cons]
    omega
  | case11 fuel s p acc _ c rest ih =>
    have := ih h
    rw [List.length_cons, List.length_cons]
    omega
  | case12 => cases h
  | case13 fuel s p cs acc _ _ _ _ _ _ _ _ ih =>
    simp only [Option.bind_eq_bind, Option.bind_eq_some_iff] at h
    obtain ⟨⟨kind, size⟩, hread, h⟩ := h
    have htoken := weight_readToken? hread
    obtain ⟨s', h⟩ : ∃ s', lex fuel s' (advance p (cs.take size)) (cs.drop size)
        (⟨kind, p, advance p (cs.take size)⟩ :: acc) = some tokens := by
      cases kind with
      | op symbol =>
        obtain ⟨s', -, h⟩ := Option.bind_eq_some_iff.mp h
        exact ⟨s', h⟩
      | _ => exact ⟨s, h⟩
    have := ih kind size s' h
    rw [weight_cons] at this
    omega
  | _ =>
    rename_i ih
    have := ih h
    rw [List.length_cons]
    omega

theorem weight_tokens {firstLine : Nat} {list : List Token} (h : tokens firstLine cs = some list) : weight list ≤ cs.length := by
  obtain ⟨newest, hlex, rfl⟩ := Option.map_eq_some_iff.mp h
  have hweight : weight newest.reverse = weight newest := by simp [weight]
  rw [hweight]
  exact weight_lex hlex

theorem length_unifyLineEnds (cs : List Char) : (unifyLineEnds cs).length ≤ cs.length := by
  fun_induction unifyLineEnds cs <;> grind

end Token

end NullContract.Source
