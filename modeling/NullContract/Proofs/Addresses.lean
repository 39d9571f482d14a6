import Mathlib.Data.List.Infix
import Mathlib.Data.List.Nodup
import NullContract.Proofs.SyntaxInduction

/-!
Addresses of statements. An address is the way down to a statement, by its number among the statements directly inside
the one before. The functions and classes around a statement stand on that way, the innermost last.
-/

namespace NullContract

namespace Stmt

def children : Stmt → List Stmt
  | function _ body => body
  | classDef _ body => body
  | forLoop _ _ _ body orelse => body ++ orelse
  | whileLoop _ body orelse => body ++ orelse
  | ifElse _ _ body orelse => body ++ orelse
  | withBlock _ _ body => body
  | matchCases _ cases => cases.flatMap Case.body
  | tryBlock body handlers orelse final => body ++ (handlers.flatMap Handler.body ++ (orelse ++ final))
  | ret _ _ | delete _ | assign _ _ | augAssign _ _ _ | annAssign _ _ _ | raise _ | assert _ _ | imports _ _ | outer _ _
  | expr _ | .break | .continue | pass => []

theorem inductionOnChildren {motive : Stmt → Prop} (h : ∀ s : Stmt, (∀ c ∈ s.children, motive c) → motive s)
    (s : Stmt) : motive s := by
  induction s with
  | function header body ih => exact h _ ih
  | classDef header body ih => exact h _ ih
  | forLoop isAsync target iter body orelse ihb iho => exact h _ (List.forall_mem_append.mpr ⟨ihb, iho⟩)
  | whileLoop test body orelse ihb iho => exact h _ (List.forall_mem_append.mpr ⟨ihb, iho⟩)
  | ifElse line test body orelse ihb iho => exact h _ (List.forall_mem_append.mpr ⟨ihb, iho⟩)
  | withBlock isAsync items body ih => exact h _ ih
  | matchCases subject cases ih => exact h _ (List.forall_mem_flatMap.mpr ih)
  | tryBlock body handlers orelse final ihb ihh iho ihf =>
    refine h _ (List.forall_mem_append.mpr ⟨ihb, List.forall_mem_append.mpr ⟨?_, ?_⟩⟩)
    · exact List.forall_mem_flatMap.mpr ihh
    · exact List.forall_mem_append.mpr ⟨iho, ihf⟩
  | _ => exact h _ fun c hc => absurd hc List.not_mem_nil

def scopeLabel? : Stmt → Option String
  | function header _ => some (header.name ++ ".<locals>")
  | classDef header _ => some header.name
  | _ => none

def isScope (s : Stmt) : Bool :=
  s.scopeLabel?.isSome

def isClass : Stmt → Bool
  | classDef _ _ => true
  | _ => false

end Stmt

abbrev Address := List Nat

def Stmt.part? : Stmt → Address → Option Stmt
  | s, [] => some s
  | s, i :: rest => s.children[i]?.bind fun c => c.part? rest

def stmtAt (module : List Stmt) : Address → Option Stmt
  | [] => none
  | i :: rest => module[i]?.bind fun s => s.part? rest

theorem part?_append (s : Stmt) (p q : Address) : s.part? (p ++ q) = (s.part? p).bind fun t => t.part? q := by
  induction p generalizing s with
  | nil => rfl
  | cons i rest ih =>
    simp only [List.cons_append, Stmt.part?]
    cases s.children[i]? with
    | none => rfl
    | some c => exact ih c

theorem stmtAt_append {module : List Stmt} {p : Address} {s : Stmt} (h : stmtAt module p = some s) (q : Address) :
    stmtAt module (p ++ q) = s.part? q := by
  cases p with
  | nil => cases h
  | cons i rest =>
    obtain ⟨t, ht, hs⟩ := Option.bind_eq_some_iff.mp h
    rw [List.cons_append, stmtAt, ht, Option.bind_some, part?_append, hs, Option.bind_some]

def scopesOn (look : Address → Option Stmt) (r : Address) : List (Address × Stmt) :=
  r.inits.dropLast.filterMap fun p => ((look p).filter Stmt.isScope).map (p, ·)

def scopesAround (module : List Stmt) (r : Address) : List (Address × Stmt) :=
  scopesOn (stmtAt module) r

def innermostScope? (module : List Stmt) (r : Address) : Option Address :=
  (scopesAround module r).getLast?.map Prod.fst

section

variable (look : Address → Option Stmt)

@[simp] theorem scopesOn_nil : scopesOn look [] = [] := rfl

theorem scopesOn_cons (i : Nat) (rest : Address) :
    scopesOn look (i :: rest) = (((look []).filter Stmt.isScope).map (([] : Address), ·)).toList ++
      (scopesOn (fun q => look (i :: q)) rest).map (Prod.map (i :: ·) id) := by
  have hinits : rest.inits.map (i :: ·) ≠ [] := by
    cases rest <;> simp
  simp only [scopesOn, List.inits, List.dropLast_cons_of_ne_nil hinits, ← List.map_dropLast, List.filterMap_cons,
    List.filterMap_map, List.map_filterMap, Option.map_map, Function.comp_def, Prod.map_apply, id]
  cases (look []).filter Stmt.isScope <;> rfl

theorem scopesOn_append (p q : Address) :
    scopesOn look (p ++ q) = scopesOn look p ++ (scopesOn (fun q => look (p ++ q)) q).map (Prod.map (p ++ ·) id) := by
  induction p generalizing look with
  | nil => exact (List.map_id _).symm
  | cons i rest ih =>
    rw [List.cons_append, scopesOn_cons, scopesOn_cons, ih, List.map_append, List.append_assoc, List.map_map]
    rfl

theorem exists_of_mem_scopesOn {look : Address → Option Stmt} {p r : Address} {s : Stmt}
    (h : (p, s) ∈ scopesOn look r) : ∃ i rest, r = p ++ i :: rest := by
  induction r generalizing look p with
  | nil => cases h
  | cons i rest ih =>
    rw [scopesOn_cons, List.mem_append] at h
    rcases h with h | h
    · obtain ⟨t, -, ht⟩ := Option.map_eq_some_iff.mp (Option.mem_toList.mp h)
      cases ht
      exact ⟨i, rest, rfl⟩
    · obtain ⟨⟨q, t⟩, hq, ht⟩ := List.mem_map.mp h
      cases ht
      obtain ⟨j, rest', rfl⟩ := ih hq
      exact ⟨j, rest', rfl⟩

end

theorem filter_isScope_part? {s : Stmt} (h : s.isScope = true) : (s.part? []).filter Stmt.isScope = some s := by
  simp [Stmt.part?, Option.filter, h]

theorem filter_isScope_part?_eq_none {s : Stmt} (h : s.isScope = false) : (s.part? []).filter Stmt.isScope = none := by
  simp [Stmt.part?, Option.filter, h]

section

variable {module : List Stmt} {p : Address} {s : Stmt}

theorem scopesAround_below (hs : stmtAt module p = some s) (hscope : s.isScope = true) (i : Nat) (rest : Address) :
    scopesAround module (p ++ i :: rest) = scopesAround module p ++ (p, s) ::
      (scopesOn (fun q => s.part? (i :: q)) rest).map (Prod.map (fun q => p ++ i :: q) id) := by
  have hlook : (fun q => stmtAt module (p ++ q)) = s.part? := funext (stmtAt_append hs)
  rw [scopesAround, scopesOn_append, hlook, scopesOn_cons, filter_isScope_part? hscope, List.map_append, List.map_map,
    Option.map_some, Option.toList_some, List.map_singleton, Prod.map_apply, List.append_nil]
  rfl

theorem innermostScope?_eq_some_iff (hs : stmtAt module p = some s) (hscope : s.isScope = true) (r : Address) :
    innermostScope? module r = some p ↔
      ∃ i rest, r = p ++ i :: rest ∧ scopesOn (fun q => s.part? (i :: q)) rest = [] := by
  constructor
  · intro h
    obtain ⟨⟨p', t⟩, hlast, hp⟩ := Option.map_eq_some_iff.mp h
    dsimp only at hp
    subst hp
    obtain ⟨i, rest, rfl⟩ := exists_of_mem_scopesOn (List.mem_of_getLast? hlast)
    refine ⟨i, rest, rfl, ?_⟩
    -- A scope in between would be the last one, and its address is longer.
    rcases List.eq_nil_or_concat (scopesOn (fun q => s.part? (i :: q)) rest) with hnone | ⟨outer, ⟨q, u⟩, hinner⟩
    · exact hnone
    · rw [scopesAround_below hs hscope, hinner, List.concat_eq_append, List.map_append, ← List.cons_append,
        ← List.append_assoc, List.map_singleton, List.getLast?_concat] at hlast
      have hplace : p' ++ i :: q = p' := congrArg Prod.fst (Option.some.inj hlast)
      have hlength := congrArg List.length hplace
      simp at hlength
  · rintro ⟨i, rest, rfl, hnone⟩
    rw [innermostScope?, scopesAround_below hs hscope, hnone, List.map_nil, List.getLast?_concat]
    rfl

end

/-- The items are what a relation finds at addresses, and no address is listed twice. -/
def Lists {α : Type} (R : Address → α → Prop) (items : List α) : Prop :=
  ∃ placed : List (Address × α), placed.map Prod.snd = items ∧ (placed.map Prod.fst).Nodup ∧
    ∀ p a, (p, a) ∈ placed ↔ R p a

namespace Lists

variable {α : Type} {R S T : Address → α → Prop} {xs ys : List α}

theorem nil (h : ∀ p a, ¬ R p a) : Lists R [] :=
  ⟨[], rfl, .nil, fun p a => iff_of_false List.not_mem_nil (h p a)⟩

theorem append (hR : Lists R xs) (hS : Lists S ys) (hdisjoint : ∀ p a b, R p a → ¬ S p b)
    (hT : ∀ p a, T p a ↔ R p a ∨ S p a) : Lists T (xs ++ ys) := by
  obtain ⟨placed, rfl, hnodup, hmem⟩ := hR
  obtain ⟨placed', rfl, hnodup', hmem'⟩ := hS
  refine ⟨placed ++ placed', List.map_append, ?_, fun p a => ?_⟩
  · rw [List.map_append]
    refine hnodup.append hnodup' fun p hp hp' => ?_
    obtain ⟨⟨p, a⟩, ha, rfl⟩ := List.mem_map.mp hp
    obtain ⟨⟨p', b⟩, hb, rfl⟩ := List.mem_map.mp hp'
    exact hdisjoint _ a b ((hmem _ a).mp ha) ((hmem' _ b).mp hb)
  · rw [List.mem_append, hmem, hmem', hT]

theorem image (hR : Lists R xs) {f : Address → Address} (hf : Function.Injective f)
    (hS : ∀ p a, S p a ↔ ∃ q, f q = p ∧ R q a) : Lists S xs := by
  obtain ⟨placed, rfl, hnodup, hmem⟩ := hR
  refine ⟨placed.map (Prod.map f id), by simp [Function.comp_def], ?_, fun p a => ?_⟩
  · have hplaces : (placed.map (Prod.map f id)).map Prod.fst = (placed.map Prod.fst).map f := by
      simp [Function.comp_def]
    rw [hplaces]
    exact hnodup.map hf
  · rw [hS, List.mem_map]
    constructor
    · rintro ⟨⟨q, a⟩, hq, heq⟩
      cases heq
      exact ⟨q, rfl, (hmem q a).mp hq⟩
    · rintro ⟨q, rfl, hq⟩
      exact ⟨(q, a), (hmem q a).mpr hq, rfl⟩

end Lists

def InBlock {α : Type} (S : Stmt → Address → α → Prop) (b : List Stmt) (p : Address) (a : α) : Prop :=
  ∃ i rest s, p = i :: rest ∧ b[i]? = some s ∧ S s rest a

namespace Lists

variable {α : Type} {S : Stmt → Address → α → Prop} {items : Stmt → List α} {b : List Stmt}

theorem block (h : ∀ s ∈ b, Lists (S s) (items s)) : Lists (InBlock S b) (b.flatMap items) := by
  induction b with
  | nil =>
    refine nil fun p a hp => ?_
    obtain ⟨i, rest, s, -, hs, -⟩ := hp
    cases hs
  | cons s b ih =>
    rw [List.forall_mem_cons] at h
    have hbump : Function.Injective (List.modifyHead (· + 1) : Address → Address) := by
      intro p q hpq
      cases p <;> cases q <;> simp_all
    have hfirst : Lists (fun p a => ∃ q, 0 :: q = p ∧ S s q a) (items s) :=
      h.1.image List.cons_injective fun p a => Iff.rfl
    have hrest : Lists (fun p a => ∃ q, List.modifyHead (· + 1) q = p ∧ InBlock S b q a) (b.flatMap items) :=
      (ih h.2).image hbump fun p a => Iff.rfl
    rw [List.flatMap_cons]
    refine hfirst.append hrest ?_ ?_
    · rintro p a c ⟨q, rfl, -⟩ ⟨_, hq, i, rest, t, rfl, -⟩
      cases hq
    · intro p a
      constructor
      · rintro ⟨i, rest, t, rfl, ht, ha⟩
        cases i with
        | zero =>
          cases ht
          exact .inl ⟨rest, rfl, ha⟩
        | succ i => exact .inr ⟨i :: rest, rfl, i, rest, t, rfl, ht, ha⟩
      · rintro (⟨rest, rfl, ha⟩ | ⟨_, rfl, i, rest, t, rfl, ht, ha⟩)
        · exact ⟨0, rest, s, rfl, rfl, ha⟩
        · exact ⟨i + 1, rest, t, rfl, ht, ha⟩

theorem node {R : Address → α → Prop} (own : Option α) (h : ∀ s ∈ b, Lists (S s) (items s))
    (hnil : ∀ a, R [] a ↔ own = some a) (hcons : ∀ i rest a, R (i :: rest) a ↔ InBlock S b (i :: rest) a) :
    Lists R (own.toList ++ b.flatMap items) := by
  have hown : Lists (fun p a => p = [] ∧ own = some a) own.toList := by
    refine ⟨own.toList.map (([] : Address), ·), by simp [Function.comp_def], ?_, fun p a => ?_⟩
    · cases own <;> simp
    · cases own <;> simp [eq_comm]
  refine hown.append (block h) ?_ ?_
  · rintro p a c ⟨rfl, -⟩ ⟨i, rest, s, hp, -⟩
    cases hp
  · intro p a
    cases p with
    | nil =>
      have hempty : ¬ InBlock S b [] a := by
        rintro ⟨i, rest, s, hp, -⟩
        cases hp
      simp [hnil, hempty]
    | cons i rest => simp [hcons]

end Lists

end NullContract
