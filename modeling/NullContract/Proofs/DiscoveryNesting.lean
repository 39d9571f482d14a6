import NullContract.Proofs.ReturnOwners

namespace NullContract

def discovered (names : NameSet) (filename source : String) (b : List Stmt) : List Candidate :=
  (findContracts names b).map fun f => f.candidate filename source

namespace Candidate

def qualified (scope : String) (c : Candidate) : Candidate :=
  { c with subject := { c.subject with qualname := scope ++ "." ++ c.subject.qualname } }

def asMethod (c : Candidate) : Candidate :=
  { c with subject := { c.subject with parameters := c.function.header.formalParameters true } }

end Candidate

/-- The statement is a loop, a branch, or a `with`, `match` or `try` statement, and `inner` is one of its blocks. The
statements of its other blocks stand before and after. -/
inductive Stmt.Wraps (inner : List Stmt) : (before after : List Stmt) → Stmt → Prop where
  | forBody {isAsync : Bool} {target iter : Expr} {orelse : List Stmt} :
      Wraps inner [] orelse (.forLoop isAsync target iter inner orelse)
  | forElse {isAsync : Bool} {target iter : Expr} {body : List Stmt} :
      Wraps inner body [] (.forLoop isAsync target iter body inner)
  | whileBody {test : Expr} {orelse : List Stmt} : Wraps inner [] orelse (.whileLoop test inner orelse)
  | whileElse {test : Expr} {body : List Stmt} : Wraps inner body [] (.whileLoop test body inner)
  | ifBody {line : Nat} {test : Expr} {orelse : List Stmt} : Wraps inner [] orelse (.ifElse line test inner orelse)
  | ifElse {line : Nat} {test : Expr} {body : List Stmt} : Wraps inner body [] (.ifElse line test body inner)
  | withBody {isAsync : Bool} {items : List WithItem} : Wraps inner [] [] (.withBlock isAsync items inner)
  | matchCase {subject : Expr} {earlier later : List Case} {pattern : Pattern} {guard : Option Expr} :
      Wraps inner (earlier.flatMap Case.body) (later.flatMap Case.body)
        (.matchCases subject (earlier ++ .mk pattern guard inner :: later))
  | tryBody {handlers : List Handler} {orelse final : List Stmt} :
      Wraps inner [] (handlers.flatMap Handler.body ++ orelse ++ final) (.tryBlock inner handlers orelse final)
  | handler {body orelse final : List Stmt} {earlier later : List Handler} {forGroups : Bool} {kind : Option Expr}
      {name : Option String} :
      Wraps inner (body ++ earlier.flatMap Handler.body) (later.flatMap Handler.body ++ orelse ++ final)
        (.tryBlock body (earlier ++ .mk forGroups kind name inner :: later) orelse final)
  | tryElse {body final : List Stmt} {handlers : List Handler} :
      Wraps inner (body ++ handlers.flatMap Handler.body) final (.tryBlock body handlers inner final)
  | finally {body orelse : List Stmt} {handlers : List Handler} :
      Wraps inner (body ++ handlers.flatMap Handler.body ++ orelse) [] (.tryBlock body handlers orelse inner)

theorem Stmt.Wraps.children_eq {inner before after : List Stmt} {s : Stmt} (h : s.Wraps inner before after) :
    s.children = before ++ inner ++ after := by
  cases h <;> simp [Stmt.children]

theorem Stmt.Wraps.isScope_eq_false {inner before after : List Stmt} {s : Stmt} (h : s.Wraps inner before after) :
    s.isScope = false := by
  cases h <;> rfl

namespace Found

def under (outer : List String) (f : Found) : Found :=
  { f with scopes := outer ++ f.scopes }

def asMember (f : Found) : Found :=
  { f with isMethod := f.scopes.isEmpty || f.isMethod }

theorem qualname_under (scope : String) (f : Found) : (f.under [scope]).qualname = scope ++ "." ++ f.qualname :=
  String.intercalate_cons_of_ne_nil (List.append_ne_nil_of_right_ne_nil _ (List.cons_ne_nil _ _))

theorem candidate_under (scope filename source : String) (f : Found) :
    (f.under [scope]).candidate filename source = (f.candidate filename source).qualified scope := by
  simp only [candidate, Candidate.qualified, qualname_under]
  rfl

theorem candidate_asMember (filename source : String) (f : Found) :
    f.asMember.candidate filename source =
      if f.scopes = [] then (f.candidate filename source).asMethod else f.candidate filename source := by
  by_cases h : f.scopes = []
  · simp [candidate, asMember, Candidate.asMethod, qualname, h]
  · have hscoped : f.scopes.isEmpty = false := List.isEmpty_eq_false_iff.mpr h
    simp [candidate, asMember, qualname, h, hscoped]

end Found

section

variable (names : NameSet)

theorem blockFunctions_eq_map {scopes scopes' : List String} {inClass inClass' : Bool} {f : Found → Found} {b : List Stmt}
    (h : ∀ s ∈ b, s.contractFunctions names scopes inClass = (s.contractFunctions names scopes' inClass').map f) :
    blockFunctions names scopes inClass b = (blockFunctions names scopes' inClass' b).map f := by
  rw [blockFunctions_eq, blockFunctions_eq, List.map_flatMap]
  exact List.flatMap_congr h

theorem ownContract?_under (outer scopes : List String) (inClass : Bool) (s : Stmt) :
    s.ownContract? names (outer ++ scopes) inClass = (s.ownContract? names scopes inClass).map (Found.under outer) := by
  cases s with
  | function header body =>
    rw [Stmt.ownContract?, Stmt.ownContract?, Option.map_map]
    rfl
  | _ => rfl

theorem contractFunctions_under (outer : List String) (s : Stmt) : ∀ scopes inClass,
    s.contractFunctions names (outer ++ scopes) inClass =
      (s.contractFunctions names scopes inClass).map (Found.under outer) := by
  induction s using Stmt.inductionOnChildren with
  | h s ih =>
    intro scopes inClass
    have hbelow : scopesBelow (outer ++ scopes) (some s) = outer ++ scopesBelow scopes (some s) := List.append_assoc ..
    rw [contractFunctions_eq, contractFunctions_eq names scopes, hbelow, ← blockFunctions_eq, ← blockFunctions_eq,
      blockFunctions_eq_map names fun c hc => ih c hc _ _, ownContract?_under, Option.toList_map, List.map_append]

theorem blockFunctions_under (outer scopes : List String) (inClass : Bool) (b : List Stmt) :
    blockFunctions names (outer ++ scopes) inClass b = (blockFunctions names scopes inClass b).map (Found.under outer) :=
  blockFunctions_eq_map names fun s _ => contractFunctions_under names outer s scopes inClass

theorem contractFunctions_of_scope {s : Stmt} {label : String} (h : s.scopeLabel? = some label) (inClass : Bool) :
    s.contractFunctions names [] inClass = (s.ownContract? names [] inClass).toList ++
      (blockFunctions names [] s.isClass s.children).map (Found.under [label]) := by
  have hscopes : scopesBelow [] (some s) = [label] ++ [] := by simp [scopesBelow, h]
  have hclass : inClassBelow inClass (some s) = s.isClass := by simp [inClassBelow, Stmt.isScope, h, Option.filter]
  rw [contractFunctions_eq, hscopes, hclass, ← blockFunctions_eq, blockFunctions_under]

theorem contractFunctions_of_not_scope {s : Stmt} (h : s.isScope = false) (inClass : Bool) :
    s.contractFunctions names [] inClass = blockFunctions names [] inClass s.children := by
  cases s with
  | function header body => cases h
  | classDef header body => cases h
  | _ =>
    simp [Stmt.contractFunctions, Stmt.children, blockFunctions_eq, handlerFunctions_eq, caseFunctions_eq]

theorem ownContract?_inClass (s : Stmt) :
    s.ownContract? names [] true = (s.ownContract? names [] false).map Found.asMember := by
  cases s with
  | function header body =>
    rw [Stmt.ownContract?, Stmt.ownContract?, Option.map_map]
    rfl
  | _ => rfl

theorem contractFunctions_inClass (s : Stmt) :
    s.contractFunctions names [] true = (s.contractFunctions names [] false).map Found.asMember := by
  induction s using Stmt.inductionOnChildren with
  | h s ih =>
    cases hlabel : s.scopeLabel? with
    | some label =>
      rw [contractFunctions_of_scope names hlabel, contractFunctions_of_scope names hlabel, List.map_append,
        List.map_map, ownContract?_inClass, Option.toList_map]
      rfl
    | none =>
      have hscope : s.isScope = false := by rw [Stmt.isScope, hlabel, Option.isSome_none]
      rw [contractFunctions_of_not_scope names hscope, contractFunctions_of_not_scope names hscope]
      exact blockFunctions_eq_map names ih

theorem blockFunctions_inClass (b : List Stmt) :
    blockFunctions names [] true b = (blockFunctions names [] false b).map Found.asMember :=
  blockFunctions_eq_map names fun s _ => contractFunctions_inClass names s

theorem findContracts_append (a b : List Stmt) :
    findContracts names (a ++ b) = findContracts names a ++ findContracts names b := by
  simp only [findContracts, blockFunctions_eq, List.flatMap_append]

theorem findContracts_singleton (s : Stmt) : findContracts names [s] = s.contractFunctions names [] false :=
  List.append_nil _

theorem findContracts_classDef (header : ClassHeader) (a : List Stmt) :
    findContracts names [.classDef header a] =
      (findContracts names a).map fun f => f.asMember.under [header.name] := by
  have hclass : (Stmt.classDef header a).scopeLabel? = some header.name := rfl
  rw [findContracts_singleton, contractFunctions_of_scope names hclass, Stmt.isClass, blockFunctions_inClass,
    List.map_map]
  rfl

theorem findContracts_function {header : Header} (h : header.contract? names = none) (a : List Stmt) :
    findContracts names [.function header a] =
      (findContracts names a).map (Found.under [header.name ++ ".<locals>"]) := by
  have hfunction : (Stmt.function header a).scopeLabel? = some (header.name ++ ".<locals>") := rfl
  rw [findContracts_singleton, contractFunctions_of_scope names hfunction, Stmt.ownContract?, h]
  rfl

end

theorem isScope_of_mem_scopesOn {look : Address → Option Stmt} {p q : Address} {s : Stmt} (h : (q, s) ∈ scopesOn look p) :
    s.isScope = true := by
  obtain ⟨q', -, hq⟩ := List.mem_filterMap.mp h
  obtain ⟨t, ht, heq⟩ := Option.map_eq_some_iff.mp hq
  cases heq
  exact (Option.filter_eq_some_iff.mp ht).2

theorem FoundAt.scopes_eq_nil_iff {names : NameSet} {module : List Stmt} {p : Address} {f : Found}
    (h : FoundAt names module p f) : f.scopes = [] ↔ scopesAround module p = [] := by
  rw [FoundIn.scopes h, List.nil_append, List.filterMap_eq_nil_iff, scopesAround]
  constructor
  · intro hlabels
    apply List.eq_nil_iff_forall_not_mem.mpr
    rintro ⟨q, s⟩ hs
    have hscope := isScope_of_mem_scopesOn hs
    rw [Stmt.isScope, hlabels _ hs] at hscope
    cases hscope
  · intro hnone
    simp [hnone]

theorem discovery_follows_nesting (names : NameSet) (filename source : String) (a : List Stmt) :
    (∀ b, discovered names filename source (a ++ b) =
      discovered names filename source a ++ discovered names filename source b) ∧
    (∃ placed : List (Address × Found), placed.map Prod.snd = findContracts names a ∧ (placed.map Prod.fst).Nodup ∧
      (∀ p f, (p, f) ∈ placed ↔ FoundAt names a p f) ∧
      ∀ header, discovered names filename source [.classDef header a] = placed.map fun x =>
        Candidate.qualified header.name
          (if scopesAround a x.1 = [] then (x.2.candidate filename source).asMethod
          else x.2.candidate filename source)) ∧
    (∀ header, header.contract? names = none →
      discovered names filename source [.function header a] =
        (discovered names filename source a).map (Candidate.qualified (header.name ++ ".<locals>"))) ∧
    ∀ before after s, Stmt.Wraps a before after s →
      discovered names filename source [s] = discovered names filename source before ++
        discovered names filename source a ++ discovered names filename source after := by
  unfold discovered
  refine ⟨fun b => ?_, ?_, fun header hcontract => ?_, fun before after s hs => ?_⟩
  · rw [findContracts_append, List.map_append]
  · obtain ⟨placed, hplaced, hnodup, hmem⟩ := findContracts_lists names a
    refine ⟨placed, hplaced, hnodup, hmem, fun header => ?_⟩
    rw [findContracts_classDef, ← hplaced, List.map_map, List.map_map]
    apply List.map_congr_left
    rintro ⟨p, f⟩ hf
    have hdirect : scopesAround a p = [] ↔ f.scopes = [] := ((hmem p f).mp hf).scopes_eq_nil_iff.symm
    simp only [Function.comp_apply, Found.candidate_under, Found.candidate_asMember, hdirect]
  · rw [findContracts_function names hcontract, List.map_map, List.map_map]
    apply List.map_congr_left
    intro f _
    exact Found.candidate_under _ filename source f
  · rw [findContracts_singleton, contractFunctions_of_not_scope names hs.isScope_eq_false, hs.children_eq,
      ← List.map_append, ← List.map_append, ← findContracts_append, ← findContracts_append]
    rfl

def findStmt : Stmt :=
  .function { (Function.plain "find" ["self", "key"] []).header with
    decorators := [.call (.name "contract") [.literal (.text "!null -> !null")] []] } []

def buildHeader : Header :=
  (Function.plain "build" [] []).header

theorem discovery_follows_nesting_build :
    buildHeader.contract? defaultNames = none ∧
    (Stmt.ifElse 2 (.name "debug") [.pass] [findStmt]).Wraps [findStmt] [.pass] [] ∧
    discovered defaultNames "m.py" "" [.ifElse 2 (.name "debug") [.pass] [findStmt]] =
      discovered defaultNames "m.py" "" [findStmt] ∧
    (discovered defaultNames "m.py" "" [.function buildHeader [findStmt]]).map
      (fun c => (c.subject.qualname, c.subject.parameters)) = [("build.<locals>.find", ["self", "key"])] := by
  have hcontract : buildHeader.contract? defaultNames = none := rfl
  have hwraps : (Stmt.ifElse 2 (.name "debug") [.pass] [findStmt]).Wraps [findStmt] [.pass] [] := .ifElse
  obtain ⟨-, -, hfunction, hwrapped⟩ := discovery_follows_nesting defaultNames "m.py" "" [findStmt]
  refine ⟨hcontract, hwraps, (hwrapped _ _ _ hwraps).trans (List.append_nil _), ?_⟩
  rw [hfunction _ hcontract]
  decide +kernel

end NullContract
