import NullContract.Proofs.Entry
import NullContract.Proofs.Addresses
import NullContract.Proofs.Verdicts
import NullContract.Summary

namespace NullContract

section

variable (scopes : List String) (inClass : Bool) (around : Option Stmt)

def scopesBelow : List String :=
  scopes ++ (around.bind Stmt.scopeLabel?).toList

def inClassBelow : Bool :=
  ((around.filter Stmt.isScope).map Stmt.isClass).getD inClass

end

/-- A function with a contract stands at the address. It is known by the names of the scopes around it, those that are
given and those on the way to the address, and it is a method if the innermost of them is a class. -/
structure FoundIn (names : NameSet) (scopes : List String) (inClass : Bool) (look : Address → Option Stmt) (p : Address)
    (f : Found) : Prop where
  stands : look p = some (.function f.function.header f.function.body)
  declares : f.function.header.contract? names = some f.contract
  scopes : f.scopes = scopes ++ (scopesOn look p).filterMap (·.2.scopeLabel?)
  isMethod : f.isMethod = ((scopesOn look p).getLast?.map (·.2.isClass)).getD inClass

def FoundAt (names : NameSet) (module : List Stmt) (p : Address) (f : Found) : Prop :=
  FoundIn names [] false (stmtAt module) p f

section

variable (names : NameSet) (scopes : List String) (inClass : Bool)

def Stmt.ownContract? : Stmt → Option Found
  | .function header body => (header.contract? names).map fun contract => ⟨⟨header, body⟩, contract, scopes, inClass⟩
  | _ => none

theorem blockFunctions_eq (b : List Stmt) :
    blockFunctions names scopes inClass b = b.flatMap (·.contractFunctions names scopes inClass) := by
  induction b with
  | nil => rfl
  | cons s rest ih => rw [blockFunctions, List.flatMap_cons, ih]

theorem handlerFunctions_eq (hs : List Handler) :
    handlerFunctions names scopes inClass hs =
      (hs.flatMap Handler.body).flatMap (·.contractFunctions names scopes inClass) := by
  induction hs with
  | nil => rfl
  | cons h rest ih =>
    obtain ⟨forGroups, kind, name, body⟩ := h
    rw [handlerFunctions, List.flatMap_cons, List.flatMap_append, ih, blockFunctions_eq, Handler.body_mk]

theorem caseFunctions_eq (cs : List Case) :
    caseFunctions names scopes inClass cs =
      (cs.flatMap Case.body).flatMap (·.contractFunctions names scopes inClass) := by
  induction cs with
  | nil => rfl
  | cons c rest ih =>
    obtain ⟨pattern, guard, body⟩ := c
    rw [caseFunctions, List.flatMap_cons, List.flatMap_append, ih, blockFunctions_eq, Case.body_mk]

theorem contractFunctions_eq (s : Stmt) :
    s.contractFunctions names scopes inClass = (s.ownContract? names scopes inClass).toList ++
      s.children.flatMap (·.contractFunctions names (scopesBelow scopes (some s)) (inClassBelow inClass (some s))) := by
  cases s <;>
    simp [Stmt.contractFunctions, Stmt.ownContract?, Stmt.children, blockFunctions_eq, handlerFunctions_eq,
      caseFunctions_eq, scopesBelow, inClassBelow, Stmt.scopeLabel?, Stmt.isScope, Stmt.isClass, Option.filter]

end

section

variable {names : NameSet} {scopes : List String} {inClass : Bool} {look : Address → Option Stmt} {b : List Stmt}

theorem labels_cons (look : Address → Option Stmt) (i : Nat) (rest : Address) :
    (scopesOn look (i :: rest)).filterMap (·.2.scopeLabel?) = ((look []).bind Stmt.scopeLabel?).toList ++
      (scopesOn (fun q => look (i :: q)) rest).filterMap (·.2.scopeLabel?) := by
  rw [scopesOn_cons, List.filterMap_append, List.filterMap_map]
  congr 1
  cases look [] with
  | none => rfl
  | some s => cases s <;> rfl

theorem inClass_cons (look : Address → Option Stmt) (i : Nat) (rest : Address) :
    ((scopesOn look (i :: rest)).getLast?.map (·.2.isClass)).getD inClass =
      ((scopesOn (fun q => look (i :: q)) rest).getLast?.map (·.2.isClass)).getD (inClassBelow inClass (look [])) := by
  rw [scopesOn_cons, List.getLast?_append, List.getLast?_map]
  cases (scopesOn (fun q => look (i :: q)) rest).getLast? with
  | some scope => rfl
  | none =>
    unfold inClassBelow
    cases (look []).filter Stmt.isScope <;> rfl

theorem foundIn_cons {i : Nat} {rest : Address} {f : Found} :
    FoundIn names scopes inClass look (i :: rest) f ↔
      FoundIn names (scopesBelow scopes (look [])) (inClassBelow inClass (look [])) (fun q => look (i :: q)) rest
        f := by
  constructor
  · rintro ⟨hstands, hdeclares, hscopes, hmethod⟩
    refine ⟨hstands, hdeclares, ?_, hmethod.trans (inClass_cons look i rest)⟩
    rw [hscopes, labels_cons, scopesBelow, List.append_assoc]
  · rintro ⟨hstands, hdeclares, hscopes, hmethod⟩
    refine ⟨hstands, hdeclares, ?_, hmethod.trans (inClass_cons look i rest).symm⟩
    rw [hscopes, labels_cons, scopesBelow, List.append_assoc]

theorem foundIn_block (hlook : ∀ i q, look (i :: q) = b[i]?.bind fun c => c.part? q) (i : Nat) (rest : Address)
    (f : Found) :
    FoundIn names scopes inClass look (i :: rest) f ↔
      InBlock (fun c => FoundIn names (scopesBelow scopes (look [])) (inClassBelow inClass (look [])) c.part?) b
        (i :: rest) f := by
  rw [foundIn_cons, funext (hlook i)]
  constructor
  · intro h
    obtain ⟨c, hc, -⟩ := Option.bind_eq_some_iff.mp h.stands
    refine ⟨i, rest, c, rfl, hc, ?_⟩
    simpa only [hc, Option.bind_some] using h
  · rintro ⟨_, _, c, heq, hc, h⟩
    cases heq
    simpa only [hc, Option.bind_some] using h

theorem contractFunctions_lists (names : NameSet) (s : Stmt) : ∀ scopes inClass,
    Lists (FoundIn names scopes inClass s.part?) (s.contractFunctions names scopes inClass) := by
  induction s using Stmt.inductionOnChildren with
  | h s ih =>
    intro scopes inClass
    rw [contractFunctions_eq]
    refine Lists.node _ (fun c hc => ih c hc _ _) (fun f => ?_) (foundIn_block fun _ _ => rfl)
    constructor
    · rintro ⟨hstands, hdeclares, hscopes, hmethod⟩
      obtain rfl : s = .function f.function.header f.function.body := Option.some.inj hstands
      have hscopes : f.scopes = scopes := by simpa using hscopes
      have hmethod : f.isMethod = inClass := by simpa using hmethod
      rw [Stmt.ownContract?, hdeclares, Option.map_some, ← hscopes, ← hmethod]
    · intro hown
      cases s with
      | function header body =>
        obtain ⟨contract, hcontract, rfl⟩ := Option.map_eq_some_iff.mp hown
        exact ⟨rfl, hcontract, by simp, by simp⟩
      | _ => cases hown

end

theorem findContracts_lists (names : NameSet) (module : List Stmt) :
    Lists (FoundAt names module) (findContracts names module) := by
  rw [findContracts, blockFunctions_eq]
  refine Lists.node none (fun s _ => contractFunctions_lists names s [] false) (fun f => ?_)
    (foundIn_block fun _ _ => rfl)
  constructor
  · intro h
    cases h.stands
  · intro h
    cases h

abbrev Returned := Position × Option Expr

def Site.returned (site : Site) : Returned :=
  (site.position, site.value)

def ReturnIn (look : Address → Option Stmt) (q : Address) (a : Returned) : Prop :=
  look q = some (.ret a.1 a.2) ∧ scopesOn look q = []

def Stmt.ownReturn? : Stmt → Option Returned
  | .ret position value => some (position, value)
  | _ => none

theorem map_returned_block (b : List Stmt) (guards : List Guard) :
    (sitesOfBlock b guards).map Site.returned = b.flatMap fun s => (s.sites []).map Site.returned := by
  induction b with
  | nil => rfl
  | cons s rest ih =>
    rw [sitesOfBlock, List.map_append, List.flatMap_cons, ih, sites_under s, List.map_map]
    rfl

theorem map_returned_handlers (hs : List Handler) (guards : List Guard) :
    (sitesOfHandlers hs guards).map Site.returned =
      (hs.flatMap Handler.body).flatMap fun s => (s.sites []).map Site.returned := by
  induction hs with
  | nil => rfl
  | cons h rest ih =>
    obtain ⟨forGroups, kind, name, body⟩ := h
    rw [sitesOfHandlers, List.map_append, List.flatMap_cons, List.flatMap_append, ih, map_returned_block,
      Handler.body_mk]

theorem map_returned_cases (cs : List Case) (guards : List Guard) :
    (sitesOfCases cs guards).map Site.returned =
      (cs.flatMap Case.body).flatMap fun s => (s.sites []).map Site.returned := by
  induction cs with
  | nil => rfl
  | cons c rest ih =>
    obtain ⟨pattern, guard, body⟩ := c
    rw [sitesOfCases, List.map_append, List.flatMap_cons, List.flatMap_append, ih, map_returned_block, Case.body_mk]

theorem map_returned_sites {s : Stmt} (h : s.isScope = false) :
    (s.sites []).map Site.returned =
      s.ownReturn?.toList ++ s.children.flatMap fun c => (c.sites []).map Site.returned := by
  cases s with
  | function header body => cases h
  | classDef header body => cases h
  | _ =>
    simp [Stmt.sites, Stmt.children, Stmt.ownReturn?, map_returned_block, map_returned_handlers, map_returned_cases,
      Site.returned]

theorem returnIn_block {look : Address → Option Stmt} {b : List Stmt}
    (hlook : ∀ i q, look (i :: q) = b[i]?.bind fun c => c.part? q) (hnil : (look []).filter Stmt.isScope = none)
    (i : Nat) (rest : Address) (a : Returned) :
    ReturnIn look (i :: rest) a ↔ InBlock (fun c => ReturnIn c.part?) b (i :: rest) a := by
  rw [ReturnIn, scopesOn_cons, hnil, funext (hlook i), hlook]
  constructor
  · rintro ⟨hret, hscopes⟩
    obtain ⟨c, hc, hret⟩ := Option.bind_eq_some_iff.mp hret
    refine ⟨i, rest, c, rfl, hc, hret, ?_⟩
    simpa [hc] using hscopes
  · rintro ⟨_, _, c, heq, hc, hret, hscopes⟩
    cases heq
    simp [hc, hret, hscopes]

theorem returnIn_nil {s : Stmt} {a : Returned} : ReturnIn s.part? [] a ↔ s.ownReturn? = some a := by
  constructor
  · rintro ⟨hret, -⟩
    rw [Option.some.inj hret]
    rfl
  · intro hown
    cases s with
    | ret position value =>
      cases hown
      exact ⟨rfl, rfl⟩
    | _ => cases hown

theorem not_returnIn_scope {s : Stmt} (h : s.isScope = true) (q : Address) (a : Returned) : ¬ ReturnIn s.part? q a := by
  rintro ⟨hret, hscopes⟩
  cases q with
  | nil =>
    rw [Option.some.inj hret] at h
    cases h
  | cons i rest =>
    rw [scopesOn_cons, filter_isScope_part? h] at hscopes
    cases hscopes

theorem sites_list (s : Stmt) : Lists (ReturnIn s.part?) ((s.sites []).map Site.returned) := by
  induction s using Stmt.inductionOnChildren with
  | h s ih =>
    cases hscope : s.isScope with
    | true =>
      have hsites : s.sites [] = [] := by cases s <;> first | rfl | cases hscope
      rw [hsites]
      exact Lists.nil (not_returnIn_scope hscope)
    | false =>
      have hown := filter_isScope_part?_eq_none hscope
      rw [map_returned_sites hscope]
      exact Lists.node _ ih (fun a => returnIn_nil) (returnIn_block (fun _ _ => rfl) hown)

theorem function_sites_list {names : NameSet} {module : List Stmt} {p : Address} {f : Found}
    (h : FoundAt names module p f) :
    Lists (fun r a => stmtAt module r = some (.ret a.1 a.2) ∧ innermostScope? module r = some p)
      (f.function.sites.map Site.returned) := by
  have hlook : ∀ {i c}, f.function.body[i]? = some c →
      (fun q => (Stmt.function f.function.header f.function.body).part? (i :: q)) = c.part? := by
    intro i c hc
    funext q
    rw [Stmt.part?, Stmt.children, hc, Option.bind_some]
  rw [Function.sites, map_returned_block]
  refine (Lists.block fun s _ => sites_list s).image (List.append_right_injective p) fun r a => ?_
  rw [innermostScope?_eq_some_iff h.stands rfl]
  constructor
  · rintro ⟨hret, i, rest, rfl, hscopes⟩
    rw [stmtAt_append h.stands] at hret
    obtain ⟨c, hc, hret⟩ := Option.bind_eq_some_iff.mp hret
    rw [hlook hc] at hscopes
    exact ⟨i :: rest, rfl, i, rest, c, rfl, hc, hret, hscopes⟩
  · rintro ⟨_, rfl, i, rest, c, rfl, hc, hret, hscopes⟩
    rw [← hlook hc] at hret hscopes
    exact ⟨(stmtAt_append h.stands _).trans hret, i, rest, rfl, hscopes⟩

theorem map_fst_verdicts {oracle : Oracle} {fn : Function} {assumed : Env} {verdicts : List (Site × Nullness)}
    (h : oracle.verdicts fn assumed = .ok verdicts) : verdicts.map Prod.fst = fn.sites := by
  have heach : List.Forall₂ (fun (x : Site × Nat) (y : Site × Nullness) => x.1 = y.1) fn.sites.zipIdx verdicts := by
    refine (forall₂_of_mapM_ok h).imp fun x y hy => ?_
    obtain ⟨v, -, hv⟩ := bind_eq_ok.mp hy
    cases hv
    rfl
  have hmap := List.forall₂_map_right_iff.mpr (List.forall₂_map_left_iff.mpr heach)
  rw [List.forall₂_eq_eq_eq, List.zipIdx_map_fst] at hmap
  exact hmap.symm

theorem violations_of_check {oracle : Oracle} {deep : Bool} {c : Candidate} {checked : Checked}
    (h : check oracle deep c = .ok checked) :
    ∃ (sites : List Site) (antecedent : List Constraint), sites.Sublist c.function.sites ∧
      checked.diagnostics.filter (·.kind = .violation) =
        sites.map fun site => Finding.diagnostic c.subject (.violation site.position antecedent) := by
  rcases deepCheckable_or_textual deep c with ⟨clause, hclause, hdeep⟩ | ⟨checked', hchecked, hkind⟩
  · have hdiagnostics := diagnostics_of_deepCheckable hclause hdeep oracle Site.reachableUnder
    obtain ⟨verdicts, hverdicts, hd⟩ := map_eq_ok.mp (hdiagnostics.symm.trans (congrArg _ h))
    dsimp only at hd
    rw [← hd, filter_violations]
    refine ⟨_, clause.antecedent, ?_, rfl⟩
    rw [← map_fst_verdicts hverdicts]
    exact List.filter_sublist.map Prod.fst
  · cases h.symm.trans (hchecked _ _)
    refine ⟨[], [], List.nil_sublist _, ?_⟩
    rw [List.map_nil, List.filter_eq_nil_iff]
    intro d hd
    simp [hkind d hd]

def Blames (names : NameSet) (filename : String) (module : List Stmt) (r : Address) (d : Diagnostic) : Prop :=
  ∃ p f position value, stmtAt module r = some (.ret position value) ∧ innermostScope? module r = some p ∧
    FoundAt names module p f ∧ d.location = ⟨filename, position⟩ ∧ d.function = some f.qualname ∧
    d.contract = some f.contract

section

variable {names : NameSet} {module : List Stmt} {oracle : Oracle} {deep : Bool} {filename source : String}

theorem blamed_of_check {p : Address} {f : Found} (hfound : FoundAt names module p f) {checked : Checked}
    (h : check oracle deep (f.candidate filename source) = .ok checked) :
    ∃ blamed : List (Address × Diagnostic), blamed.map Prod.snd = checked.diagnostics.filter (·.kind = .violation) ∧
      (blamed.map Prod.fst).Nodup ∧
      ∀ r d, (r, d) ∈ blamed → Blames names filename module r d ∧ innermostScope? module r = some p := by
  obtain ⟨placed, hitems, hnodup, hmem⟩ := function_sites_list hfound
  obtain ⟨sites, antecedent, hsublist, hviolations⟩ := violations_of_check h
  have hreturned := hsublist.map Site.returned
  rw [show (f.candidate filename source).function.sites.map Site.returned = placed.map Prod.snd from hitems.symm,
    List.sublist_map_iff] at hreturned
  obtain ⟨reported, hreported, hsites⟩ := hreturned
  let report := fun a : Returned => Finding.diagnostic (f.candidate filename source).subject (.violation a.1 antecedent)
  refine ⟨reported.map (Prod.map id report), ?_, ?_, fun r d hd => ?_⟩
  · have hreports := congrArg (List.map report) hsites
    rw [List.map_map, List.map_map] at hreports
    rw [hviolations, List.map_map]
    exact hreports.symm
  · rw [List.map_map]
    exact hnodup.sublist (hreported.map Prod.fst)
  · obtain ⟨⟨r, a⟩, ha, heq⟩ := List.mem_map.mp hd
    cases heq
    obtain ⟨hret, hinner⟩ := (hmem r a).mp (hreported.subset ha)
    exact ⟨⟨p, f, a.1, a.2, hret, hinner, hfound, rfl, rfl, rfl⟩, hinner⟩

theorem blamed_of_results {placed : List (Address × Found)} {results : List Result}
    (h : List.Forall₂ (fun x r => check oracle deep (x.2.candidate filename source) = .ok r.checked) placed results)
    (hnodup : (placed.map Prod.fst).Nodup) (hfound : ∀ x ∈ placed, FoundAt names module x.1 x.2) :
    ∃ blamed : List (Address × Diagnostic), blamed.map Prod.snd = results.flatMap Result.violations ∧
      (blamed.map Prod.fst).Nodup ∧ ∀ r d, (r, d) ∈ blamed →
        Blames names filename module r d ∧ ∃ p ∈ placed.map Prod.fst, innermostScope? module r = some p := by
  induction h with
  | nil => exact ⟨[], rfl, .nil, fun _ _ hd => absurd hd List.not_mem_nil⟩
  | @cons x result placed results hcheck _ ih =>
    rw [List.map_cons, List.nodup_cons] at hnodup
    rw [List.forall_mem_cons] at hfound
    obtain ⟨first, hfirst, hfirstNodup, hfirstBlames⟩ := blamed_of_check hfound.1 hcheck
    obtain ⟨rest, hrest, hrestNodup, hrestBlames⟩ := ih hnodup.2 hfound.2
    refine ⟨first ++ rest, ?_, ?_, fun r d hd => ?_⟩
    · rw [List.map_append, hfirst, hrest]
      rfl
    · rw [List.map_append]
      refine hfirstNodup.append hrestNodup fun r hr hr' => ?_
      obtain ⟨⟨r, d⟩, hd, rfl⟩ := List.mem_map.mp hr
      obtain ⟨⟨_, d'⟩, hd', rfl⟩ := List.mem_map.mp hr'
      -- A statement that both blame would have two innermost scopes.
      obtain ⟨-, p, hp, hinner⟩ := hrestBlames _ d' hd'
      have hx := (hfirstBlames _ d hd).2
      rw [hinner] at hx
      exact hnodup.1 (Option.some.inj hx ▸ hp)
    · rcases List.mem_append.mp hd with hd | hd
      · obtain ⟨hblames, hinner⟩ := hfirstBlames r d hd
        exact ⟨hblames, x.1, List.mem_cons_self, hinner⟩
      · obtain ⟨hblames, p, hp, hinner⟩ := hrestBlames r d hd
        exact ⟨hblames, p, List.mem_cons_of_mem _ hp, hinner⟩

end

theorem results_of_checkSource {settings : Settings} {filename source : String} {summary : Summary}
    (h : checkSource settings filename source = .ok summary) :
    ∃ module, Source.readModule source = .ok module ∧
      List.Forall₂ (fun f r =>
          check standardOracle settings.checkContracts (f.candidate filename source) = .ok r.checked)
        (findContracts settings.names module) summary.results := by
  obtain ⟨candidates, hdiscover, h⟩ := bind_eq_ok.mp h
  obtain ⟨results, hresults, h⟩ := bind_eq_ok.mp h
  cases h
  unfold discover at hdiscover
  split at hdiscover
  · cases hdiscover
  · obtain ⟨module, hmodule, hcandidates⟩ := bind_eq_ok.mp hdiscover
    cases hcandidates
    refine ⟨module, hmodule, ?_⟩
    have heach := forall₂_of_mapM_ok hresults
    rw [List.forall₂_map_left_iff] at heach
    refine heach.imp fun f r hr => ?_
    obtain ⟨checked, hchecked, hr⟩ := bind_eq_ok.mp hr
    cases hr
    exact hchecked

theorem returns_judged_once :
    (∀ names module, Lists (FoundAt names module) (findContracts names module)) ∧
    (∀ names module p f, FoundAt names module p f →
      Lists (fun r a => stmtAt module r = some (.ret a.1 a.2) ∧ innermostScope? module r = some p)
        (f.function.sites.map Site.returned)) ∧
    ∀ settings filename source summary, checkSource settings filename source = .ok summary →
      ∃ module, Source.readModule source = .ok module ∧ ∃ blamed : List (Address × Diagnostic),
        blamed.map Prod.snd = summary.diagnostics.filter (·.kind = .violation) ∧ (blamed.map Prod.fst).Nodup ∧
        ∀ r d, (r, d) ∈ blamed → Blames settings.names filename module r d := by
  refine ⟨findContracts_lists, fun _ _ _ _ => function_sites_list, fun settings filename source summary h => ?_⟩
  obtain ⟨module, hmodule, hresults⟩ := results_of_checkSource h
  obtain ⟨placed, hitems, hnodup, hmem⟩ := findContracts_lists settings.names module
  rw [← hitems, List.forall₂_map_left_iff] at hresults
  obtain ⟨blamed, hblamed, hdistinct, hblames⟩ :=
    blamed_of_results hresults hnodup fun x hx => (hmem x.1 x.2).mp hx
  refine ⟨module, hmodule, blamed, ?_, hdistinct, fun r d hd => (hblames r d hd).1⟩
  rw [hblamed, Summary.diagnostics, List.filter_flatMap]
  rfl

def nestedContracts : String :=
  "class K:\n @contract('!null -> !null')\n def f(self, x):\n  for y in x:\n" ++
    "   @contract('_ -> !null')\n   def g(z):\n    if z: return\n   if y: return\n"

theorem returns_judged_once_nestedContracts :
    ∃ summary module, checkSource { checkContracts := true } "k.py" nestedContracts = .ok summary ∧
      Source.readModule nestedContracts = .ok module ∧
      (∃ blamed : List (Address × Diagnostic), blamed.map (·.2.function) = [some "K.f", some "K.f.<locals>.g"] ∧
        blamed.map Prod.snd = summary.diagnostics.filter (·.kind = .violation) ∧ (blamed.map Prod.fst).Nodup ∧
        ∀ r d, (r, d) ∈ blamed → Blames ({ checkContracts := true } : Settings).names "k.py" module r d) ∧
      ∃ p f, FoundAt ({ checkContracts := true } : Settings).names module p f ∧ f.qualname = "K.f.<locals>.g" ∧
        Lists (fun r a => stmtAt module r = some (.ret a.1 a.2) ∧ innermostScope? module r = some p)
          (f.function.sites.map Site.returned) := by
  obtain ⟨-, hreturns, hchecks⟩ := returns_judged_once
  have hreports : (checkSource { checkContracts := true } "k.py" nestedContracts).map (fun summary =>
      (summary.diagnostics.filter (·.kind = .violation)).map (·.function)) =
        .ok [some "K.f", some "K.f.<locals>.g"] := by
    decide +kernel
  obtain ⟨summary, hsummary, hfunctions⟩ := map_eq_ok.mp hreports
  obtain ⟨module, hmodule, blamed, hblamed, hdistinct, hblames⟩ := hchecks _ _ _ _ hsummary
  rw [← hblamed, List.map_map] at hfunctions
  refine ⟨summary, module, hsummary, hmodule, ⟨blamed, hfunctions, hblamed, hdistinct, hblames⟩, ?_⟩
  have hg : some "K.f.<locals>.g" ∈ blamed.map ((·.function) ∘ Prod.snd) := by
    rw [hfunctions]
    simp
  obtain ⟨⟨r, d⟩, hd, hname⟩ := List.mem_map.mp hg
  obtain ⟨p, f, _, _, -, -, hf, -, hfunction, -⟩ := hblames r d hd
  exact ⟨p, f, hf, Option.some.inj (hfunction.symm.trans hname), hreturns _ _ p f hf⟩

end NullContract
