import NullContract.Flow.Exec
import NullContract.Guard.Site
import NullContract.Proofs.Nested
import NullContract.Proofs.Rounds
import NullContract.Proofs.SyntaxInduction

namespace NullContract

section

variable {b : List Stmt} {hs : List Handler} {cs : List Case}

theorem length_returned_execBlock
    (h : ∀ s ∈ b, ∀ state guards, (s.exec state).returned.length = (s.sites guards).length)
    (state : State) (guards : List Guard) : (execBlock b state).returned.length = (sitesOfBlock b guards).length := by
  induction b generalizing state with
  | nil => rfl
  | cons s rest ih =>
    have hs := h s (by simp) state guards
    have hrest := ih (fun t ht => h t (List.mem_cons_of_mem _ ht)) (s.exec state).next
    simp [execBlock, sitesOfBlock, Outcome.cons, Outcome.followedBy, Outcome.merge, hs, hrest]

theorem length_returned_execHandlers
    (h : ∀ c ∈ hs, ∀ s ∈ c.body, ∀ state guards, (s.exec state).returned.length = (s.sites guards).length)
    (state : State) (guards : List Guard) :
    (execHandlers hs state).returned.length = (sitesOfHandlers hs guards).length := by
  induction hs with
  | nil => rfl
  | cons c rest ih =>
    obtain ⟨forGroups, kind, name, body⟩ := c
    have hbody := length_returned_execBlock (h _ (List.mem_cons_self ..))
    have hrest := ih (fun t ht => h t (List.mem_cons_of_mem _ ht))
    simp only [Handler.body_mk] at hbody
    simp [execHandlers, sitesOfHandlers, Outcome.merge, hbody _ guards, hrest]

theorem length_returned_execCases (subject : Expr)
    (h : ∀ c ∈ cs, ∀ s ∈ c.body, ∀ state guards, (s.exec state).returned.length = (s.sites guards).length)
    (state : State) (guards : List Guard) :
    (execCases subject cs state).returned.length = (sitesOfCases cs guards).length := by
  induction cs with
  | nil => rfl
  | cons c rest ih =>
    obtain ⟨pattern, guard, body⟩ := c
    have hbody := length_returned_execBlock (h _ (List.mem_cons_self ..))
    have hrest := ih (fun t ht => h t (List.mem_cons_of_mem _ ht))
    simp only [Case.body_mk] at hbody
    simp [execCases, sitesOfCases, Outcome.merge, hbody _ guards, hrest]

end

theorem length_returned_exec (s : Stmt) (state : State) (guards : List Guard) :
    (s.exec state).returned.length = (s.sites guards).length := by
  induction s generalizing state guards with
  | forLoop isAsync target iter body orelse ihb iho =>
    have hlen := fun head : State => length_returned_execBlock ihb (head.map (target.bind .unknown)) guards
    have hloop := length_returned_iterate hlen
    have helse := fun state => length_returned_execBlock iho state guards
    simp [Stmt.exec, Stmt.sites, Outcome.afterLoop, hloop, helse]
  | whileLoop test body orelse ihb iho =>
    have hlen := fun head : State => length_returned_execBlock ihb (test.assume true head) guards
    have hloop := length_returned_iterate hlen
    have helse := fun state => length_returned_execBlock iho state guards
    simp [Stmt.exec, Stmt.sites, Outcome.afterLoop, hloop, helse]
  | ifElse line test body orelse ihb iho =>
    have hthen := fun state => length_returned_execBlock ihb state (guards ++ [⟨line, test, .yes⟩])
    have helse := fun state => length_returned_execBlock iho state (guards ++ [⟨line, test, .no⟩])
    simp [Stmt.exec, Stmt.sites, Outcome.merge, hthen, helse]
  | withBlock isAsync items body ih =>
    simpa only [Stmt.exec, Stmt.sites] using length_returned_execBlock ih _ guards
  | matchCases subject cases ih =>
    have hcases := length_returned_execCases subject ih state guards
    simp only [Stmt.exec, Stmt.sites]
    split <;> exact hcases
  | tryBlock body handlers orelse final ihb ihh iho ihf =>
    have hbody := fun state => length_returned_execBlock ihb state guards
    have hhandlers := fun state => length_returned_execHandlers ihh state guards
    have helse := fun state => length_returned_execBlock iho state guards
    have hfinal := fun state => length_returned_execBlock ihf state guards
    simp [Stmt.exec, Stmt.sites, Outcome.merge, Outcome.followedBy, hbody, hhandlers, helse, hfinal]
  | annAssign target hint value => cases value <;> rfl
  | _ => rfl

theorem length_returnStates (fn : Function) (entry : Env) : (fn.returnStates entry).length = fn.sites.length :=
  length_returned_execBlock (fun s _ => length_returned_exec s) (some entry) []

def Site.under (guards : List Guard) (site : Site) : Site :=
  { site with guards := guards ++ site.guards }

theorem under_append (guards guards' : List Guard) :
    Site.under (guards ++ guards') = Site.under guards ∘ Site.under guards' := by
  funext site
  simp [Site.under]

section

variable {b : List Stmt} {hs : List Handler} {cs : List Case}

theorem sitesOfBlock_under (h : ∀ s ∈ b, ∀ guards, s.sites guards = (s.sites []).map (Site.under guards))
    (guards : List Guard) : sitesOfBlock b guards = (sitesOfBlock b []).map (Site.under guards) := by
  induction b with
  | nil => rfl
  | cons s rest ih =>
    rw [List.forall_mem_cons] at h
    simp only [sitesOfBlock, List.map_append, h.1 guards, ih h.2]

theorem sitesOfHandlers_under
    (h : ∀ c ∈ hs, ∀ s ∈ c.body, ∀ guards, s.sites guards = (s.sites []).map (Site.under guards))
    (guards : List Guard) :
    sitesOfHandlers hs guards = (sitesOfHandlers hs []).map (Site.under guards) := by
  induction hs with
  | nil => rfl
  | cons c rest ih =>
    obtain ⟨forGroups, kind, name, body⟩ := c
    rw [List.forall_mem_cons, Handler.body_mk] at h
    simp only [sitesOfHandlers, List.map_append, sitesOfBlock_under h.1 guards, ih h.2]

theorem sitesOfCases_under
    (h : ∀ c ∈ cs, ∀ s ∈ c.body, ∀ guards, s.sites guards = (s.sites []).map (Site.under guards))
    (guards : List Guard) :
    sitesOfCases cs guards = (sitesOfCases cs []).map (Site.under guards) := by
  induction cs with
  | nil => rfl
  | cons c rest ih =>
    obtain ⟨pattern, guard, body⟩ := c
    rw [List.forall_mem_cons, Case.body_mk] at h
    simp only [sitesOfCases, List.map_append, sitesOfBlock_under h.1 guards, ih h.2]

end

theorem sites_under (s : Stmt) (guards : List Guard) : s.sites guards = (s.sites []).map (Site.under guards) := by
  induction s generalizing guards with
  | ret position value => simp [Stmt.sites, Site.under]
  | forLoop isAsync target iter body orelse ihb iho =>
    simp only [Stmt.sites, List.map_append, sitesOfBlock_under ihb guards, sitesOfBlock_under iho guards]
  | whileLoop test body orelse ihb iho =>
    simp only [Stmt.sites, List.map_append, sitesOfBlock_under ihb guards, sitesOfBlock_under iho guards]
  | ifElse line test body orelse ihb iho =>
    simp only [Stmt.sites, List.nil_append, List.map_append, sitesOfBlock_under ihb (guards ++ _),
      sitesOfBlock_under iho (guards ++ _), sitesOfBlock_under ihb [_], sitesOfBlock_under iho [_], List.map_map,
      under_append]
  | withBlock isAsync items body ih => simp only [Stmt.sites, sitesOfBlock_under ih guards]
  | matchCases subject cases ih => simp only [Stmt.sites, sitesOfCases_under ih guards]
  | tryBlock body handlers orelse final ihb ihh iho ihf =>
    simp only [Stmt.sites, List.map_append, sitesOfBlock_under ihb guards, sitesOfHandlers_under ihh guards,
      sitesOfBlock_under iho guards, sitesOfBlock_under ihf guards]
  | _ => rfl

section

variable {P : Site → Prop} {guards : List Guard}

theorem forall_mem_sitesOfBlock {b : List Stmt} (h : ∀ s ∈ b, ∀ site ∈ s.sites guards, P site) :
    ∀ site ∈ sitesOfBlock b guards, P site := by
  induction b with
  | nil => simp [sitesOfBlock]
  | cons s rest ih =>
    obtain ⟨hs, hrest⟩ := List.forall_mem_cons.mp h
    exact List.forall_mem_append.mpr ⟨hs, ih hrest⟩

theorem forall_mem_sitesOfHandlers {hs : List Handler} (h : ∀ c ∈ hs, ∀ s ∈ c.body, ∀ site ∈ s.sites guards, P site) :
    ∀ site ∈ sitesOfHandlers hs guards, P site := by
  induction hs with
  | nil => simp [sitesOfHandlers]
  | cons c rest ih =>
    obtain ⟨hc, hrest⟩ := List.forall_mem_cons.mp h
    obtain ⟨forGroups, kind, name, body⟩ := c
    exact List.forall_mem_append.mpr ⟨forall_mem_sitesOfBlock hc, ih hrest⟩

theorem forall_mem_sitesOfCases {cs : List Case} (h : ∀ c ∈ cs, ∀ s ∈ c.body, ∀ site ∈ s.sites guards, P site) :
    ∀ site ∈ sitesOfCases cs guards, P site := by
  induction cs with
  | nil => simp [sitesOfCases]
  | cons c rest ih =>
    obtain ⟨hc, hrest⟩ := List.forall_mem_cons.mp h
    obtain ⟨pattern, guard, body⟩ := c
    exact List.forall_mem_append.mpr ⟨forall_mem_sitesOfBlock hc, ih hrest⟩

end

theorem forall_mem_sites {Q : Stmt → Prop} {s : Stmt} (h : ∀ t ∈ s.nested, Q t) (guards : List Guard) :
    ∀ site ∈ s.sites guards, Q (.ret site.position site.value) := by
  induction s generalizing guards with
  | ret position value => simpa [Stmt.sites] using h _ (mem_nested_self _)
  | forLoop isAsync target iter body orelse ihb iho =>
    obtain ⟨-, hb, ho⟩ := forall_mem_nested_forLoop.mp h
    exact List.forall_mem_append.mpr ⟨forall_mem_sitesOfBlock fun s hs => ihb s hs (hb s hs) guards,
      forall_mem_sitesOfBlock fun s hs => iho s hs (ho s hs) guards⟩
  | whileLoop test body orelse ihb iho =>
    obtain ⟨-, hb, ho⟩ := forall_mem_nested_whileLoop.mp h
    exact List.forall_mem_append.mpr ⟨forall_mem_sitesOfBlock fun s hs => ihb s hs (hb s hs) guards,
      forall_mem_sitesOfBlock fun s hs => iho s hs (ho s hs) guards⟩
  | ifElse line test body orelse ihb iho =>
    obtain ⟨-, hb, ho⟩ := forall_mem_nested_ifElse.mp h
    exact List.forall_mem_append.mpr ⟨forall_mem_sitesOfBlock fun s hs => ihb s hs (hb s hs) _,
      forall_mem_sitesOfBlock fun s hs => iho s hs (ho s hs) _⟩
  | withBlock isAsync items body ih =>
    obtain ⟨-, hb⟩ := forall_mem_nested_withBlock.mp h
    exact forall_mem_sitesOfBlock fun s hs => ih s hs (hb s hs) guards
  | matchCases subject cases ih =>
    obtain ⟨-, hc⟩ := forall_mem_nested_matchCases.mp h
    exact forall_mem_sitesOfCases fun c hmem s hs => ih c hmem s hs (hc c hmem s hs) guards
  | tryBlock body handlers orelse final ihb ihh iho ihf =>
    obtain ⟨-, hb, hh, ho, hf⟩ := forall_mem_nested_tryBlock.mp h
    refine List.forall_mem_append.mpr ⟨List.forall_mem_append.mpr ⟨?_, List.forall_mem_append.mpr ⟨?_, ?_⟩⟩, ?_⟩
    · exact forall_mem_sitesOfBlock fun s hs => ihb s hs (hb s hs) guards
    · exact forall_mem_sitesOfHandlers fun c hmem s hs => ihh c hmem s hs (hh c hmem s hs) guards
    · exact forall_mem_sitesOfBlock fun s hs => iho s hs (ho s hs) guards
    · exact forall_mem_sitesOfBlock fun s hs => ihf s hs (hf s hs) guards
  | _ => simp [Stmt.sites]

end NullContract
