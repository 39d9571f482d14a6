import NullContract.Proofs.Entry
import NullContract.Proofs.PathParts

namespace NullContract

namespace Path

def above (path : String) : List Place :=
  Place.through [] (parts path).dropLast

structure FitsFile (path : String) : Prop where
  noNul : path.toList.contains '\x00' = false
  size : path.utf8ByteSize ≤ FileTree.maxPathSize
  nameSize : ∀ name ∈ parts path, name.utf8ByteSize ≤ FileTree.maxNameSize
  noDirectory : wantsDirectory path = false

theorem endsInSlash_eq_false {path : String} (h : wantsDirectory path = false) : endsInSlash path = false := by
  rw [endsInSlash, decide_eq_false_iff_not]
  intro hends
  obtain ⟨start, hstart⟩ := List.getLast?_eq_some_iff.mp hends
  have hsplit : splitText '/' path = (pieces '/' start).map String.ofList ++ [""] := by
    rw [splitText, hstart, pieces_append_cons, List.map_append]
    rfl
  have hlength : 0 < (pieces '/' start).length := List.length_pos_of_ne_nil (pieces_ne_nil '/' start)
  rw [wantsDirectory, hsplit] at h
  simp [hlength] at h

end Path

namespace FileTree

theorem lookup_filter_ne {α β : Type} [BEq α] [LawfulBEq α] [DecidableEq α] {a b : α} (h : a ≠ b) (list : List (α × β)) :
    (list.filter (·.1 ≠ b)).lookup a = list.lookup a := by
  induction list with
  | nil => rfl
  | cons x list ih =>
    obtain ⟨key, value⟩ := x
    by_cases hkey : key = b
    · have hne : (a == key) = false := by simpa [hkey] using h
      rw [List.filter_cons_of_neg (by simp [hkey]), ih, List.lookup_cons, hne]
    · rw [List.filter_cons_of_pos (by simp [hkey]), List.lookup_cons, List.lookup_cons, ih]

section

variable {tree : FileTree} {place other : Place}

theorem entry?_put_self (h : tree.entry? place ≠ some .directory) (entry : Entry) :
    entry? (tree.put place entry) place = some entry := by
  unfold entry? at h ⊢
  split
  · next hfixed => exact absurd (if_pos hfixed) h
  · simp [put]

theorem entry?_put_of_ne (h : other ≠ place) (entry : Entry) :
    entry? (tree.put place entry) other = tree.entry? other := by
  unfold entry?
  split
  · rfl
  · have hkey : (other == place) = false := by simpa using h
    simp only [put, List.lookup_cons, hkey]
    exact lookup_filter_ne h tree.entries

end

inductive Change (written made : Prop) : Option Entry → Option Entry → Prop where
  | same (entry : Option Entry) : Change written made entry entry
  | write {old : Option Entry} (bytes : ByteArray) (hwritten : written) (hold : old ≠ some .directory) :
    Change written made old (some (.file bytes))
  | make (hmade : made) : Change written made none (some .directory)

namespace Change

variable {written made : Prop} {old between new : Option Entry} {bytes : ByteArray}

theorem trans (h : Change written made old between) (h' : Change written made between new) :
    Change written made old new := by
  cases h' with
  | same => exact h
  | write bytes hwritten hbetween =>
    refine .write bytes hwritten ?_
    rintro rfl
    cases h with
    | same => exact hbetween rfl
    | write _ _ hold => exact hold rfl
  | make hmade =>
    cases h with
    | same => exact .make hmade

theorem mono {written' made' : Prop} (h : Change written made old new) (hwritten : written → written')
    (hmade : made → made') : Change written' made' old new := by
  cases h with
  | same => exact .same _
  | write bytes h hold => exact .write bytes (hwritten h) hold
  | make h => exact .make (hmade h)

theorem directory (h : Change written made (some .directory) new) : new = some .directory := by
  cases h with
  | same => rfl
  | write _ _ hold => exact absurd rfl hold

theorem file (h : Change written made (some (.file bytes)) new) : ∃ bytes', new = some (.file bytes') := by
  cases h with
  | same => exact ⟨_, rfl⟩
  | write bytes' => exact ⟨bytes', rfl⟩

theorem file_of_not_written (h : Change written made (some (.file bytes)) new) (hnot : ¬ written) :
    new = some (.file bytes) := by
  cases h with
  | same => rfl
  | write _ hwritten => exact absurd hwritten hnot

theorem of_file (h : Change written made old (some (.file bytes))) (hnot : ¬ written) : old = some (.file bytes) := by
  cases h with
  | same => rfl
  | write _ hwritten => exact absurd hwritten hnot

theorem of_directory (h : Change written made old (some .directory)) (hnot : ¬ made) : old = some .directory := by
  cases h with
  | same => rfl
  | make hmade => exact absurd hmade hnot

end Change

def Grows (written made : Place → Prop) (before after : FileTree) : Prop :=
  ∀ place, Change (written place) (made place) ( before.entry? place) ( after.entry? place)

section

variable {written made : Place → Prop} {before between after tree : FileTree}

theorem Grows.refl (tree : FileTree) : tree.Grows written made tree :=
  fun _ => .same _

theorem Grows.trans (h : before.Grows written made between) (h' : between.Grows written made after) :
    before.Grows written made after :=
  fun place => (h place).trans (h' place)

theorem Grows.mono {written' made' : Place → Prop} (h : before.Grows written made after)
    (hwritten : ∀ place, written place → written' place) (hmade : ∀ place, made place → made' place) :
    before.Grows written' made' after :=
  fun place => (h place).mono (hwritten place) (hmade place)

theorem Grows.directory {place : Place} (h : before.Grows written made after)
    (hbefore : before.entry? place = some .directory) : after.entry? place = some .directory := by
  have hchange := h place
  rw [hbefore] at hchange
  exact hchange.directory

theorem grows_put_file {place : Place} (h : tree.entry? place ≠ some .directory) (bytes : ByteArray)
    (hplace : written place) : tree.Grows written made (tree.put place (.file bytes)) := by
  intro other
  by_cases hother : other = place
  · subst hother
    rw [entry?_put_self h]
    exact .write bytes hplace h
  · rw [entry?_put_of_ne hother]
    exact .same _

theorem grows_put_directory {place : Place} (h : tree.entry? place = none) (hplace : made place) :
    tree.Grows written made (tree.put place .directory) := by
  intro other
  by_cases hother : other = place
  · subst hother
    rw [entry?_put_self (by simp [h]), h]
    exact .make hplace
  · rw [entry?_put_of_ne hother]
    exact .same _

end

section MakingDirectories

variable {after tree : FileTree} {place : Place} {names : List String}

theorem makeDirectories_eq_ok (written : Place → Prop) (h : tree.makeDirectories place names = .ok after) :
    tree.Grows written (· ∈ Place.through place names) after ∧
      ∀ other ∈ Place.through place names, after.entry? other = some .directory := by
  induction names generalizing tree place with
  | nil =>
    cases h
    exact ⟨.refl _, by simp [Place.through]⟩
  | cons name rest ih =>
    have hfirst : Place.step place name ∈ Place.through place (name :: rest) := List.mem_cons_self
    have hrest : ∀ other, other ∈ Place.through (Place.step place name) rest →
        other ∈ Place.through place (name :: rest) := fun _ => List.mem_cons_of_mem _
    rw [makeDirectories] at h
    split at h
    · cases h
    · split at h
      · next hthere =>
        obtain ⟨hgrows, hmade⟩ := ih h
        have hgrows := hgrows.mono (fun _ => id) hrest
        exact ⟨hgrows, List.forall_mem_cons.mpr ⟨hgrows.directory hthere, hmade⟩⟩
      · cases h
      · next hnone =>
        obtain ⟨hgrows, hmade⟩ := ih h
        have hgrows := hgrows.mono (fun _ => id) hrest
        have hput : entry? (tree.put (Place.step place name) .directory) (Place.step place name) = some .directory :=
          entry?_put_self (by simp [hnone]) _
        exact ⟨(grows_put_directory hnone hfirst).trans hgrows,
          List.forall_mem_cons.mpr ⟨hgrows.directory hput, hmade⟩⟩

theorem exists_makeDirectories (hsize : ∀ name ∈ names, name.utf8ByteSize ≤ maxNameSize)
    (hfree : ∀ other ∈ Place.through place names, ∀ bytes, tree.entry? other ≠ some (.file bytes)) :
    ∃ after, tree.makeDirectories place names = .ok after := by
  induction names generalizing tree place with
  | nil => exact ⟨tree, rfl⟩
  | cons name rest ih =>
    obtain ⟨hname, hsize⟩ := List.forall_mem_cons.mp hsize
    obtain ⟨hnext, hfree⟩ := List.forall_mem_cons.mp hfree
    rw [makeDirectories, if_neg (by omega)]
    cases hentry : tree.entry? (Place.step place name) with
    | none =>
      refine ih hsize fun other hother bytes hfile => hfree other hother bytes ?_
      -- Making a directory leaves every file where it was.
      have hgrows : tree.Grows (fun _ => False) (fun _ => True) (tree.put (Place.step place name) .directory) :=
        grows_put_directory hentry trivial
      have hchange := hgrows other
      rw [hfile] at hchange
      exact hchange.of_file id
    | some entry =>
      cases entry with
      | file bytes => exact absurd hentry (hnext bytes)
      | directory => exact ih hsize hfree

theorem withParents_eq (tree : FileTree) (path : String) :
    tree.withParents path = tree.makeDirectories [] (Path.parts path).dropLast := by
  unfold withParents
  split
  · next names hparts =>
    rw [hparts]
    rfl
  · rfl

end MakingDirectories

section Following

variable {written made : Place → Prop} {before after tree : FileTree} {place other : Place} {names : List String}
  {path : String}

theorem follow_eq_ok (h : tree.follow place names = .ok other) :
    other = names.foldl Place.step place ∧ ∀ name ∈ names, name.utf8ByteSize ≤ maxNameSize := by
  induction names generalizing place with
  | nil =>
    cases h
    exact ⟨rfl, by simp⟩
  | cons name rest ih =>
    rw [follow] at h
    split at h
    · split at h
      · cases h
      · next hsize =>
        obtain ⟨hother, hsizes⟩ := ih h
        exact ⟨hother, List.forall_mem_cons.mpr ⟨by omega, hsizes⟩⟩
    · cases h
    · cases h

theorem follow_append_singleton {last : String} (hsize : ∀ name ∈ names ++ [last], name.utf8ByteSize ≤ maxNameSize)
    (hstart : tree.entry? place = some .directory)
    (hway : ∀ other ∈ Place.through place names, tree.entry? other = some .directory) :
    tree.follow place (names ++ [last]) = .ok ((names ++ [last]).foldl Place.step place) := by
  induction names generalizing place with
  | nil =>
    have hlast : last.utf8ByteSize ≤ maxNameSize := hsize last (by simp)
    rw [List.nil_append, follow, hstart]
    exact if_neg (by omega)
  | cons name rest ih =>
    obtain ⟨hname, hsize⟩ := List.forall_mem_cons.mp hsize
    obtain ⟨hnext, hway⟩ := List.forall_mem_cons.mp hway
    rw [List.cons_append, follow, hstart]
    simp only [if_neg (show ¬ name.utf8ByteSize > maxNameSize by omega)]
    exact ih hsize hnext hway

theorem Grows.follow (hgrows : before.Grows written made after) (h : before.follow place names = .ok other) :
    after.follow place names = .ok other := by
  induction names generalizing place with
  | nil => exact h
  | cons name rest ih =>
    rw [FileTree.follow] at h ⊢
    split at h
    · next hdirectory =>
      rw [hgrows.directory hdirectory]
      split at h
      · cases h
      · next hsize =>
        rw [if_neg hsize]
        exact ih h
    · cases h
    · cases h

theorem locate_eq (tree : FileTree) (path : String) :
    tree.locate path =
      if path.toList.contains '\x00' then .error .nulCharacter
      else if path.utf8ByteSize > maxPathSize then .error .nameTooLong
      else tree.follow [] (Path.parts path) := by
  unfold locate
  split
  · rfl
  · split
    · rfl
    · split
      · next names hparts =>
        rw [hparts]
        rfl
      · rfl

theorem locate_eq_ok (h : tree.locate path = .ok place) :
    path.utf8ByteSize ≤ maxPathSize ∧ tree.follow [] (Path.parts path) = .ok place ∧ place = Path.place path := by
  rw [locate_eq] at h
  split at h
  · cases h
  · split at h
    · cases h
    · next hsize => exact ⟨by omega, h, (follow_eq_ok h).1⟩

theorem follow_of_contains (h : tree.contains path = .ok true) :
    tree.follow [] (Path.parts path) = .ok (Path.place path) ∧ ∃ entry, tree.entry? (Path.place path) = some entry := by
  unfold contains at h
  split at h
  · next place hlocate =>
    obtain ⟨-, hfollow, hplace⟩ := locate_eq_ok hlocate
    rw [Path.place, Path.parts_text_parts] at hplace
    rw [Path.parts_text_parts] at hfollow
    subst hplace
    exact ⟨hfollow, Option.isSome_iff_exists.mp (Except.ok.inj h)⟩
  · cases h
  · cases h

theorem Grows.textAt (hgrows : before.Grows written made after) (hthere : before.contains path = .ok true)
    (hapart : ¬ written (Path.place path)) : after.textAt path = before.textAt path := by
  obtain ⟨hfollow, entry, hentry⟩ := follow_of_contains hthere
  have hlocate : after.locate path = before.locate path := by
    rw [locate_eq, locate_eq, hfollow, hgrows.follow hfollow]
  have hsame : after.entry? (Path.place path) = before.entry? (Path.place path) := by
    have hchange := hgrows (Path.place path)
    rw [hentry] at hchange ⊢
    cases entry with
    | directory => exact hchange.directory
    | file bytes => exact hchange.file_of_not_written hapart
  have hbytes : after.bytesAt path = before.bytesAt path := by
    unfold bytesAt
    rw [hlocate]
    cases hplace : before.locate path with
    | error e => rfl
    | ok place =>
      rw [(locate_eq_ok hplace).2.2]
      simp only [bind, Except.bind, hsame]
  unfold FileTree.textAt
  rw [hbytes]

end Following

structure HasRoom (tree : FileTree) (path : String) : Prop where
  way : ∀ place ∈ Path.above path, ∀ bytes, tree.entry? place ≠ some (.file bytes)
  free : tree.entry? (Path.place path) ≠ some .directory
  apart : Path.place path ∉ Path.above path

section Writing

variable {written made : Place → Prop} {before after tree : FileTree} {place : Place} {path : String} {bytes : ByteArray}

theorem HasRoom.of_grows (hgrows : before.Grows written made after) (h : after.HasRoom path) : before.HasRoom path := by
  refine ⟨fun place hplace bytes hfile => ?_, fun hdirectory => h.free (hgrows.directory hdirectory), h.apart⟩
  have hchange := hgrows place
  rw [hfile] at hchange
  obtain ⟨bytes', hfile'⟩ := hchange.file
  exact h.way place hplace bytes' hfile'

theorem HasRoom.of_grown (hgrows : before.Grows written made after) (h : before.HasRoom path)
    (hwritten : ∀ place ∈ Path.above path, ¬ written place) (hmade : ¬ made (Path.place path)) :
    after.HasRoom path := by
  refine ⟨fun place hplace bytes hfile => ?_, fun hdirectory => ?_, h.apart⟩
  · have hchange := hgrows place
    rw [hfile] at hchange
    exact h.way place hplace bytes (hchange.of_file (hwritten place hplace))
  · have hchange := hgrows (Path.place path)
    rw [hdirectory] at hchange
    exact h.free (hchange.of_directory hmade)

theorem putFile_eq_ok_iff : tree.putFile path place bytes = .ok after ↔
    tree.entry? place ≠ some .directory ∧ Path.wantsDirectory path = false ∧ after = tree.put place (.file bytes) := by
  unfold putFile
  by_cases hwants : Path.wantsDirectory path = true
  · cases tree.entry? place with
    | none => cases Path.endsInSlash path <;> simp [hwants]
    | some entry => cases entry <;> simp [hwants]
  · rw [Bool.not_eq_true] at hwants
    have hslash := Path.endsInSlash_eq_false hwants
    cases tree.entry? place with
    | none => simp [hwants, hslash, eq_comm]
    | some entry => cases entry <;> simp [hwants, eq_comm]

theorem write_eq_ok (h : tree.write path bytes = .ok (after, place)) :
    place = Path.place path ∧ Path.FitsFile path ∧ tree.HasRoom path ∧
      tree.Grows (· = place) (· ∈ Path.above path) after ∧ after.entry? place = some (.file bytes) := by
  unfold write at h
  by_cases hnul : path.toList.contains '\x00' = true
  · rw [if_pos hnul] at h
    cases h
  · rw [if_neg hnul] at h
    obtain ⟨between, hbetween, h⟩ := bind_eq_ok.mp h
    obtain ⟨target, htarget, h⟩ := bind_eq_ok.mp h
    obtain ⟨new, hnew, h⟩ := bind_eq_ok.mp h
    cases h
    rw [withParents_eq] at hbetween
    obtain ⟨hgrows, hmade⟩ := makeDirectories_eq_ok (· = place) hbetween
    obtain ⟨hsize, hfollow, rfl⟩ := locate_eq_ok htarget
    obtain ⟨hfree, hwants, rfl⟩ := putFile_eq_ok_iff.mp hnew
    have hroom : between.HasRoom path :=
      ⟨fun place hplace bytes => by simp [hmade place hplace], hfree, fun hplace => hfree (hmade _ hplace)⟩
    exact ⟨rfl, ⟨by simpa using hnul, hsize, (follow_eq_ok hfollow).2, hwants⟩, hroom.of_grows hgrows,
      hgrows.trans (grows_put_file hfree bytes rfl), entry?_put_self hfree _⟩

theorem exists_write (hpath : Path.FitsFile path) (hroom : tree.HasRoom path) (bytes : ByteArray) :
    ∃ after, tree.write path bytes = .ok (after, Path.place path) := by
  have hparts : Path.parts path ≠ [] := by
    intro hparts
    apply hroom.free
    rw [Path.place, hparts]
    rfl
  have hsplit := List.dropLast_append_getLast hparts
  obtain ⟨between, hbetween⟩ : ∃ between, tree.makeDirectories [] (Path.parts path).dropLast = .ok between :=
    exists_makeDirectories (fun name hname => hpath.nameSize name (List.dropLast_subset _ hname)) hroom.way
  obtain ⟨hgrows, hmade⟩ := makeDirectories_eq_ok (fun _ => False) hbetween
  have hlocate : between.locate path = .ok (Path.place path) := by
    rw [locate_eq, if_neg (by simpa using hpath.noNul), if_neg (by have := hpath.size; omega), Path.place, ← hsplit]
    refine follow_append_singleton (fun name hname => hpath.nameSize name ?_) rfl hmade
    rwa [hsplit] at hname
  have hput : between.putFile path (Path.place path) bytes = .ok (between.put (Path.place path) (.file bytes)) :=
    putFile_eq_ok_iff.mpr ⟨(hroom.of_grown hgrows (by simp) hroom.apart).free, hpath.noDirectory, rfl⟩
  refine ⟨between.put (Path.place path) (.file bytes), ?_⟩
  unfold write
  rw [if_neg (by simpa using hpath.noNul), withParents_eq, hbetween]
  simp only [bind, Except.bind, hlocate, hput]
  rfl

end Writing

end FileTree

end NullContract
