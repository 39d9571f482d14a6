import Mathlib.Data.List.TakeDrop
import NullContract.FileTree
import NullContract.Proofs.TextParts

namespace NullContract

theorem pieces_append_cons {α : Type} [DecidableEq α] (sep : α) (xs ys : List α) :
    pieces sep (xs ++ sep :: ys) = pieces sep xs ++ pieces sep ys := by
  induction xs with
  | nil => simp [pieces]
  | cons x xs ih =>
    rw [List.cons_append, pieces, pieces, ih]
    split
    · rfl
    · cases hp : pieces sep xs with
      | nil => exact absurd hp (pieces_ne_nil sep xs)
      | cons piece rest => rfl

namespace Path

structure IsName (name : String) : Prop where
  nonempty : name ≠ ""
  moves : name ≠ "."
  whole : '/' ∉ name.toList

def names (path : String) : List String :=
  (splitText '/' path).filter fun name => name ≠ "" && name ≠ "."

theorem parts_eq (path : String) :
    parts path = if path.toList.head? = some '/' then "/" :: names path else names path := rfl

theorem isName_of_mem_names {path name : String} (h : name ∈ names path) : IsName name := by
  obtain ⟨hmem, hname⟩ := List.mem_filter.mp h
  obtain ⟨piece, hpiece, rfl⟩ := List.mem_map.mp hmem
  simp only [Bool.and_eq_true, decide_eq_true_eq] at hname
  refine ⟨hname.1, hname.2, ?_⟩
  rw [String.toList_ofList]
  exact not_mem_piece piece hpiece

theorem names_append_slash (a b : String) : names (a ++ "/" ++ b) = names a ++ names b := by
  have hchars : (a ++ "/" ++ b).toList = a.toList ++ '/' :: b.toList := by simp
  rw [names, splitText, hchars, pieces_append_cons, List.map_append, List.filter_append]
  rfl

theorem names_of_isName {name : String} (h : IsName name) : names name = [name] := by
  rw [names, splitText, pieces_of_not_mem h.whole]
  simp [h.nonempty, h.moves]

theorem names_empty : names "" = [] := by decide

theorem names_slash (path : String) : names ("/" ++ path) = names path := by
  have h := names_append_slash "" path
  rwa [names_empty, String.empty_append, List.nil_append] at h

theorem names_intercalate {list : List String} (h : ∀ name ∈ list, IsName name) :
    names ("/".intercalate list) = list := by
  induction list with
  | nil => exact names_empty
  | cons first rest ih =>
    rw [List.forall_mem_cons] at h
    cases rest with
    | nil =>
      rw [String.intercalate_singleton]
      exact names_of_isName h.1
    | cons next rest =>
      rw [String.intercalate_cons_cons, names_append_slash, ih h.2, names_of_isName h.1]
      rfl

theorem head?_ne_slash {name : String} (h : IsName name) (rest : String) :
    (name ++ rest).toList.head? ≠ some '/' := by
  have hne : name.toList ≠ [] := by
    rw [Ne, String.toList_eq_nil_iff]
    exact h.nonempty
  rw [String.toList_append, List.head?_append_of_ne_nil _ hne]
  exact fun hhead => h.whole (List.mem_of_head? hhead)

theorem parts_intercalate {list : List String} (h : ∀ name ∈ list, IsName name) :
    parts ("/".intercalate list) = list := by
  rw [parts_eq, names_intercalate h, if_neg]
  cases list with
  | nil => decide
  | cons first rest =>
    rw [List.forall_mem_cons] at h
    cases rest with
    | nil =>
      rw [String.intercalate_singleton, ← String.append_empty (s := first)]
      exact head?_ne_slash h.1 ""
    | cons next rest =>
      rw [String.intercalate_cons_cons, String.append_assoc]
      exact head?_ne_slash h.1 _

theorem text_of_isName {list : List String} (h : ∀ name ∈ list, IsName name) :
    Place.text list = "/".intercalate list := by
  unfold Place.text
  split
  · next rest => exact absurd (h "/" List.mem_cons_self).whole (by decide)
  · rfl

theorem parts_text_parts (path : String) : parts (Place.text (parts path)) = parts path := by
  have hnames : ∀ name ∈ names path, IsName name := fun _ => isName_of_mem_names
  rw [parts_eq path]
  split
  · have hslash : parts ("/" ++ "/".intercalate (names path)) = "/" :: names path := by
      rw [parts_eq, names_slash, names_intercalate hnames, if_pos (by simp)]
    exact hslash
  · rw [text_of_isName hnames, parts_intercalate hnames]

theorem parts_join (directory : String) {name : String} (h : IsName name) :
    parts (join directory name) = parts directory ++ [name] := by
  have hname := names_of_isName h
  by_cases hempty : directory = ""
  · have hhead := head?_ne_slash h ""
    rw [String.append_empty] at hhead
    rw [hempty, join, if_pos (by simp), String.empty_append, parts_eq, if_neg hhead, hname]
    rfl
  · have hchars : directory.toList ≠ [] := by rwa [Ne, String.toList_eq_nil_iff]
    -- Joining puts one slash between the two, unless the directory ends in one.
    have hnames : names (join directory name) = names directory ++ [name] := by
      rw [join]
      split
      · next hslash =>
        have hends : directory.toList.getLast? = some '/' := by simpa [hempty, endsInSlash] using hslash
        obtain ⟨start, hstart⟩ := List.getLast?_eq_some_iff.mp hends
        have hdirectory : directory = String.ofList start ++ "/" ++ "" := by
          apply String.toList_injective
          simp [hstart]
        have hjoined : directory ++ name = String.ofList start ++ "/" ++ name := by
          apply String.toList_injective
          simp [hstart]
        rw [hjoined, names_append_slash, hname, hdirectory, names_append_slash, names_empty, List.append_nil]
      · rw [names_append_slash, hname]
    have hhead : (join directory name).toList.head? = directory.toList.head? := by
      rw [join]
      split
      · rw [String.toList_append, List.head?_append_of_ne_nil _ hchars]
      · rw [String.append_assoc, String.toList_append, List.head?_append_of_ne_nil _ hchars]
    rw [parts_eq, parts_eq, hhead, hnames]
    split <;> rfl

def place (path : String) : Place :=
  (parts path).foldl Place.step []

theorem place_join (directory : String) {name : String} (h : IsName name) (hup : name ≠ "..") :
    place (join directory name) = place directory ++ [name] := by
  rw [place, parts_join directory h, List.foldl_append, List.foldl_cons, List.foldl_nil, Place.step, if_neg hup]
  rfl

theorem subset_stemOfName (name : String) : (stemOfName name).toList ⊆ name.toList := by
  unfold stemOfName
  split
  · next suffix _ dot first before hspan =>
    rw [List.span_eq_takeWhile_dropWhile, Prod.mk.injEq] at hspan
    have hdrop := List.dropWhile_subset (fun c : Char => decide (c ≠ '.')) (l := name.toList.reverse)
    rw [hspan.2] at hdrop
    intro c hc
    rw [String.toList_ofList, List.mem_reverse] at hc
    exact List.mem_reverse.mp (hdrop (List.mem_cons_of_mem _ hc))
  · exact fun _ h => h

theorem slash_not_mem_stem (path : String) : '/' ∉ (stem path).toList := by
  unfold stem
  split
  · next name hname =>
    have hmem := List.mem_filter.mp (List.mem_of_getLast? hname)
    have hwhole : '/' ∉ name.toList := by
      rw [parts_eq] at hmem
      split at hmem
      · rcases List.mem_cons.mp hmem.1 with rfl | h
        · simp at hmem
        · exact (isName_of_mem_names h).whole
      · exact (isName_of_mem_names hmem.1).whole
    exact fun h => hwhole (subset_stemOfName name h)
  · simp

end Path

end NullContract
