import NullContract.Source.Lines
import NullContract.Text.Split

namespace NullContract

inductive FileError where
  | missing
  | isDirectory
  | notDirectory
  | alreadyExists
  | nameTooLong
  | nulCharacter
  | notText
deriving DecidableEq

inductive Entry where
  | file (bytes : ByteArray)
  | directory

/-- A place in the tree: the names on the way to it. An absolute place starts with `/`, and a place outside
the tree with `..`. -/
abbrev Place := List String

namespace Path

def parts (path : String) : List String :=
  let names := (splitText '/' path).filter fun name => name ≠ "" && name ≠ "."
  if path.toList.head? = some '/' then "/" :: names else names

def endsInSlash (path : String) : Bool :=
  path.toList.getLast? = some '/'

def wantsDirectory (path : String) : Bool :=
  (splitText '/' path).length > 1 && ["", "."].contains ((splitText '/' path).getLast?.getD "")

/-- The part of a name before its last dot. A dot at either end is part of the stem. -/
def stemOfName (name : String) : String :=
  match name.toList.reverse.span (· ≠ '.') with
  | (_ :: _, _ :: before@(_ :: _)) => String.ofList before.reverse
  | _ => name

def stem (path : String) : String :=
  match ((parts path).filter (· ≠ "/")).getLast? with
  | some name => stemOfName name
  | none => ""

def join (directory name : String) : String :=
  if directory = "" || endsInSlash directory then directory ++ name else directory ++ "/" ++ name

end Path

def Place.text : Place → String
  | "/" :: names => "/" ++ "/".intercalate names
  | names => "/".intercalate names

def Place.parent (place : Place) : Place :=
  if place = ["/"] then place
  else if place.all (· = "..") then place ++ [".."]
  else place.dropLast

def Place.step (place : Place) (name : String) : Place :=
  if name = ".." then Place.parent place else place ++ [name]

def Place.through (place : Place) : List String → List Place
  | [] => []
  | name :: rest =>
    let next := Place.step place name
    next :: Place.through next rest

structure FileTree where
  entries : List (Place × Entry) := []
deriving Inhabited

namespace FileTree

def entry? (tree : FileTree) (place : Place) : Option Entry :=
  if place = ["/"] || place.all (· = "..") then some .directory else tree.entries.lookup place

def put (tree : FileTree) (place : Place) (entry : Entry) : FileTree where
  entries := (place, entry) :: tree.entries.filter (·.1 ≠ place)

def maxNameSize : Nat := 255

def maxPathSize : Nat := 4095

def follow (tree : FileTree) (place : Place) : List String → Except FileError Place
  | [] => .ok place
  | name :: rest =>
    match tree.entry? place with
    | some .directory =>
      if name.utf8ByteSize > maxNameSize then .error .nameTooLong else follow tree (Place.step place name) rest
    | some (.file _) => .error .notDirectory
    | none => .error .missing

def locate (tree : FileTree) (path : String) : Except FileError Place :=
  if path.toList.contains '\x00' then .error .nulCharacter
  else if path.utf8ByteSize > maxPathSize then .error .nameTooLong
  else
    match Path.parts path with
    | "/" :: names => tree.follow ["/"] names
    | names => tree.follow [] names

/-- Whether something stands at a path, which is looked up without what does not matter in it. Nothing stands below
a file or at a path with a NUL character, but a path that is too long is refused. -/
def contains (tree : FileTree) (path : String) : Except FileError Bool :=
  match tree.locate (Place.text (Path.parts path)) with
  | .ok place => .ok (tree.entry? place).isSome
  | .error .nameTooLong => .error .nameTooLong
  | .error _ => .ok false

def bytesAt (tree : FileTree) (path : String) : Except FileError ByteArray := do
  if path = "" then throw .missing
  match tree.entry? (← tree.locate path) with
  | some (.file bytes) => if Path.wantsDirectory path then throw .notDirectory else return bytes
  | some .directory => throw .isDirectory
  | none => throw .missing

def textAt (tree : FileTree) (path : String) : Except FileError String := do
  match String.fromUTF8? (← tree.bytesAt path) with
  | some text => return String.ofList (Source.unifyLineEnds text.toList)
  | none => throw .notText

def makeDirectories (tree : FileTree) (place : Place) : List String → Except FileError FileTree
  | [] => .ok tree
  | name :: rest =>
    let next := Place.step place name
    if name.utf8ByteSize > maxNameSize then .error .nameTooLong
    else
      match tree.entry? next with
      | some .directory => makeDirectories tree next rest
      | some (.file _) => .error (if rest.isEmpty then .alreadyExists else .notDirectory)
      | none => makeDirectories (tree.put next .directory) next rest

def withParents (tree : FileTree) (path : String) : Except FileError FileTree :=
  match (Path.parts path).dropLast with
  | "/" :: names => tree.makeDirectories ["/"] names
  | names => tree.makeDirectories [] names

def putFile (tree : FileTree) (path : String) (place : Place) (bytes : ByteArray) : Except FileError FileTree :=
  match tree.entry? place with
  | some .directory => .error .isDirectory
  | some (.file _) =>
    if Path.wantsDirectory path then .error .notDirectory else .ok (tree.put place (.file bytes))
  | none =>
    if Path.endsInSlash path then .error .isDirectory
    else if Path.wantsDirectory path then .error .missing
    else .ok (tree.put place (.file bytes))

def write (tree : FileTree) (path : String) (bytes : ByteArray) : Except FileError (FileTree × Place) := do
  if path.toList.contains '\x00' then throw .nulCharacter
  let tree ← tree.withParents path
  let place ← tree.locate path
  return (← tree.putFile path place bytes, place)

def ofFiles (files : List (String × ByteArray)) : Except FileError FileTree :=
  files.foldlM (fun tree (path, bytes) => return (← tree.write path bytes).1) {}

end FileTree

end NullContract
