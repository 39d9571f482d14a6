import Std.Data.ExtTreeMap
import NullContract.Loaded.Call
import NullContract.Loaded.Placement.Names

/-!
The state of a module while it is loaded: its functions, its names, and the names of the functions, classes and
comprehensions that are running or can still be reached.
-/

namespace NullContract.Loaded

abbrev Members := Std.ExtTreeMap String Value

inductive Body where
  | block (statements : List Stmt)
  | value (result : Expr)

structure Intake where
  positionalOnly : List String := []
  positional : List String := []
  variadic : Option String := none
  keywordOnly : List String := []
  keywordVariadic : Option String := none
  defaults : List (String × Value) := []

/-- A function, with the frame it was made in and with what the decorator that was applied last has left on it. A
function that is part of an expression has no statement. -/
structure Definition where
  function : Option Function
  qualname : String
  intake : Intake
  body : Body
  parent : Option Nat
  contract : Option Value := none
  pure : Option Value := none

inductive FrameKind where
  | function
  | classBody
  | comprehension
deriving DecidableEq

/-- The names of a function that was called, of a class whose body runs, or of a comprehension. A function knows its
names before they have values. -/
structure Frame where
  kind : FrameKind
  parent : Option Nat
  own : List String := []
  ofModule : List String := []
  ofEnclosing : List String := []
  members : Members := ∅

/-- The state while a module is loaded. Functions and frames are known by their numbers; `current` is the frame that
runs, if it is not the module itself, and `scopes` are the names around it. `moreNames` says whether all names of a
module were imported that are not known here, and `lateHints` whether hints are left alone. -/
structure Session where
  functions : List Definition := []
  members : Members := ∅
  frames : List Frame := []
  current : Option Nat := none
  scopes : List String := []
  moreNames : Bool := false
  lateHints : Bool := false

/-- A step of loading, which may break off. What was done before stays. -/
abbrev Load := ExceptT Fault (StateM Session)

def fromExcept {α : Type} : Except Fault α → Load α
  | .ok a => return a
  | .error e => throw e

namespace Session

def chain (s : Session) : (fuel : Nat) → Option Nat → List (Nat × Frame)
  | 0, _ | _, none => []
  | fuel + 1, some index =>
    match s.frames[index]? with
    | some frame => (index, frame) :: chain s fuel frame.parent
    | none => []

def around (s : Session) : List (Nat × Frame) :=
  s.chain s.frames.length s.current

def lookIn (id : String) : (inner : Bool) → List (Nat × Frame) → Except Fault (Option Value)
  | _, [] => .ok none
  | inner, (_, frame) :: rest =>
    if inner && frame.kind = .classBody then lookIn id inner rest
    else
      match frame.members[id]? with
      | some value => .ok (some value)
      | none =>
        if frame.ofModule.contains id then .ok none
        else if frame.own.contains id then .error (if inner then .unboundName else .unboundLocal)
        else lookIn id true rest

def ownName : Value := .ofString "module"

def moduleValue? (s : Session) (id : String) : Option Value :=
  match s.members[id]? with
  | some value => some value
  | none =>
    if builtinNames.contains id then some (.builtin id)
    else if id = "__name__" then some ownName
    else if moduleNames.contains id || s.moreNames then some .unknown
    else none

def home (id : String) : List (Nat × Frame) → Option Nat
  | [] => none
  | (index, frame) :: rest =>
    if frame.ofModule.contains id then none
    else if frame.kind = .comprehension && !frame.own.contains id then home id rest
    else if frame.ofEnclosing.contains id then enclosing rest
    else some index
where
  enclosing : List (Nat × Frame) → Option Nat
    | [] => none
    | (index, frame) :: rest => if frame.kind = .function && frame.own.contains id then some index else enclosing rest

def setMembers (s : Session) (place : Option Nat) (f : Members → Members) : Session :=
  match place with
  | some index => { s with frames := s.frames.modify index fun frame => { frame with members := f frame.members } }
  | none => { s with members := f s.members }

def membersAt (s : Session) (place : Option Nat) : Members :=
  match place with
  | some index => ((s.frames[index]?).map Frame.members).getD ∅
  | none => s.members

end Session

def nameValue (id : String) : Load Value := do
  let s ← get
  match ← fromExcept (Session.lookIn id false s.around) with
  | some value => return value
  | none =>
    match s.moduleValue? id with
    | some value => return value
    | none => throw .unboundName

def bindName (id : String) (value : Value) : Load Unit :=
  modify fun s => s.setMembers (Session.home id s.around) (·.insert id value)

def deleteName (id : String) : Load Unit := do
  let s ← get
  let place := Session.home id s.around
  if (s.membersAt place).contains id then set (s.setMembers place (·.erase id))
  else throw (if (place.bind (s.frames[·]?)).any (·.kind = .function) then .unboundLocal else .unboundName)

/-- Runs a step in a new frame, and takes the frame away again whatever happens. Gives the names of the frame too. -/
def inFrame {α : Type} (frame : Frame) (scopes : List String) (step : Load α) : Load (α × Members) := do
  let outer ← get
  let index := outer.frames.length
  set { outer with frames := outer.frames ++ [frame], current := some index, scopes := scopes }
  let leave : Load Members := modifyGet fun s =>
    (s.membersAt (some index), { s with current := outer.current, scopes := outer.scopes })
  let result ← tryCatch step fun fault => do
    let _ ← leave
    throw fault
  return (result, ← leave)

def newFunction (function : Option Function) (name : String) (intake : Intake) (body : Body) : Load Value :=
  modifyGet fun s =>
    let definition : Definition := {
      function := function
      qualname := ".".intercalate (s.scopes ++ [name])
      intake := intake
      body := body
      parent := s.current }
    (.function s.functions.length, { s with functions := s.functions ++ [definition] })

def Intake.fill (intake : Intake) (args : Arguments) : Except Fault Members := do
  let names := intake.positionalOnly ++ intake.positional
  let given := names.zip args.positional
  let extra := args.positional.drop names.length
  if !extra.isEmpty && intake.variadic.isNone then throw .wrongType
  let free := names.drop args.positional.length
  let accepts := fun (name : String) =>
    intake.keywordOnly.contains name || (free.contains name && !intake.positionalOnly.contains name)
  let (named, others) := args.named.partition fun (name, _) => accepts name
  if !others.isEmpty && intake.keywordVariadic.isNone then throw .wrongType
  if others.any fun (name, _) => names.contains name && !intake.positionalOnly.contains name then throw .wrongType
  let bound := given ++ named
  let rest := (free ++ intake.keywordOnly).filter fun name => (bound.lookup name).isNone
  if rest.any fun name => (intake.defaults.lookup name).isNone then throw .wrongType
  let collected := (intake.variadic.map fun name => (name, Value.tuple extra)).toList ++
    (intake.keywordVariadic.map fun name =>
      (name, Value.dict (others.map fun (key, value) => (.ofString key, value)))).toList
  return .ofList (bound ++ intake.defaults.filter (fun (name, _) => rest.contains name) ++ collected)

end NullContract.Loaded
