import NullContract.Text.Digit
import NullContract.Text.Split

namespace NullContract.CommandLine

structure Options where
  files : List String := []
  checkContracts : Bool := false
  names : List String := []
  json : Option String := none
  verbose : Bool := false
deriving DecidableEq

inductive Refusal where
  | help
  | usage
deriving DecidableEq

def Refusal.exit : Refusal → Nat
  | help => 0
  | usage => 2

inductive Switch where
  | help
  | checkContracts
  | name
  | json
  | verbose
deriving DecidableEq

def Switch.takesValue : Switch → Bool
  | name | json => true
  | _ => false

def longSwitches : List (String × Switch) :=
  [("--help", .help), ("--check-contracts", .checkContracts), ("--contract-annotation", .name),
   ("--json", .json), ("--verbose", .verbose)]

def shortSwitch? : Char → Option Switch
  | 'h' => some .help
  | 'v' => some .verbose
  | _ => none

/-- An argument by itself. The switches of a joined group are separate members of its list. A wrong one is a
switch with a value that it does not take. -/
inductive Argument where
  | word (text : String)
  | separator
  | switches (list : List Switch)
  | valued (switch : Switch) (value : Option String)
  | wrong
  | unknown

/-- Whether a text is a negative number, which is not taken for a switch. A line end may follow it. -/
def isNegativeNumber (cs : List Char) : Bool :=
  match cs with
  | '-' :: digits =>
    match digits.span isDecimalDigit with
    | (_ :: _, []) | (_ :: _, ['\n']) => true
    | (_, '.' :: places) =>
      match places.span isDecimalDigit with
      | (_ :: _, []) | (_ :: _, ['\n']) => true
      | _ => false
    | _ => false
  | _ => false

def longArgument (switch : Switch) (value : Option String) : Argument :=
  if switch.takesValue then .valued switch value
  else if value.isSome then .wrong
  else .switches [switch]

def longSwitchesFor (text : String) : List Switch :=
  (longSwitches.filter fun (name, _) => text.toList.isPrefixOf name.toList).map (·.2)

def splitValue (text : String) : String × Option String :=
  match text.toList.span (· ≠ '=') with
  | (name, _ :: value) => (String.ofList name, some (String.ofList value))
  | (_, []) => (text, none)

/-- A text that is no switch. It is a word if it looks like a number or holds a blank. -/
def otherArgument (text : String) : Argument :=
  if isNegativeNumber text.toList || text.toList.contains ' ' then .word text else .unknown

def readArgument (text : String) : Except Refusal Argument :=
  match text.toList with
  | '-' :: '-' :: _ =>
    let (name, value) := splitValue text
    match longSwitches.lookup name, longSwitchesFor name with
    | some switch, _ => .ok (longArgument switch value)
    | none, [switch] => .ok (longArgument switch value)
    | none, [] => .ok (otherArgument text)
    | none, _ => .error .usage
  | '-' :: c :: rest =>
    match shortSwitch? c with
    | none => .ok (otherArgument text)
    | some switch =>
      match rest.mapM shortSwitch? with
      | some more => .ok (.switches (switch :: more))
      | none => .ok .wrong
  | _ => .ok (.word text)

def readArguments : List String → Except Refusal (List Argument)
  | [] => .ok []
  | "--" :: rest => .ok (.separator :: rest.map .word)
  | text :: rest => do return (← readArgument text) :: (← readArguments rest)

inductive Phase where
  | ahead
  | here
  | behind
deriving DecidableEq

def Phase.afterSwitch : Phase → Phase
  | ahead => ahead
  | _ => behind

def applySwitch (options : Options) : Switch → Except Refusal Options
  | .help => .error .help
  | .checkContracts => .ok { options with checkContracts := true }
  | .verbose => .ok { options with verbose := true }
  | _ => .ok options

def applyValue (options : Options) (value : String) : Switch → Options
  | .name => { options with names := options.names ++ [value] }
  | .json => { options with json := some value }
  | _ => options

/-- Takes the arguments in order. `excess` says that one of them has no place; that is wrong, but only after
the others had their say. -/
def collect (phase : Phase) (excess : Bool) (options : Options) : List Argument → Except Refusal Options
  | [] => if excess || options.files.isEmpty then .error .usage else .ok options
  | .word text :: rest =>
    if phase = .behind then collect phase true options rest
    else collect .here excess { options with files := options.files ++ [text] } rest
  | .separator :: rest => collect phase (excess || phase = .behind) options rest
  | .switches list :: rest => do
    collect phase.afterSwitch excess (← list.foldlM applySwitch options) rest
  | .valued switch (some value) :: rest => collect phase.afterSwitch excess (applyValue options value switch) rest
  | .valued switch none :: .word value :: rest =>
    collect phase.afterSwitch excess (applyValue options value switch) rest
  | .valued _ none :: _ => .error .usage
  | .wrong :: _ => .error .usage
  | .unknown :: rest => collect phase.afterSwitch true options rest

def Options.read (arguments : List String) : Except Refusal Options := do
  let options ← collect .ahead false {} (← readArguments arguments)
  return { options with json := options.json.filter (· ≠ "") }

end NullContract.CommandLine
