import NullContract.Loaded.Running
import NullContract.Summary
import NullContract.Text.Dedent

/-!
The functions of a loaded module that carry a contract. Their text is looked up in the file of the module, which
may be gone.
-/

namespace NullContract.Loaded

def isLayoutChar (c : Char) : Bool :=
  isIndentChar c || c = '\x0c'

/-- How many of the lines after a function belong to it: up to the last comment that is indented like the
body, before the next line of code. -/
def trailingComments (column : Nat) (lines : List (List Char)) : Nat :=
  let isLayout := fun (line : List Char) =>
    match line.dropWhile isLayoutChar with
    | [] | '\n' :: _ | '#' :: _ => true
    | _ => false
  let belongs := fun (line : List Char) =>
    match line.dropWhile isLayoutChar with
    | '#' :: _ => (line.takeWhile isLayoutChar).length ≥ column
    | _ => false
  ((lines.takeWhile isLayout).reverse.dropWhile fun line => !belongs line).length

def opensFunction (line : List Char) : Bool :=
  let rest := line.dropWhile isBlank
  let isDefinition := fun (cs : List Char) =>
    "def".toList.isPrefixOf cs && ((cs.drop 3).head?.map isBlank).getD false
  let afterAsync := rest.drop 5
  rest.head? = some '@' || isDefinition rest || hasLambda true line ||
    ("async".toList.isPrefixOf rest && (afterAsync.head?.map isBlank).getD false &&
      isDefinition (afterAsync.dropWhile isBlank))
where
  hasLambda (free : Bool) : List Char → Bool
    | [] => false
    | c :: rest =>
      let after := (c :: rest).drop 6
      (free && "lambda".toList.isPrefixOf (c :: rest) &&
        (after.head?.map fun d => d = ':' || isBlank d).getD false) || hasLambda (!Source.continuesName c) rest

def openingLine (lines : List (List Char)) : (line : Nat) → Nat
  | 0 => 0
  | line + 1 => if (lines[line]?.map opensFunction).getD false then line + 1 else max 1 (openingLine lines line)

def isLineEnd (token : Source.Token) : Bool :=
  match token.kind with
  | .lineEnd => true
  | _ => false

def isIndent (token : Source.Token) : Bool :=
  match token.kind with
  | .indent => true
  | _ => false

def isParenthesis (token : Source.Token) : Bool :=
  match token.kind with
  | .op "(" | .op ")" => true
  | _ => false

def isDedent (token : Source.Token) : Bool :=
  match token.kind with
  | .dedent => true
  | _ => false

/-- The tokens after the word that opens the first block, with whether the word is a lambda. What stands in a
decorator up to its first closing parenthesis is passed over. -/
def openedBlock : (inDecorator hasArguments : Bool) → List Source.Token → Bool × List Source.Token
  | _, _, [] => (false, [])
  | false, _, token :: rest =>
    match token.kind with
    | .keyword "lambda" => (true, rest)
    | .keyword "def" | .keyword "class" => (false, rest)
    | .op "@" => openedBlock true false rest
    | _ => openedBlock false false rest
  | true, hasArguments, token :: rest =>
    match token.kind with
    | .op "(" => openedBlock true true rest
    | .op ")" => openedBlock false false rest
    | .lineEnd => openedBlock hasArguments hasArguments rest
    | _ => openedBlock true hasArguments rest

def bodyTokens : (depth : Nat) → List Source.Token → List Source.Token
  | _, [] => []
  | depth, token :: rest =>
    if isIndent token then token :: bodyTokens (depth + 1) rest
    else if isDedent token then
      match depth with
      | 0 | 1 => []
      | depth + 1 => token :: bodyTokens depth rest
    else token :: bodyTokens depth rest

/-- The last line of the first block, with the column of its body if that stands on lines of its own. A body on the
line of the header is followed by the lines that hold nothing but parentheses. -/
def blockEnd (tokens : List Source.Token) : Nat × Option Nat :=
  let (isLambda, opened) := openedBlock false false tokens
  let header := opened.takeWhile fun token => !isLineEnd token
  let headerEnd := (opened.drop header.length).take 1
  let rest := opened.drop (header.length + 1)
  let (more, column) :=
    match isLambda, rest with
    | true, _ => ([], none)
    | false, token :: body =>
      if isIndent token then (bodyTokens 1 body, some token.start.col)
      else (rest.takeWhile fun token => isLineEnd token || isParenthesis token, none)
    | false, [] => ([], none)
  ((((headerEnd ++ more).filter isLineEnd).getLast?.map (·.start.line)).getD 1, column)

/-- The text of a function with its decorators, without the margin it has in the file, and the number of its first
line. A file that ends within the last line of the function gives no text. -/
def functionText (text : List Char) (header : Header) : Except Fault (String × Nat) :=
  let lines := Source.linesOf (closeLastLine (Source.unifyLineEnds text))
  let tokens := (Source.tokens 1 (Source.closedLines text)).getD []
  let first := openingLine lines header.firstLine
  let (last, column) := blockEnd (tokens.dropWhile fun token => token.start.line < first)
  if last > lines.length then .error .unfinished
  else
    let more := (column.map fun column => trailingComments column (lines.drop last)).getD 0
    .ok (String.ofList (dedent ((lines.drop (first - 1)).take (last + more + 1 - first)).flatten), first)
where
  closeLastLine (cs : List Char) : List Char :=
    if cs.isEmpty || cs.getLast? = some '\n' then cs else cs ++ ['\n']

structure LoadedFunction where
  name : String
  qualname : String
  function : Function
  source : String
  contract : Value
  pure : Value

def reread (text : List Char) (f : Definition) : Except Fault (Function × String) :=
  match f.function with
  | none => .error .noMember
  | some function => do
    let (source, first) ← functionText text function.header
    match Source.readModuleFrom first source with
    | .ok (.function header body :: _) => .ok (⟨header, body⟩, source)
    | .ok _ => .error .noMember
    | .error e => .error (.source e)

def unmarked (text : String) : List Char :=
  match text.toList with
  | '\ufeff' :: rest => rest
  | cs => cs

def contractMembers (session : Session) : List (String × Definition × Value) :=
  session.members.toList.filterMap fun (name, value) => do
    let f ← (functionIndex? value).bind (session.functions[·]?)
    match f.contract with
    | none | some .null => none
    | some contract => some (name, f, contract)

def contractFunctions (source : String) (file : Option String) : Except Fault (List LoadedFunction) := do
  let module ← (Source.readModule (String.ofList (unmarked source))).mapError .source
  let session ← load module
  match file with
  | none => return []
  | some text => (contractMembers session).mapM fun (name, f, contract) => do
      let (function, source) ← reread (unmarked text) f
      return {
        name := name
        qualname := f.qualname
        function := function
        source := source
        contract := contract
        pure := f.pure.getD .null }

def contractText : Value → Except Fault Text
  | .text t => .ok t
  | .bytes _ => .error .wrongType
  | _ => .error .noMember

def LoadedFunction.candidate (f : LoadedFunction) (filename : String) : Except Fault Candidate := do
  return {
    subject :=
      { name := f.name
        qualname := f.qualname
        contract := some (← contractText f.contract)
        parameters := f.function.header.formalParameters false
        location := ⟨filename, f.function.header.span.start⟩ }
    function := f.function
    source := f.source }

def LoadedFunction.check (f : LoadedFunction) (deep : Bool) (filename : String) : Except Fault Result := do
  let candidate ← f.candidate filename
  return ⟨candidate, ← (NullContract.check standardOracle deep candidate).mapError .source⟩

end NullContract.Loaded
