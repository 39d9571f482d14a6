import NullContract.Check.Checked
import NullContract.Settings
import NullContract.Source.Reading

namespace NullContract

def valueKeyword? (keywords : List Expr) : Option Expr :=
  keywords.foldl (fun found k =>
    match k with
    | .keyword (some "value") value => some value
    | _ => found) none

def decoratorContract? (names : NameSet) : Expr → Option Text
  | .call callee args keywords =>
    match callee.simpleName? with
    | some name =>
      if names.contains name then
        match args.head?.or (valueKeyword? keywords) with
        | some (.literal (.text contract)) => some contract
        | _ => none
      else none
    | none => none
  | _ => none

def Header.contract? (names : NameSet) (h : Header) : Option Text :=
  h.decorators.findSome? (decoratorContract? names)

structure Found where
  function : Function
  contract : Text
  scopes : List String
  isMethod : Bool

namespace Found

def qualname (f : Found) : String :=
  ".".intercalate (f.scopes ++ [f.function.header.name])

end Found

mutual
/-- The functions with a contract in a statement, in the order of the text. `inClass` says whether the
innermost scope is a class. -/
def Stmt.contractFunctions (names : NameSet) (scopes : List String) (inClass : Bool) : Stmt → List Found
  | .function header body =>
    let own := (header.contract? names).map fun contract => ⟨⟨header, body⟩, contract, scopes, inClass⟩
    own.toList ++ blockFunctions names (scopes ++ [header.name ++ ".<locals>"]) false body
  | .classDef header body => blockFunctions names (scopes ++ [header.name]) true body
  | .forLoop _ _ _ body orelse => blockFunctions names scopes inClass body ++ blockFunctions names scopes inClass orelse
  | .whileLoop _ body orelse => blockFunctions names scopes inClass body ++ blockFunctions names scopes inClass orelse
  | .ifElse _ _ body orelse => blockFunctions names scopes inClass body ++ blockFunctions names scopes inClass orelse
  | .withBlock _ _ body => blockFunctions names scopes inClass body
  | .matchCases _ cases => caseFunctions names scopes inClass cases
  | .tryBlock body handlers orelse final =>
    blockFunctions names scopes inClass body ++ handlerFunctions names scopes inClass handlers ++
      blockFunctions names scopes inClass orelse ++ blockFunctions names scopes inClass final
  | .ret _ _ => []
  | .delete _ => []
  | .assign _ _ => []
  | .augAssign _ _ _ => []
  | .annAssign _ _ _ => []
  | .raise _ => []
  | .assert _ _ => []
  | .imports _ _ => []
  | .outer _ _ => []
  | .expr _ => []
  | .break => []
  | .continue => []
  | .pass => []

def blockFunctions (names : NameSet) (scopes : List String) (inClass : Bool) : List Stmt → List Found
  | [] => []
  | s :: rest => s.contractFunctions names scopes inClass ++ blockFunctions names scopes inClass rest

def handlerFunctions (names : NameSet) (scopes : List String) (inClass : Bool) : List Handler → List Found
  | [] => []
  | .mk _ _ _ body :: rest => blockFunctions names scopes inClass body ++ handlerFunctions names scopes inClass rest

def caseFunctions (names : NameSet) (scopes : List String) (inClass : Bool) : List Case → List Found
  | [] => []
  | .mk _ _ body :: rest => blockFunctions names scopes inClass body ++ caseFunctions names scopes inClass rest
end

def findContracts (names : NameSet) (module : List Stmt) : List Found :=
  blockFunctions names [] false module

def Found.candidate (f : Found) (filename source : String) : Candidate where
  subject :=
    { name := f.function.header.name
      qualname := f.qualname
      contract := some f.contract
      parameters := f.function.header.formalParameters f.isMethod
      location := ⟨filename, f.function.header.span.start⟩ }
  function := f.function
  source := Source.segment source f.function.header.span

/-- The functions with a contract in a source text. A file name with a NUL character is refused like such a text. -/
def discover (names : NameSet) (filename source : String) : Except SourceError (List Candidate) := do
  if filename.toList.contains '\x00' then throw .nulCharacter
  let module ← Source.readModule source
  return (findContracts names module).map fun f => f.candidate filename source

end NullContract
