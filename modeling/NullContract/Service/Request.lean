import NullContract.Decimal.Reading
import NullContract.Json.Basic
import NullContract.Settings

namespace NullContract.Service

def readStr? : Json → Option String
  | .str t => t.toString?
  | _ => none

def readBool? : Json → Option Bool
  | .bool b => some b
  | .int 0 => some false
  | .int 1 => some true
  | .decimal text =>
    match (Double.ofText? text).bind Double.toInt? with
    | some 0 => some false
    | some 1 => some true
    | _ => none
  | .str t => do
    let word := String.ofList ((← t.chars?).map Char.toLower)
    if ["1", "true", "t", "yes", "y", "on"].contains word then some true
    else if ["0", "false", "f", "no", "n", "off"].contains word then some false
    else none
  | _ => none

def readStrs? : Json → Option (List String)
  | .arr items => items.mapM readStr?
  | _ => none

def optional {α : Type} (body : Json) (name : String) (default : α) (read : Json → Option α) : Option α :=
  match body.field? name with
  | some value => read value
  | none => some default

def required {α : Type} (body : Json) (name : String) (read : Json → Option α) : Option α := do
  read (← body.field? name)

def nullable {α : Type} (read : Json → Option α) : Json → Option (Option α)
  | .null => some none
  | value => (read value).map some

def readOverrides? (body : Json) : Option Overrides := do
  let checkContracts ← optional body "check_contracts" none (nullable readBool?)
  let names ← optional body "contract_annotations" none (nullable readStrs?)
  return { checkContracts := checkContracts, names := names }

structure SourceRequest where
  source : String
  filename : String
  overrides : Overrides

def unnamed : String := "<string>"

def SourceRequest.read? (body : Json) : Option SourceRequest := do
  let source ← required body "source" readStr?
  let filename ← optional body "filename" (some unnamed) (nullable readStr?)
  let overrides ← readOverrides? body
  return ⟨source, (filename.filter (· ≠ "")).getD unnamed, overrides⟩

structure FileRequest where
  path : String
  overrides : Overrides

def FileRequest.read? (body : Json) : Option FileRequest := do
  let path ← required body "file_path" readStr?
  let overrides ← readOverrides? body
  return ⟨path, overrides⟩

structure ContractRequest where
  contract : String
  parameters : List String

def ContractRequest.read? (body : Json) : Option ContractRequest := do
  let contract ← required body "contract" readStr?
  let parameters ← optional body "parameters" [] readStrs?
  return ⟨contract, parameters⟩

end NullContract.Service
