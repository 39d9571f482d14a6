import NullContract.Json.Display
import NullContract.Json.Reader
import NullContract.Service.Response

namespace NullContract.Service

structure Client where
  address : String
  timeout : Json

def localAddress : String := "http://localhost:8000"

def defaultTimeout : Json := .decimal "30.0"

def Client.connect (address : String) (timeout : Json) : Client :=
  ⟨String.ofList (address.toList.reverse.dropWhile (· = '/')).reverse, timeout⟩

structure CallSettings where
  checkContracts : Json := .null
  names : Json := .null

inductive Call where
  | health
  | checkSource (source filename : Json) (settings : CallSettings)
  | checkFile (path : Json) (settings : CallSettings)
  | validateContract (contract parameters : Json)

structure Message where
  method : String
  url : String
  body : Option Json
  timeout : String

namespace Call

def endpoint : Call → Endpoint
  | health => .health
  | checkSource .. => .checkSource
  | checkFile .. => .checkFile
  | validateContract .. => .validateContract

def settingFields (settings : CallSettings) : List (Text × Json) :=
  [("check_contracts", settings.checkContracts), ("contract_annotations", settings.names)]

def body? : Call → Option Json
  | health => none
  | checkSource source filename settings =>
    some (.obj (("source", source) :: ("filename", filename) :: settingFields settings))
  | checkFile path settings => some (.obj (("file_path", path) :: settingFields settings))
  | validateContract contract parameters =>
    some (.obj [("contract", contract), ("parameters", if parameters.truthy then parameters else .arr [])])

def message (client : Client) (call : Call) : Message where
  method := call.endpoint.method
  url := client.address ++ call.endpoint.path
  body := call.body?
  timeout := client.timeout.displayNested

end Call

inductive CallError where
  | status (code : Nat)
  | notJson
  | notObject
  | noResult
  | refused (message : Text)

def checkResult (answer : Json) : Except CallError Json :=
  match answer with
  | .obj _ =>
    if ((answer.field? "success").map Json.truthy).getD false then
      match answer.field? "result" with
      | some result => .ok result
      | none => .error .noResult
    else
      match (answer.field? "error").filter Json.truthy with
      | some error => .error (.refused error.display)
      | none => .error (.refused "check failed")
  | _ => .error .notObject

def Call.result (call : Call) (status : Nat) (text : String) : Except CallError Json :=
  if 400 ≤ status && status < 600 then .error (.status status)
  else
    match Json.read? text with
    | none => .error .notJson
    | some answer =>
      match call with
      | checkSource .. | checkFile .. => checkResult answer
      | _ => .ok answer

end NullContract.Service
