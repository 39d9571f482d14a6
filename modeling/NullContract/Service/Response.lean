import NullContract.Contract.Validation
import NullContract.FileCheck
import NullContract.Report.Basic
import NullContract.Service.Path
import NullContract.Service.Request

namespace NullContract.Service

inductive Response where
  | answer (status : Nat) (body : Json)
  | invalid
  | fault (error : FileCheckError)

def detail (status : Nat) (text : String) : Response :=
  .answer status (.obj [("detail", .str text)])

inductive Endpoint where
  | health
  | checkSource
  | checkFile
  | validateContract
deriving DecidableEq

namespace Endpoint

def path : Endpoint → String
  | health => "/"
  | checkSource => "/api/check-source"
  | checkFile => "/api/check-file"
  | validateContract => "/api/validate-contract"

def method : Endpoint → String
  | health => "GET"
  | _ => "POST"

def ofPath? (path : String) : Option Endpoint :=
  [health, checkSource, checkFile, validateContract].find? fun endpoint => endpoint.path = requestPath path

end Endpoint

def checkAnswer : Except FileCheckError FileOutcome → Response
  | .ok (.checked summary) =>
    .answer 200 (.obj [("success", .bool true), ("result", summary.toJson), ("error", .null)])
  | .ok .malformed =>
    .answer 200 (.obj [
      ("success", .bool false), ("result", .null), ("error", .str "Syntax error: <syntax error>")])
  | .error e => .fault e

def checkSourceAnswer (settings : Settings) (request : SourceRequest) : Response :=
  checkAnswer (checkText (settings.override request.overrides) request.filename request.source)

def checkFileAnswer (settings : Settings) (tree : FileTree) (request : FileRequest) : Response :=
  match tree.contains request.path with
  | .ok true => checkAnswer (NullContract.checkFile (settings.override request.overrides) tree request.path)
  | .ok false => detail 404 "File not found"
  | .error e => .fault (.file e)

def validationJson (v : Validation) : Json :=
  .obj [
    ("valid", .bool v.valid),
    ("deep_checkable", .bool v.deepCheckable),
    ("errors", .strs (v.faults.map ContractFault.message)),
    ("warnings", .strs (v.limits.map ContractLimit.message))]

def validateAnswer (request : ContractRequest) : Response :=
  .answer 200 (validationJson (NullContract.validateContract request.contract request.parameters))

def healthAnswer (settings : Settings) : Response :=
  .answer 200 (.obj [
    ("status", .str "ok"), ("version", .str version), ("check_contracts", .bool settings.checkContracts)])

def withBody {α : Type} (body : Option Json) (read : Json → Option α) (answer : α → Response) : Response :=
  match body.bind read with
  | some request => answer request
  | none => .invalid

def Endpoint.respond (settings : Settings) (tree : FileTree) (body : Option Json) : Endpoint → Response
  | health => healthAnswer settings
  | checkSource => withBody body SourceRequest.read? (checkSourceAnswer settings)
  | checkFile => withBody body FileRequest.read? (checkFileAnswer settings tree)
  | validateContract => withBody body ContractRequest.read? validateAnswer

/-- A body has to be text that can be sent: surrogates cannot. -/
def Response.sent : Response → Response
  | answer status body => if body.encodable then answer status body else fault (.source .surrogate)
  | response => response

def describingPaths : List String :=
  ["/docs", "/docs/oauth2-redirect", "/redoc", "/openapi.json"]

def respond (vars : Variables) (tree : FileTree) (method path : String) (body : Option Json) : Response :=
  let method := String.ofList (method.toList.map Char.toUpper)
  match Endpoint.ofPath? path with
  | none =>
    if describingPaths.contains (requestPath path) && method ≠ "GET" then detail 405 "Method Not Allowed"
    else detail 404 "Not Found"
  | some endpoint =>
    if endpoint.method = method then (endpoint.respond (.ofVariables vars) tree body).sent
    else detail 405 "Method Not Allowed"

end NullContract.Service
