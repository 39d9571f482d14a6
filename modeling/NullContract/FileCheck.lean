import NullContract.FileTree
import NullContract.Summary

namespace NullContract

inductive FileCheckError where
  | file (error : FileError)
  | source (error : SourceError)
deriving DecidableEq

inductive FileOutcome where
  | malformed
  | checked (summary : Summary)

def FileOutcome.failed : FileOutcome → Nat
  | malformed => 1
  | checked summary => summary.failed

def checkText (settings : Settings) (filename text : String) : Except FileCheckError FileOutcome :=
  match checkSource settings filename text with
  | .ok summary => .ok (.checked summary)
  | .error .malformed => .ok .malformed
  | .error e => .error (.source e)

def checkFile (settings : Settings) (tree : FileTree) (path : String) : Except FileCheckError FileOutcome :=
  match tree.textAt path with
  | .ok text => checkText settings path text
  | .error e => .error (.file e)

end NullContract
