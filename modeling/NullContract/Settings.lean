import Std.Data.ExtTreeSet
import NullContract.Text.Blank
import NullContract.Text.Split

namespace NullContract

abbrev NameSet := Std.ExtTreeSet String

structure Settings where
  checkContracts : Bool := false
  extraNames : NameSet := ∅
deriving Inhabited

def defaultNames : NameSet := .ofList ["contract", "Contract"]

structure Overrides where
  checkContracts : Option Bool := none
  names : Option (List String) := none

abbrev Variables := String → Option String

def isOn (value : String) : Bool :=
  ["1", "true", "yes", "on"].contains (String.ofList ((strip value).toList.map Char.toLower))

namespace Settings

def names (s : Settings) : NameSet :=
  defaultNames ∪ s.extraNames

def override (s : Settings) (o : Overrides) : Settings where
  checkContracts := o.checkContracts.getD s.checkContracts
  extraNames := s.extraNames ∪ .ofList (o.names.getD [])

def ofVariables (vars : Variables) : Settings where
  checkContracts := isOn ((vars "NULLPACT_CHECK_CONTRACTS").getD "")
  extraNames :=
    .ofList (((splitText ',' ((vars "NULLPACT_CONTRACT_ANNOTATIONS").getD "")).map strip).filter (· ≠ ""))

end Settings

end NullContract
