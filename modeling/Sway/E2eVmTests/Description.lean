import Sway.E2eVmTests.Toml

/-! Test descriptions, and how parse_test_toml reads one from the test.toml of a test.
Reading the file, building its FileCheck checker and parsing the TOML text come first
and belong to other crates: the model starts from their results. Each binding of
parse_test_toml is its own definition under the namespace parseTestToml. -/

namespace E2eVmTests

inductive TestCategory where
  | compiles
  | failsToCompile
  | runs
  | runsWithContract
  | unitTestsPass
  | disabled
  deriving DecidableEq, Repr

/-- The outcome a test expects from the virtual machine; a Word is the 64 bits of a u64. -/
inductive TestResult where
  | result (value : BitVec 64)
  | «return» (code : BitVec 64)
  | returnData (data : List UInt8)
  | revert (code : BitVec 64)
  deriving DecidableEq, Repr

/-- The build targets of sway_core, one for each virtual machine the harness runs. -/
inductive BuildTarget where
  | fuel
  | evm
  | midenVm
  deriving DecidableEq, Repr

/-- A FileCheck checker, by the directives it was built from. -/
structure Checker where
  directives : List String
  deriving DecidableEq, Repr

def Checker.isEmpty (checker : Checker) : Bool := checker.directives.isEmpty

/-- The supported targets are a set in the source; the model keeps the list it is built
from, and asks only for membership. -/
structure TestDescription where
  name : String
  category : TestCategory
  scriptData : Option (List UInt8)
  witnessData : Option (List (List UInt8))
  expectedResult : Option TestResult
  expectedWarnings : UInt32
  contractPaths : List String
  validateAbi : Bool
  validateStorageSlots : Bool
  supportedTargets : List BuildTarget
  checker : Checker
  deriving DecidableEq, Repr

/-- How a harness function ends without a value: an error handed back through ?, or a
panic (panic!, unwrap, todo!, assert!). -/
inductive Failure where
  | error (message : String)
  | panic (message : String)
  deriving DecidableEq, Repr

/-- What the harness takes from crates outside this repository: the Display text of a
TOML value, the Debug text of a character, and BuildTarget::from_str of sway_core. -/
structure External where
  showValue : TomlValue → String
  debugChar : Char → String
  buildTarget : String → Option BuildTarget

/-- The text of Option::unwrap on None. -/
def unwrapNone : String := "called `Option::unwrap()` on a `None` value"

/-- u32::try_from of an i64. -/
def u32TryFrom (v : BitVec 64) : Option UInt32 :=
  if 0 ≤ v.toInt ∧ v.toInt < UInt32.size then some (UInt32.ofNat v.toNat) else none

section
variable (external : External) (toml : TomlValue)

/-- hex::decode of an entry's string, its error reported under a field name. -/
def decodeField (field v : String) : Except Failure (List UInt8) :=
  match decode v with
  | .ok decoded => pure decoded
  | .error e => throw (.error ("Invalid hex value for '" ++ field ++ "': " ++ e.display external.debugChar))

def parseTestToml.category : Except Failure TestCategory :=
  match toml.get "category" with
  | none => throw (.error "Missing mandatory 'category' entry.")
  | some categoryVal =>
    match categoryVal.asStr with
    | some "run" => pure .runs
    | some "run_on_node" => pure .runsWithContract
    | some "fail" => pure .failsToCompile
    | some "compile" => pure .compiles
    | some "disabled" => pure .disabled
    | some "unit_tests_pass" => pure .unitTestsPass
    | none => throw (.error ("Malformed category '" ++ external.showValue categoryVal ++ "', should be a string."))
    | some other => throw (.error ("Unknown category '" ++ other ++ "'."))

def parseTestToml.scriptData (category : TestCategory) : Except Failure (Option (List UInt8)) :=
  match category with
  | .runs | .runsWithContract =>
    match toml.get "script_data" with
    | some (.string v) => some <$> decodeField external "script_data" v
    | some _ => throw (.error "Expected 'script_data' to be a hex string.")
    | none => pure none
  | .compiles | .failsToCompile | .unitTestsPass | .disabled => pure none

def parseTestToml.witnessItem (item : TomlValue) : Except Failure (List UInt8) :=
  match item.asStr with
  | none => throw (.error "witness data should be a hex string")
  | some x => decodeField external "script_data" x

def parseTestToml.witnessData (category : TestCategory) : Except Failure (Option (List (List UInt8))) :=
  match category with
  | .runs | .runsWithContract =>
    match toml.get "witness_data" with
    | some (.array items) => some <$> items.mapM (parseTestToml.witnessItem external)
    | some _ => throw (.error "Expected 'script_data' to be a hex string.")
    | none => pure none
  | .compiles | .failsToCompile | .unitTestsPass | .disabled => pure none

def getActionValue (action expectedValue : TomlValue) : Except Failure TestResult :=
  match action.asStr, expectedValue with
  | some "return", .integer v => pure (.return v)
  | some "result", .integer v => pure (.result v)
  | some "return_data", .string v => TestResult.returnData <$> decodeField external "return_data" v
  | some "revert", .integer v => pure (.revert v)
  | _, _ => throw (.error ("Malformed action value: " ++ external.showValue action ++ " " ++
      external.showValue expectedValue))

def getExpectedResult : Except Failure TestResult :=
  match toml.get "expected_result" with
  | none => throw (.error "Could not find mandatory 'expected_result' entry.")
  | some expectedResultTable =>
    match expectedResultTable.get "action" with
    | none => throw (.error "Could not find mandatory 'action' field in 'expected_result' entry.")
    | some action =>
      match expectedResultTable.get "value" with
      | none => throw (.error "Could not find mandatory 'value' field in 'expected_result' entry.")
      | some expectedValue => getActionValue external action expectedValue

def parseTestToml.expectedResult (category : TestCategory) : Except Failure (Option TestResult) :=
  match category with
  | .runs | .runsWithContract => some <$> getExpectedResult external toml
  | .compiles | .failsToCompile | .unitTestsPass | .disabled => pure none

def parseTestToml.contractPaths : Except Failure (List String) :=
  match toml.get "contracts" with
  | none => pure []
  | some contracts =>
    match contracts.asArray with
    | none => throw (.error "Contracts must be an array of strings.")
    | some vals => vals.mapM fun val =>
      match val.asStr with
      | none => throw (.error "Contracts must be path strings.")
      | some pathStr => pure pathStr

/-- A Boolean entry, false when it is absent or not a Boolean. -/
def parseTestToml.flag (key : String) : Bool :=
  ((toml.get key).map fun v => v.asBool.getD false).getD false

def parseTestToml.validateAbi : Bool := parseTestToml.flag toml "validate_abi"

def parseTestToml.validateStorageSlots : Bool := parseTestToml.flag toml "validate_storage_slots"

def parseTestToml.expectedWarnings : UInt32 :=
  (u32TryFrom (((toml.get "expected_warnings").map fun v => v.asInteger.getD 0).getD 0)).getD 0

/-- The test's name: the path below test_programs without its file name. The parent of
an empty path is None, and unwrapping it panics. -/
def parseTestToml.name (path : List String) : Except Failure String :=
  match (path.dropWhile (· != "test_programs")).drop 1 with
  | [] => throw (.panic unwrapNone)
  | relative => pure ("/".intercalate relative.dropLast)

def getTestAbiFromValue (value : TomlValue) : Except Failure BuildTarget :=
  match value.asStr with
  | some target =>
    match external.buildTarget target with
    | some target => pure target
    | none => throw (.error ("Unknown build target: " ++ target))
  | none => throw (.error "Invalid TOML value")

def parseTestToml.supportedTargets : Except Failure (List BuildTarget) := do
  let supportedTargets ← (((toml.get "supported_targets").map fun v => v.asArray.getD []).getD []).mapM
    (getTestAbiFromValue external)
  pure (if supportedTargets.isEmpty then [.fuel] else supportedTargets)

def parseTestToml (path : List String) (checker : Checker) : Except Failure TestDescription := do
  if !toml.isTable then throw (.error "Malformed test description.")
  let category ← parseTestToml.category external toml
  if category == .failsToCompile && checker.isEmpty then
    throw (.error "'fail' tests must contain some FileCheck verification directives.")
  let scriptData ← parseTestToml.scriptData external toml category
  let witnessData ← parseTestToml.witnessData external toml category
  let expectedResult ← parseTestToml.expectedResult external toml category
  let contractPaths ← parseTestToml.contractPaths toml
  let name ← parseTestToml.name path
  let supportedTargets ← parseTestToml.supportedTargets external toml
  pure ⟨name, category, scriptData, witnessData, expectedResult, parseTestToml.expectedWarnings toml,
    contractPaths, parseTestToml.validateAbi toml, parseTestToml.validateStorageSlots toml,
    supportedTargets, checker⟩

end

end E2eVmTests
