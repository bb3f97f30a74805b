import Sway.E2eVmTests.Discover

/-! TestContext::run, the contract cache of deploy_contract, and run. The harness, the
virtual machines and the node are absent from the sources: their calls are fields. -/

namespace E2eVmTests

/-- A package compiled by forc_pkg, by its name and its warnings. -/
structure BuiltPackage where
  name : String
  warnings : List String
  deriving DecidableEq, Repr

inductive Built where
  | package (builtPkg : BuiltPackage)
  | workspace (builtWorkspace : List BuiltPackage)
  deriving DecidableEq, Repr

inductive ProgramState where
  | «return» (v : BitVec 64)
  | returnData (digest : BitVec 256)
  | revert (v : BitVec 64)
  | runProgram
  | verifyPredicate
  deriving DecidableEq, Repr

inductive Receipt where
  | «return» (val : BitVec 64)
  | returnData (digest : BitVec 256) (data : Option (List UInt8))
  | logData (digest : BitVec 256) (data : Option (List UInt8))
  | revert (ra : BitVec 64)
  | panic
  | other
  deriving DecidableEq, Repr

namespace Receipt

def digest : Receipt → Option (BitVec 256)
  | returnData digest _ | logData digest _ => some digest
  | _ => none

def data : Receipt → Option (List UInt8)
  | returnData _ data | logData _ data => data
  | _ => none

def isRevertOrPanic : Receipt → Bool
  | revert _ | panic => true
  | _ => false

end Receipt

/-- How an EVM program ended; other reasons carry their Debug text. -/
inductive EvmReturn where
  | «continue»
  | stop
  | «return»
  | selfDestruct
  | revert
  | other (debug : String)
  deriving DecidableEq, Repr

inductive VMExecutionResult where
  | fuel (state : ProgramState) (receipts : List Receipt)
  | evm (exitReason : EvmReturn)
  | midenVm (stack : List (BitVec 64))
  deriving DecidableEq, Repr

structure TestedTest where
  name : String
  passed : Bool
  state : String
  condition : String
  deriving DecidableEq, Repr

structure TestedPackage where
  name : String
  tests : List TestedTest
  deriving DecidableEq, Repr

abbrev ContractId := BitVec 256

/-- The calls TestContext::run makes outside this repository's sources, for a node whose
state is ν, and the texts of the panics of the assertion macros it uses. -/
structure Harness (ν : Type) where
  compileToBytes : String → Except String Built × String
  runsInVm : BuiltPackage → Option (List UInt8) → Option (List (List UInt8)) → Except String VMExecutionResult
  testJsonAbi : String → BuiltPackage → Except String Unit × String
  testJsonStorageSlots : String → BuiltPackage → Except String Unit × String
  deployContract : ν → String → (Except String ContractId × String) × ν
  runsOnNode : ν → String → List ContractId → (Except String (List Receipt) × String) × ν
  compileAndRunUnitTests : String → Except String (List TestedPackage) × String
  explain : Checker → String → Except String (Bool × String)
  showReceipts : List Receipt → String
  assertMatchesFailed : Receipt → String
  assertEqFailed : BitVec 64 → BitVec 64 → String
  deriving Inhabited

/-- What the tests share and what one test writes: the contracts deployed so far, by
path (the context's map), the node, and the output of the running test. -/
structure Session (ν : Type) where
  deployedContracts : List (String × ContractId)
  node : ν
  output : String
  deriving Inhabited

abbrev HarnessM (ν : Type) := ExceptT Failure (StateM (Session ν))

def TestResult.debug : TestResult → String
  | .result value => "Result(" ++ toString value.toNat ++ ")"
  | .return code => "Return(" ++ toString code.toNat ++ ")"
  | .returnData data => "ReturnData(0x" ++ encode data ++ ")"
  | .revert code => "Revert(" ++ toString code.toNat ++ ")"

def debugExpectedResult : Option TestResult → String
  | some result => "Some(" ++ result.debug ++ ")"
  | none => "None"

def TestCategory.debug : TestCategory → String
  | .compiles => "Compiles"
  | .failsToCompile => "FailsToCompile"
  | .runs => "Runs"
  | .runsWithContract => "RunsWithContract"
  | .unitTestsPass => "UnitTestsPass"
  | .disabled => "Disabled"

section
variable {ν : Type} (harness : Harness ν)

/-- The ? operator on a result of another crate. -/
def propagate {α : Type} : Except String α → HarnessM ν α
  | .ok a => pure a
  | .error e => throw (.error e)

def setOutput (out : String) : HarnessM ν Unit := modify fun s => { s with output := out }

def pushOutput (out : String) : HarnessM ν Unit := modify fun s => { s with output := s.output ++ out }

/-- The id deployed for the path before, or a new deployment, recorded in the map when it
succeeds. A known path prints nothing. -/
def TestContext.deployContract (contractPath : String) : StateM (Session ν) (Except String ContractId × String) := do
  let s ← get
  match s.deployedContracts.lookup contractPath with
  | some contractId => pure (.ok contractId, "")
  | none =>
    let ((result, out), node) := harness.deployContract s.node contractPath
    match result with
    | .ok contractId =>
      set { s with deployedContracts := (contractPath, contractId) :: s.deployedContracts, node := node }
      pure (.ok contractId, out)
    | .error e =>
      set { s with node := node }
      pure (.error e, out)

def checkFileChecker (checker : Checker) (name output : String) : HarnessM ν Unit :=
  match harness.explain checker output with
  | .ok (success, report) =>
    if !success then throw (.error ("For " ++ name ++ ":\nFilecheck failed:\n" ++ report)) else pure ()
  | .error e => throw (.panic ("For " ++ name ++ ":\nFilecheck directive error: " ++ e))

def TestContext.run.result : VMExecutionResult → Except Failure TestResult
  | .fuel state receipts =>
    match state with
    | .return v => pure (.return v)
    | .returnData digest =>
      match receipts.find? (fun r => r.digest == some digest) with
      | none => throw (.panic unwrapNone)
      | some receipt =>
        match receipt.data with
        | none => throw (.panic unwrapNone)
        | some data => pure (.returnData data)
    | .revert v => pure (.revert v)
    | .runProgram => throw (.panic "not yet implemented")
    | .verifyPredicate => throw (.panic "not yet implemented")
  | .evm exitReason =>
    match exitReason with
    | .continue => throw (.panic "not yet implemented")
    | .stop => pure (.result 0)
    | .return => throw (.panic "not yet implemented")
    | .selfDestruct => throw (.panic "not yet implemented")
    | .revert => pure (.revert 0)
    | .other debug => throw (.panic ("EVM exited with unhandled reason: " ++ debug))
  | .midenVm stack =>
    match stack with
    | [] => throw (.panic "index out of bounds: the len is 0 but the index is 0")
    | top :: _ => pure (.return top)

def TestContext.run.runsExpected (test : TestDescription) : Except Failure TestResult :=
  match test.expectedResult with
  | some (.return code) => pure (.return code)
  | some (.returnData data) => pure (.returnData data)
  | some (.revert code) => pure (.revert code)
  | _ => throw (.panic ("For " ++ test.name ++ ":\nInvalid expected result for a 'runs' test: " ++
      debugExpectedResult test.expectedResult ++ "."))

def TestContext.run.package : Built → Except Failure BuiltPackage
  | .package builtPkg => pure builtPkg
  | .workspace _ => throw (.panic "workspaces are not supported in the test suite yet")

def TestContext.run.checkWarnings (test : TestDescription) (builtPkg : BuiltPackage) : Except Failure Unit :=
  if builtPkg.warnings.length > test.expectedWarnings.toNat then
    throw (.error ("Expected warnings: " ++ toString test.expectedWarnings ++ "\nActual number of warnings: " ++
      toString builtPkg.warnings.length))
  else pure ()

def TestContext.run.runs (test : TestDescription) : HarnessM ν Unit := do
  let res ← liftExcept (TestContext.run.runsExpected test)
  let (result, out) := harness.compileToBytes test.name
  setOutput out
  let compiled ← liftExcept (TestContext.run.package (← propagate result))
  liftExcept (TestContext.run.checkWarnings test compiled)
  let result ← propagate (harness.runsInVm compiled test.scriptData test.witnessData)
  let result ← liftExcept (TestContext.run.result result)
  if result != res then
    throw (.error ("expected: " ++ res.debug ++ "\nactual: " ++ result.debug))
  else if test.validateAbi then
    let (result, out) := harness.testJsonAbi test.name compiled
    pushOutput out
    propagate result

/-- One JSON check for each compiled package, the output kept after a passed check only. -/
def TestContext.run.validatePackages (check : String → BuiltPackage → Except String Unit × String) :
    List (String × BuiltPackage) → HarnessM ν Unit
  | [] => pure ()
  | (name, builtPkg) :: rest => do
    let (result, out) := check name builtPkg
    propagate result
    pushOutput out
    TestContext.run.validatePackages check rest

/-- The packages a compiles test checks: a single package within its warnings, or every
member of a workspace, whose warnings are not counted. -/
def TestContext.run.compiledPkgs (test : TestDescription) : Built → Except Failure (List (String × BuiltPackage))
  | .package builtPkg => do
    TestContext.run.checkWarnings test builtPkg
    pure [(test.name, builtPkg)]
  | .workspace builtWorkspace => pure (builtWorkspace.map fun builtPkg => (builtPkg.name, builtPkg))

def TestContext.run.compiles (test : TestDescription) : HarnessM ν Unit := do
  let (result, out) := harness.compileToBytes test.name
  setOutput out
  let compiledPkgs ← liftExcept (TestContext.run.compiledPkgs test (← propagate result))
  checkFileChecker harness test.checker test.name (← get).output
  if test.validateAbi then
    TestContext.run.validatePackages harness.testJsonAbi compiledPkgs
  if test.validateStorageSlots then
    TestContext.run.validatePackages harness.testJsonStorageSlots compiledPkgs

def TestContext.run.failsToCompile (test : TestDescription) : HarnessM ν Unit := do
  let (result, out) := harness.compileToBytes test.name
  setOutput out
  match result with
  | .ok _ => throw (.error "Test compiles but is expected to fail")
  | .error _ => checkFileChecker harness test.checker test.name (← get).output

def TestContext.run.deployContracts : List String → HarnessM ν (List (Except String ContractId))
  | [] => pure []
  | contractPath :: rest => do
    let (result, out) ← (TestContext.deployContract harness contractPath : StateM (Session ν) _)
    pushOutput out
    let results ← TestContext.run.deployContracts rest
    pure (result :: results)

def TestContext.run.onNode (name : String) (contractIds : List ContractId) :
    StateM (Session ν) (Except String (List Receipt) × String) :=
  modifyGet fun s =>
    let (caught, node) := harness.runsOnNode s.node name contractIds
    (caught, { s with node := node })

def TestContext.run.contractExpected (test : TestDescription) : Except Failure (BitVec 64) :=
  match test.expectedResult with
  | some (.result val) =>
    if test.contractPaths.isEmpty then
      throw (.panic ("For " ++ test.name ++ "\nOne or more contract paths are required for 'run_on_node' tests."))
    else pure val
  | _ => throw (.panic ("For " ++ test.name ++ ":\nExpecting a 'result' action for a 'run_on_node' test, found: " ++
      debugExpectedResult test.expectedResult ++ "."))

/-- The receipts of a run_on_node test hold no revert or panic, and the one before the last
returns the expected value. -/
def TestContext.run.checkReceipts (val : BitVec 64) (receipt : List Receipt) : Except Failure Unit :=
  if !receipt.all fun res => !res.isRevertOrPanic then
    throw (.panic ("Receipts contain reverts or panics: " ++ harness.showReceipts receipt))
  else if !(receipt.length ≥ 2) then
    throw (.panic "assertion failed: receipt.len() >= 2")
  else
    match receipt[receipt.length - 2]? with
    | some (.return v) => if v != val then throw (.panic (harness.assertEqFailed v val)) else pure ()
    | some received => throw (.panic (harness.assertMatchesFailed received))
    | none => throw (.panic "index out of bounds")

def TestContext.run.runsWithContract (test : TestDescription) : HarnessM ν Unit := do
  let val ← liftExcept (TestContext.run.contractExpected test)
  let contractIds ← TestContext.run.deployContracts harness test.contractPaths
  let contractIds ← propagate (contractIds.mapM id)
  let (result, out) ← (TestContext.run.onNode harness test.name contractIds : StateM (Session ν) _)
  pushOutput out
  let receipt ← propagate result
  liftExcept (TestContext.run.checkReceipts harness val receipt)

def TestContext.run.failure (pkg : TestedPackage) (test : TestedTest) : String :=
  pkg.name ++ ": Test '" ++ test.name ++ "' failed with state " ++ test.state ++ ", expected: " ++ test.condition

def TestContext.run.unitTestsPass (test : TestDescription) : HarnessM ν Unit := do
  let (result, out) := harness.compileAndRunUnitTests test.name
  setOutput out
  let testedPkgs ← propagate result
  let failed := testedPkgs.flatMap fun pkg =>
    (pkg.tests.filter fun test => !test.passed).map (TestContext.run.failure pkg)
  if !failed.isEmpty then
    throw (.panic ("For " ++ test.name ++ "\n" ++ toString failed.length ++ " tests failed:\n" ++ String.join failed))

def TestContext.run (test : TestDescription) : HarnessM ν Unit :=
  match test.category with
  | .runs => TestContext.run.runs harness test
  | .compiles => TestContext.run.compiles harness test
  | .failsToCompile => TestContext.run.failsToCompile harness test
  | .runsWithContract => TestContext.run.runsWithContract harness test
  | .unitTestsPass => TestContext.run.unitTestsPass harness test
  | category => throw (.error ("Unexpected test category: " ++ category.debug))

end

structure FilterConfig where
  skipUntil : Option (String → Bool)
  «include» : Option (String → Bool)
  exclude : Option (String → Bool)
  abiOnly : Bool
  contractOnly : Bool
  firstOnly : Bool

/-- VecExt::retained of the util module, absent from the sources and modelled from its uses
in run: it visits the elements once and in order, as Vec::retain does, with a closure that
may keep a state, keeps the elements the closure accepts and returns the others. -/
def retained {α σ : Type} (keep : σ → α → Bool × σ) : σ → List α → List α × List α
  | _, [] => ([], [])
  | state, a :: rest =>
    let (kept, next) := keep state a
    let (tests, removed) := retained keep next rest
    if kept then (a :: tests, removed) else (tests, a :: removed)

def skipUntilClosure (skipUntil : String → Bool) (found : Bool) (t : TestDescription) : Bool × Bool :=
  if found then (true, true)
  else if skipUntil t.name then (true, true)
  else (false, false)

def run.select (filterConfig : FilterConfig) (tests : List TestDescription) : List TestDescription :=
  let tests := match filterConfig.skipUntil with
    | some skipUntil => (retained (skipUntilClosure skipUntil) false tests).1
    | none => tests
  let tests := (retained (fun () t => (t.category != .disabled, ())) () tests).1
  let tests := match filterConfig.«include» with
    | some includes => (retained (fun () t => (includes t.name, ())) () tests).1
    | none => tests
  let tests := match filterConfig.exclude with
    | some exclude => (retained (fun () t => (!exclude t.name, ())) () tests).1
    | none => tests
  let tests := if filterConfig.abiOnly then tests.filter (·.validateAbi) else tests
  let tests := if filterConfig.contractOnly then tests.filter (·.category == .runsWithContract) else tests
  if filterConfig.firstOnly && !tests.isEmpty then tests.take 1 else tests

structure Tally where
  numberOfTestsExecuted : Nat
  numberOfTestsFailed : Nat
  failedTests : List String
  deriving DecidableEq, Repr

section
variable {ν : Type} (harness : Harness ν)

/-- The loop of run: a test for another build target is passed over uncounted, a test
that returns an error is counted failed, and a panic ends the run. Each test starts with
an empty output. -/
def run.loop (buildTarget : BuildTarget) : List TestDescription → Tally → StateM (Session ν) (Except Failure Tally)
  | [], tally => pure (.ok tally)
  | test :: rest, tally =>
    if !test.supportedTargets.contains buildTarget then run.loop buildTarget rest tally
    else do
      modify fun s => { s with output := "" }
      match ← (TestContext.run harness test).run with
      | .error (.panic message) => pure (.error (.panic message))
      | .error (.error _) =>
        run.loop buildTarget rest
          ⟨tally.numberOfTestsExecuted + 1, tally.numberOfTestsFailed + 1, tally.failedTests ++ [test.name]⟩
      | .ok () =>
        run.loop buildTarget rest ⟨tally.numberOfTestsExecuted + 1, tally.numberOfTestsFailed, tally.failedTests⟩

/-- run: the tests discover_test_configs finds, whose error ends it at once, then the
selected ones run for a build target in a new context, an error when one of them failed. -/
def run (loader : Loader) (external : External) (manifestDir : List String) (testPrograms : List Entry)
    (filterConfig : FilterConfig) (buildTarget : BuildTarget) : StateM (Session ν) (Except Failure Unit) :=
  match discoverTestConfigs loader external manifestDir testPrograms with
  | .error failure => pure (.error failure)
  | .ok tests => do
    modify fun s => { s with deployedContracts := [] }
    match ← run.loop harness buildTarget (run.select filterConfig tests) ⟨0, 0, []⟩ with
    | .error failure => pure (.error failure)
    | .ok tally => pure (if tally.numberOfTestsFailed ≠ 0 then .error (.error "Failed tests") else .ok ())

end

end E2eVmTests
