import Sway.E2eVmTests.Run
import Sway.E2eVmTests.Proofs.Parse

/-! What a test has to do to pass, each action of the harness read through its outcome:
what it returns from a session, and the session it leaves. -/

namespace E2eVmTests

section Outcome
variable {ν α β : Type}

/-- What an action of the harness returns from a session, and the session it leaves. -/
def outcome (x : HarnessM ν α) (s : Session ν) : Except Failure α × Session ν := x.run.run s

@[simp] theorem outcome_pure (a : α) (s : Session ν) : outcome (pure a : HarnessM ν α) s = (.ok a, s) := rfl

@[simp] theorem outcome_throw (f : Failure) (s : Session ν) :
    outcome (throw f : HarnessM ν α) s = (.error f, s) := rfl

theorem outcome_bind (x : HarnessM ν α) (f : α → HarnessM ν β) (s : Session ν) :
    outcome (x >>= f) s = match outcome x s with
      | (.ok a, t) => outcome (f a) t
      | (.error e, t) => (.error e, t) := by
  unfold outcome
  rw [ExceptT.run_bind, StateT.run_bind]
  rcases x.run.run s with ⟨_ | _, _⟩ <;> rfl

theorem outcome_bind_ok {x : HarnessM ν α} {f : α → HarnessM ν β} {s u : Session ν} {b : β} :
    outcome (x >>= f) s = (.ok b, u) ↔ ∃ a t, outcome x s = (.ok a, t) ∧ outcome (f a) t = (.ok b, u) := by
  rw [outcome_bind]
  rcases outcome x s with ⟨_ | a, t⟩
  · simp
  · exact ⟨fun passed => ⟨a, t, rfl, passed⟩, fun ⟨_, _, same, passed⟩ => by cases same; exact passed⟩

@[simp] theorem outcome_lift (m : StateM (Session ν) α) (s : Session ν) :
    outcome (m : HarnessM ν α) s = (.ok (m.run s).1, (m.run s).2) := rfl

@[simp] theorem outcome_liftExcept (r : Except Failure α) (s : Session ν) :
    outcome (liftExcept r : HarnessM ν α) s = (r, s) := by
  cases r <;> rfl

@[simp] theorem outcome_propagate (r : Except String α) (s : Session ν) :
    outcome (propagate r) s = (r.mapError .error, s) := by
  cases r <;> rfl

@[simp] theorem outcome_setOutput (out : String) (s : Session ν) :
    outcome (setOutput out) s = (.ok (), { s with output := out }) := rfl

@[simp] theorem outcome_pushOutput (out : String) (s : Session ν) :
    outcome (pushOutput out) s = (.ok (), { s with output := s.output ++ out }) := rfl

@[simp] theorem outcome_get (s : Session ν) : outcome (get : HarnessM ν (Session ν)) s = (.ok s, s) := rfl

end Outcome

section
variable {ν : Type} (harness : Harness ν)

/-- What a passing runs test has seen: one package within its warnings, run by the virtual
machine to the expected result, and a passed ABI check when the test asks for one. -/
def TestDescription.observedRuns (test : TestDescription) : Prop :=
  ∃ builtPkg vm result, (harness.compileToBytes test.name).1 = .ok (.package builtPkg) ∧
    builtPkg.warnings.length ≤ test.expectedWarnings.toNat ∧
    harness.runsInVm builtPkg test.scriptData test.witnessData = .ok vm ∧
    TestContext.run.result vm = .ok result ∧ test.expectedResult = some result ∧
    (test.validateAbi = true → (harness.testJsonAbi test.name builtPkg).1 = .ok ())

def TestDescription.observedCompiles (test : TestDescription) : Prop :=
  ∃ built pkgs, (harness.compileToBytes test.name).1 = .ok built ∧
    TestContext.run.compiledPkgs test built = .ok pkgs ∧
    (∃ report, harness.explain test.checker (harness.compileToBytes test.name).2 = .ok (true, report)) ∧
    (test.validateAbi = true → ∀ pkg ∈ pkgs, (harness.testJsonAbi pkg.1 pkg.2).1 = .ok ()) ∧
    (test.validateStorageSlots = true → ∀ pkg ∈ pkgs, (harness.testJsonStorageSlots pkg.1 pkg.2).1 = .ok ())

def TestDescription.observedFailsToCompile (test : TestDescription) : Prop :=
  (∃ e, (harness.compileToBytes test.name).1 = .error e) ∧
    ∃ report, harness.explain test.checker (harness.compileToBytes test.name).2 = .ok (true, report)

def TestDescription.observedRunsWithContract (test : TestDescription) : Prop :=
  ∃ val, test.expectedResult = some (.result val) ∧ test.contractPaths ≠ [] ∧
    ∃ node contractIds receipt, (harness.runsOnNode node test.name contractIds).1.1 = .ok receipt ∧
      (∀ r ∈ receipt, r.isRevertOrPanic = false) ∧ receipt[receipt.length - 2]? = some (.return val)

def TestDescription.observedUnitTestsPass (test : TestDescription) : Prop :=
  ∃ testedPkgs, (harness.compileAndRunUnitTests test.name).1 = .ok testedPkgs ∧
    ∀ pkg ∈ testedPkgs, ∀ tested ∈ pkg.tests, tested.passed = true

/-- What the harness must have reported for a test of each category to pass; a disabled
test never passes. -/
def TestDescription.Observed (test : TestDescription) : Prop :=
  match test.category with
  | .runs => test.observedRuns harness
  | .compiles => test.observedCompiles harness
  | .failsToCompile => test.observedFailsToCompile harness
  | .runsWithContract => test.observedRunsWithContract harness
  | .unitTestsPass => test.observedUnitTestsPass harness
  | .disabled => False

end

section
variable {ν : Type} (harness : Harness ν)

theorem runsExpected_eq_ok {test : TestDescription} {res : TestResult}
    (expected : TestContext.run.runsExpected test = .ok res) : test.expectedResult = some res := by
  unfold TestContext.run.runsExpected at expected
  split at expected <;> cases expected <;> assumption

theorem package_eq_ok {built : Built} {builtPkg : BuiltPackage}
    (single : TestContext.run.package built = .ok builtPkg) : built = .package builtPkg := by
  cases built with
  | package => cases single; rfl
  | workspace => cases single

theorem checkWarnings_eq_ok {test : TestDescription} {builtPkg : BuiltPackage} {u : Unit}
    (within : TestContext.run.checkWarnings test builtPkg = .ok u) :
    builtPkg.warnings.length ≤ test.expectedWarnings.toNat := by
  unfold TestContext.run.checkWarnings at within
  split at within
  · cases within
  · omega

/-- What a passing runs test went through: one package within its warnings, run by the
virtual machine to the result the test expects, which is a return, return data or a
revert; and a passed ABI check when the test asks for one. -/
theorem runs_eq_ok {test : TestDescription} {s t : Session ν}
    (passed : outcome (TestContext.run.runs harness test) s = (.ok (), t)) :
    ∃ builtPkg vm res, (harness.compileToBytes test.name).1 = .ok (.package builtPkg) ∧
      builtPkg.warnings.length ≤ test.expectedWarnings.toNat ∧
      harness.runsInVm builtPkg test.scriptData test.witnessData = .ok vm ∧
      TestContext.run.runsExpected test = .ok res ∧ TestContext.run.result vm = .ok res ∧
      (test.validateAbi = true → (harness.testJsonAbi test.name builtPkg).1 = .ok ()) := by
  unfold TestContext.run.runs at passed
  rcases compiled : harness.compileToBytes test.name with ⟨result, out⟩
  simp only [outcome_bind_ok, outcome_liftExcept, outcome_setOutput, outcome_propagate, compiled, Prod.mk.injEq,
    mapError_eq_ok, exists_and_left, exists_eq_left', exists_eq_left, and_assoc] at passed
  obtain ⟨res, expected, -, -, built, rfl, builtPkg, single, _, within, vm, ran, outcome', computed, passed⟩ := passed
  split at passed
  · simp only [outcome_throw, Prod.mk.injEq, reduceCtorEq, false_and] at passed
  · rename_i same
    simp only [bne_iff_ne, ne_eq, Decidable.not_not] at same
    subst same
    refine ⟨builtPkg, vm, outcome', by rw [package_eq_ok single], checkWarnings_eq_ok within, ran, expected,
      computed, fun abi => ?_⟩
    simp only [abi, if_true, outcome_bind_ok, outcome_pushOutput, outcome_propagate, Prod.mk.injEq,
      mapError_eq_ok] at passed
    obtain ⟨_, _, ⟨-, rfl⟩, checked, -⟩ := passed
    exact checked

theorem runs_passed {test : TestDescription} {s t : Session ν}
    (passed : outcome (TestContext.run.runs harness test) s = (.ok (), t)) :
    test.observedRuns harness := by
  obtain ⟨builtPkg, vm, res, built, within, ran, expected, computed, abi⟩ := runs_eq_ok harness passed
  exact ⟨builtPkg, vm, res, built, within, ran, computed, runsExpected_eq_ok expected, abi⟩

theorem runsExpected_ne_result {test : TestDescription} {res : TestResult}
    (expected : TestContext.run.runsExpected test = .ok res) (v : BitVec 64) : res ≠ .result v := by
  unfold TestContext.run.runsExpected at expected
  split at expected <;> cases expected <;> nofun

theorem runs_after_vm {test : TestDescription} {s : Session ν} {builtPkg : BuiltPackage}
    {vm : VMExecutionResult} {res : TestResult} (expected : TestContext.run.runsExpected test = .ok res)
    (built : (harness.compileToBytes test.name).1 = .ok (.package builtPkg))
    (within : builtPkg.warnings.length ≤ test.expectedWarnings.toNat)
    (ran : harness.runsInVm builtPkg test.scriptData test.witnessData = .ok vm) :
    (outcome (TestContext.run.runs harness test) s).1 =
      match TestContext.run.result vm with
      | .error failure => .error failure
      | .ok result =>
        if result != res then .error (.error ("expected: " ++ res.debug ++ "\nactual: " ++ result.debug))
        else if test.validateAbi then (harness.testJsonAbi test.name builtPkg).1.mapError .error
        else .ok () := by
  have warned : TestContext.run.checkWarnings test builtPkg = .ok () := by
    simp only [TestContext.run.checkWarnings, gt_iff_lt, Nat.not_lt.mpr within, if_false]
    rfl
  unfold TestContext.run.runs
  rcases compiled : harness.compileToBytes test.name with ⟨result, out⟩
  obtain rfl : result = .ok (.package builtPkg) := by rw [compiled] at built; exact built
  have single : TestContext.run.package (.package builtPkg) = .ok builtPkg := rfl
  simp only [outcome_bind, outcome_liftExcept, expected, outcome_setOutput, outcome_propagate, Except.mapError,
    single, warned, ran]
  rcases TestContext.run.result vm with failure | result
  · rfl
  · dsimp only
    split
    · rfl
    · split
      · simp only [outcome_bind, outcome_pushOutput, outcome_propagate, Except.mapError]
      · rfl

theorem result_evm_stop : TestContext.run.result (.evm .stop) = .ok (.result 0) := rfl

theorem result_evm_revert : TestContext.run.result (.evm .revert) = .ok (.revert 0) := rfl

theorem result_evm_panics {exitReason : EvmReturn} (stops : exitReason ≠ .stop) (reverts : exitReason ≠ .revert) :
    ∃ message, TestContext.run.result (.evm exitReason) = .error (.panic message) := by
  cases exitReason <;> first | exact absurd rfl stops | exact absurd rfl reverts | exact ⟨_, rfl⟩

/-- On the EVM a runs test that built within its warnings passes exactly when the program
reverted, the test expects Revert(0) and a requested ABI check passes. A program that stops
gives Result(0), which no valid expected result equals, so the test fails with an error;
every other exit reason panics. -/
theorem runs_evm_outcome {test : TestDescription} {s : Session ν} {builtPkg : BuiltPackage}
    {exitReason : EvmReturn} {res : TestResult} (category : test.category = .runs)
    (expected : TestContext.run.runsExpected test = .ok res)
    (built : (harness.compileToBytes test.name).1 = .ok (.package builtPkg))
    (within : builtPkg.warnings.length ≤ test.expectedWarnings.toNat)
    (evm : harness.runsInVm builtPkg test.scriptData test.witnessData = .ok (.evm exitReason)) :
    ((outcome (TestContext.run harness test) s).1 = .ok () ↔
        exitReason = .revert ∧ test.expectedResult = some (.revert 0) ∧
          (test.validateAbi = true → (harness.testJsonAbi test.name builtPkg).1 = .ok ())) ∧
      (exitReason = .stop → ∃ message, (outcome (TestContext.run harness test) s).1 = .error (.error message)) ∧
      (exitReason ≠ .stop → exitReason ≠ .revert →
        ∃ message, (outcome (TestContext.run harness test) s).1 = .error (.panic message)) := by
  unfold TestContext.run
  simp only [category]
  have closed := runs_after_vm harness (s := s) expected built within evm
  rw [runsExpected_eq_ok expected, closed]
  by_cases stops : exitReason = .stop
  · subst stops
    have differs : (TestResult.result 0 != res) = true := bne_iff_ne.mpr (runsExpected_ne_result expected 0).symm
    simp only [result_evm_stop, differs, if_true]
    exact ⟨by simp, fun _ => ⟨_, rfl⟩, fun other => absurd rfl other⟩
  by_cases reverts : exitReason = .revert
  · subst reverts
    refine ⟨?_, nofun, fun _ other => absurd rfl other⟩
    by_cases same : res = .revert 0
    · subst same
      cases abi : test.validateAbi <;> rcases harness.testJsonAbi test.name builtPkg with ⟨_ | _, _⟩ <;>
        simp [result_evm_revert, abi, Except.mapError]
    · rw [result_evm_revert]
      dsimp only
      rw [if_pos (bne_iff_ne.mpr (Ne.symm same))]
      exact ⟨nofun, fun ⟨_, named, _⟩ => absurd (Option.some.inj named) same⟩
  obtain ⟨message, panics⟩ := result_evm_panics stops reverts
  simp only [panics]
  exact ⟨by simp [reverts], fun same => absurd same stops, fun _ _ => ⟨message, rfl⟩⟩

/-- A harness whose builds succeed with no warning and whose programs the EVM ends with a
revert. -/
def revertingHarness : Harness Unit :=
  { (default : Harness Unit) with
    compileToBytes := fun name => (.ok (.package ⟨name, []⟩), "")
    runsInVm := fun _ _ _ => .ok (.evm .revert) }

def revertTest : TestDescription := ⟨"revert", .runs, none, none, some (.revert 0), 0, [], false, false, [.fuel], ⟨[]⟩⟩

theorem runs_evm_outcome_revert :
    revertTest.category = .runs ∧ TestContext.run.runsExpected revertTest = .ok (.revert 0) ∧
      (revertingHarness.compileToBytes revertTest.name).1 = .ok (.package ⟨"revert", []⟩) ∧
      (⟨"revert", []⟩ : BuiltPackage).warnings.length ≤ revertTest.expectedWarnings.toNat ∧
      revertingHarness.runsInVm ⟨"revert", []⟩ revertTest.scriptData revertTest.witnessData = .ok (.evm .revert) ∧
      (((outcome (TestContext.run revertingHarness revertTest) default).1 = .ok () ↔
          EvmReturn.revert = .revert ∧ revertTest.expectedResult = some (.revert 0) ∧
            (revertTest.validateAbi = true → (revertingHarness.testJsonAbi revertTest.name ⟨"revert", []⟩).1 = .ok ())) ∧
        (EvmReturn.revert = .stop →
          ∃ message, (outcome (TestContext.run revertingHarness revertTest) default).1 = .error (.error message)) ∧
        (EvmReturn.revert ≠ .stop → EvmReturn.revert ≠ .revert →
          ∃ message, (outcome (TestContext.run revertingHarness revertTest) default).1 = .error (.panic message))) :=
  ⟨rfl, rfl, rfl, Nat.le_refl 0, rfl, runs_evm_outcome revertingHarness rfl rfl rfl (Nat.le_refl 0) rfl⟩

theorem checkFileChecker_passed {checker : Checker} {name output : String} {s t : Session ν} {u : Unit}
    (passed : outcome (checkFileChecker harness checker name output) s = (.ok u, t)) :
    t = s ∧ ∃ report, harness.explain checker output = .ok (true, report) := by
  unfold checkFileChecker at passed
  split at passed
  · rename_i success report found
    cases success <;> simp_all
  · simp at passed

theorem failsToCompile_passed {test : TestDescription} {s t : Session ν}
    (passed : outcome (TestContext.run.failsToCompile harness test) s = (.ok (), t)) :
    test.observedFailsToCompile harness := by
  unfold TestContext.run.failsToCompile at passed
  unfold TestDescription.observedFailsToCompile
  rcases compiled : harness.compileToBytes test.name with ⟨_ | _, out⟩ <;>
    simp only [compiled, outcome_bind_ok, outcome_setOutput, outcome_get, outcome_throw, Prod.mk.injEq,
      Except.ok.injEq, reduceCtorEq, false_and, exists_false, exists_and_left, exists_eq_left', exists_eq_left,
      true_and, and_assoc, exists_const] at passed
  exact ⟨⟨_, rfl⟩, (checkFileChecker_passed harness passed).2⟩

theorem validatePackages_passed {check : String → BuiltPackage → Except String Unit × String}
    {pkgs : List (String × BuiltPackage)} {s t : Session ν} {u : Unit}
    (passed : outcome (TestContext.run.validatePackages check pkgs) s = (.ok u, t)) :
    ∀ pkg ∈ pkgs, (check pkg.1 pkg.2).1 = .ok () := by
  induction pkgs generalizing s with
  | nil => nofun
  | cons pkg rest ih =>
    obtain ⟨name, builtPkg⟩ := pkg
    simp only [TestContext.run.validatePackages, outcome_bind_ok, outcome_propagate, outcome_pushOutput,
      Prod.mk.injEq, mapError_eq_ok] at passed
    obtain ⟨_, _, ⟨checked, rfl⟩, _, _, ⟨-, rfl⟩, rest⟩ := passed
    intro other member
    cases member with
    | head => exact checked
    | tail _ member => exact ih rest other member

theorem compiles_passed {test : TestDescription} {s t : Session ν}
    (passed : outcome (TestContext.run.compiles harness test) s = (.ok (), t)) :
    test.observedCompiles harness := by
  unfold TestContext.run.compiles at passed
  unfold TestDescription.observedCompiles
  rcases compiled : harness.compileToBytes test.name with ⟨result, out⟩
  simp only [compiled, outcome_bind_ok, outcome_setOutput, outcome_propagate, outcome_liftExcept, outcome_get,
    Prod.mk.injEq, Except.ok.injEq, mapError_eq_ok, exists_and_left, exists_eq_left', exists_eq_left, and_assoc,
    exists_const, true_and] at passed
  obtain ⟨built, rfl, pkgs, chosen, _, _, checked, passed⟩ := passed
  have explained := (checkFileChecker_passed harness checked).2
  refine ⟨built, pkgs, rfl, chosen, explained, fun abi => ?_, fun slots => ?_⟩
  · simp only [abi, if_true, outcome_bind_ok] at passed
    obtain ⟨_, _, validated, -⟩ := passed
    exact validatePackages_passed validated
  · cases abi : test.validateAbi <;>
      simp only [abi, slots, if_true, Bool.false_eq_true, if_false, outcome_bind_ok, outcome_pure, Prod.mk.injEq,
        Except.ok.injEq, exists_and_left, exists_eq_left', and_assoc, exists_const, true_and] at passed
    · exact validatePackages_passed passed
    · obtain ⟨_, _, -, validated⟩ := passed
      exact validatePackages_passed validated

theorem contractExpected_eq_ok {test : TestDescription} {val : BitVec 64}
    (expected : TestContext.run.contractExpected test = .ok val) :
    test.expectedResult = some (.result val) ∧ test.contractPaths ≠ [] := by
  unfold TestContext.run.contractExpected at expected
  split at expected
  · rename_i found
    split at expected
    · cases expected
    · rename_i nonempty
      cases expected
      exact ⟨found, by simpa using nonempty⟩
  · cases expected

theorem checkReceipts_eq_ok {val : BitVec 64} {receipt : List Receipt} {u : Unit}
    (checked : TestContext.run.checkReceipts harness val receipt = .ok u) :
    (∀ r ∈ receipt, r.isRevertOrPanic = false) ∧ receipt[receipt.length - 2]? = some (.return val) := by
  unfold TestContext.run.checkReceipts at checked
  split at checked
  · cases checked
  · rename_i clean
    split at checked
    · cases checked
    · split at checked
      · rename_i v found
        split at checked
        · cases checked
        · rename_i same
          simp only [bne_iff_ne, ne_eq, Decidable.not_not] at same
          subst same
          exact ⟨by simpa using clean, found⟩
      · cases checked
      · cases checked

@[simp] theorem onNode_run (name : String) (contractIds : List ContractId) (s : Session ν) :
    (TestContext.run.onNode harness name contractIds).run s =
      ((harness.runsOnNode s.node name contractIds).1,
        { s with node := (harness.runsOnNode s.node name contractIds).2 }) := rfl

theorem runsWithContract_passed {test : TestDescription} {s t : Session ν}
    (passed : outcome (TestContext.run.runsWithContract harness test) s = (.ok (), t)) :
    test.observedRunsWithContract harness := by
  unfold TestContext.run.runsWithContract at passed
  unfold TestDescription.observedRunsWithContract
  simp only [outcome_bind_ok, outcome_liftExcept, outcome_propagate, Prod.mk.injEq, mapError_eq_ok,
    exists_and_left, exists_eq_left', exists_eq_left, and_assoc] at passed
  obtain ⟨val, expected, _, u, -, contractIds, -, _, v, ran, passed⟩ := passed
  simp only [outcome_lift, onNode_run, Prod.mk.injEq, Except.ok.injEq] at ran
  obtain ⟨rfl, rfl⟩ := ran
  rcases onNode : harness.runsOnNode u.node test.name contractIds with ⟨⟨result, out⟩, node⟩
  simp only [onNode, outcome_bind_ok, outcome_pushOutput, outcome_propagate, outcome_liftExcept, Prod.mk.injEq,
    mapError_eq_ok, exists_and_left, exists_eq_left', exists_eq_left, and_assoc, exists_const] at passed
  obtain ⟨-, receipt, rfl, checked, -⟩ := passed
  obtain ⟨found, contracts⟩ := contractExpected_eq_ok expected
  exact ⟨val, found, contracts, u.node, contractIds, receipt, by rw [onNode], checkReceipts_eq_ok harness checked⟩

theorem unitTestsPass_passed {test : TestDescription} {s t : Session ν}
    (passed : outcome (TestContext.run.unitTestsPass harness test) s = (.ok (), t)) :
    test.observedUnitTestsPass harness := by
  unfold TestContext.run.unitTestsPass at passed
  unfold TestDescription.observedUnitTestsPass
  rcases compiled : harness.compileAndRunUnitTests test.name with ⟨result, out⟩
  simp only [compiled, outcome_bind_ok, outcome_setOutput, outcome_propagate, Prod.mk.injEq, mapError_eq_ok,
    exists_and_left, exists_eq_left', exists_eq_left, and_assoc, exists_const, true_and] at passed
  obtain ⟨testedPkgs, rfl, passed⟩ := passed
  split at passed
  · simp only [outcome_throw, Prod.mk.injEq, reduceCtorEq, false_and] at passed
  · rename_i none
    refine ⟨testedPkgs, rfl, ?_⟩
    simpa only [Bool.not_eq_eq_eq_not, Bool.not_true, List.isEmpty_eq_false, ne_eq, List.flatMap_eq_nil_iff,
      List.map_eq_nil_iff, List.filter_eq_nil_iff, Bool.not_eq_false, not_forall, Classical.not_imp,
      Bool.not_eq_true, not_exists, not_and] using none

/-- A test passes only when the harness reported what its category requires: TestContext::run
never passes a test the compiler, the virtual machine or the node contradicted, and never
passes a disabled one. -/
theorem run_passed {test : TestDescription} {s t : Session ν}
    (passed : outcome (TestContext.run harness test) s = (.ok (), t)) : test.Observed harness := by
  unfold TestContext.run at passed
  unfold TestDescription.Observed
  cases category : test.category <;> simp only [category] at passed ⊢
  case runs => exact runs_passed harness passed
  case compiles => exact compiles_passed harness passed
  case failsToCompile => exact failsToCompile_passed harness passed
  case runsWithContract => exact runsWithContract_passed harness passed
  case unitTestsPass => exact unitTestsPass_passed harness passed
  case disabled => simp at passed

def buildingHarness : Harness Unit :=
  { (default : Harness Unit) with
    compileToBytes := fun name => (.ok (.package ⟨name, []⟩), "")
    explain := fun _ _ => .ok (true, "") }

theorem run_passed_compiles :
    outcome (TestContext.run buildingHarness
        ⟨"basic", .compiles, none, none, none, 0, [], false, false, [.fuel], ⟨[]⟩⟩) default = (.ok (), default) ∧
    TestDescription.Observed buildingHarness
      ⟨"basic", .compiles, none, none, none, 0, [], false, false, [.fuel], ⟨[]⟩⟩ := by
  refine ⟨?passed, run_passed buildingHarness ?passed⟩
  rfl

end

end E2eVmTests
