import Sway.E2eVmTests.Description
import Sway.E2eVmTests.Proofs.Hex

/-! What parse_test_toml accepts and what it returns. One inversion lemma says what a
successful parse is made of; the properties of parsed descriptions follow from it and
from one lemma per binding. -/

namespace E2eVmTests

section Except
variable {ε α β : Type}

theorem bind_eq_ok {x : Except ε α} {f : α → Except ε β} {b : β} :
    x >>= f = .ok b ↔ ∃ a, x = .ok a ∧ f a = .ok b := by
  cases x <;> simp [bind, Except.bind]

theorem map_eq_ok {x : Except ε α} {f : α → β} {b : β} :
    f <$> x = .ok b ↔ ∃ a, x = .ok a ∧ f a = b := by
  cases x <;> simp [Functor.map, Except.map]

@[simp] theorem throw_eq_ok {e : ε} {a : α} : (throw e : Except ε α) = .ok a ↔ False :=
  ⟨nofun, False.elim⟩

theorem mapM_eq_ok {f : α → Except ε β} {l : List α} {r : List β} :
    l.mapM f = .ok r ↔ List.Forall₂ (fun a b => f a = .ok b) l r := by
  induction l generalizing r with
  | nil => simp only [List.mapM_nil, pure, Except.pure, Except.ok.injEq, List.forall₂_nil_left_iff, eq_comm]
  | cons a l ih =>
    cases r <;> simp only [List.mapM_cons, bind_eq_ok, ih, pure, Except.pure, Except.ok.injEq,
      List.forall₂_cons, List.forall₂_nil_right_iff, reduceCtorEq, List.cons.injEq, and_false, exists_false,
      exists_eq_right_right]

theorem mapM_eq_ok_mem {f : α → Except ε β} {l : List α} {r : List β} (mapped : l.mapM f = .ok r) :
    ∀ b ∈ r, ∃ a ∈ l, f a = .ok b := by
  have all := mapM_eq_ok.mp mapped
  clear mapped
  induction all with
  | nil => nofun
  | cons head _ ih =>
    rintro b (_ | ⟨_, member⟩)
    · exact ⟨_, .head _, head⟩
    · obtain ⟨a, among, ok⟩ := ih b member
      exact ⟨a, .tail _ among, ok⟩

@[simp] theorem mapError_eq_ok {r : Except String α} {a : α} : r.mapError Failure.error = .ok a ↔ r = .ok a := by
  cases r <;> simp [Except.mapError]

end Except

/-- Whether tests of a category run a program, and so read data and an expected result. -/
def TestCategory.runsProgram : TestCategory → Bool
  | .runs | .runsWithContract => true
  | _ => false

/-- The name of a category in a test description. -/
def TestCategory.entry : TestCategory → String
  | .runs => "run"
  | .runsWithContract => "run_on_node"
  | .failsToCompile => "fail"
  | .compiles => "compile"
  | .disabled => "disabled"
  | .unitTestsPass => "unit_tests_pass"

/-- What every description that parse_test_toml returns satisfies. -/
structure TestDescription.Parsed (d : TestDescription) : Prop where
  expected : d.expectedResult.isSome = d.category.runsProgram
  scriptData : d.scriptData.isSome → d.category.runsProgram
  witnessData : d.witnessData.isSome → d.category.runsProgram
  checked : d.category = .failsToCompile → d.checker.directives ≠ []
  targets : d.supportedTargets ≠ []

variable {external : External} {toml : TomlValue} {path : List String} {checker : Checker}
  {d : TestDescription}

theorem parseTestToml_eq_ok :
    parseTestToml external toml path checker = .ok d ↔
      toml.isTable = true ∧ ∃ category, parseTestToml.category external toml = .ok category ∧
        ¬ (category = .failsToCompile ∧ checker.isEmpty = true) ∧
        ∃ scriptData, parseTestToml.scriptData external toml category = .ok scriptData ∧
        ∃ witnessData, parseTestToml.witnessData external toml category = .ok witnessData ∧
        ∃ expectedResult, parseTestToml.expectedResult external toml category = .ok expectedResult ∧
        ∃ contractPaths, parseTestToml.contractPaths toml = .ok contractPaths ∧
        ∃ name, parseTestToml.name path = .ok name ∧
        ∃ supportedTargets, parseTestToml.supportedTargets external toml = .ok supportedTargets ∧
        d = ⟨name, category, scriptData, witnessData, expectedResult, parseTestToml.expectedWarnings toml,
          contractPaths, parseTestToml.validateAbi toml, parseTestToml.validateStorageSlots toml,
          supportedTargets, checker⟩ := by
  unfold parseTestToml
  cases toml.isTable <;> simp only [Bool.not_false, Bool.not_true, Bool.false_eq_true, ↓reduceIte,
    Bool.and_eq_true, beq_iff_eq, bind_pure_comp, pure_bind, bind_eq_ok, throw_eq_ok, ite_eq_iff, map_eq_ok,
    false_and, exists_const, and_false, not_and, Bool.not_eq_true, false_or, true_and, @eq_comm _ d]

section Bindings
variable {category : TestCategory}

theorem scriptData_none (quiet : category.runsProgram = false) :
    parseTestToml.scriptData external toml category = .ok none := by
  cases category <;> first | rfl | cases quiet

theorem witnessData_none (quiet : category.runsProgram = false) :
    parseTestToml.witnessData external toml category = .ok none := by
  cases category <;> first | rfl | cases quiet

theorem expectedResult_none (quiet : category.runsProgram = false) :
    parseTestToml.expectedResult external toml category = .ok none := by
  cases category <;> first | rfl | cases quiet

theorem expectedResult_isSome {expectedResult : Option TestResult} (runs : category.runsProgram = true)
    (parsed : parseTestToml.expectedResult external toml category = .ok expectedResult) :
    expectedResult.isSome := by
  cases category <;> first
    | (obtain ⟨_, -, rfl⟩ := map_eq_ok.mp parsed; rfl)
    | cases runs

theorem supportedTargets_ne_nil {supportedTargets : List BuildTarget}
    (parsed : parseTestToml.supportedTargets external toml = .ok supportedTargets) : supportedTargets ≠ [] := by
  obtain ⟨targets, -, chosen⟩ := bind_eq_ok.mp parsed
  cases Except.ok.inj chosen
  split <;> simp_all

end Bindings

/-- A parsed description has an expected result exactly when it runs a program, reads
data only then, has FileCheck directives when it is expected to fail, and supports a
target. -/
theorem parseTestToml_parsed (parsed : parseTestToml external toml path checker = .ok d) : d.Parsed := by
  obtain ⟨-, category, -, guard, scriptData, script, witnessData, witness, expectedResult, expected, -, -, -, -,
    supportedTargets, targets, rfl⟩ := parseTestToml_eq_ok.mp parsed
  have quiet {α} {value : Option α} (none : Except.ok none = Except.ok (ε := Failure) value) : value.isSome = false := by
    cases Except.ok.inj none; rfl
  refine ⟨?_, ?_, ?_, fun failing => ?_, supportedTargets_ne_nil targets⟩
  · cases runs : category.runsProgram
    · exact quiet ((expectedResult_none runs).symm.trans expected)
    · exact expectedResult_isSome runs expected
  · intro present
    cases runs : category.runsProgram
    · simp [quiet ((scriptData_none runs).symm.trans script)] at present
    · rfl
  · intro present
    cases runs : category.runsProgram
    · simp [quiet ((witnessData_none runs).symm.trans witness)] at present
    · rfl
  · exact fun empty => guard ⟨failing, by simpa [Checker.isEmpty] using empty⟩

theorem parseTestToml_parsed_compile :
    parseTestToml ⟨fun _ => "", fun _ => "", fun _ => none⟩ (.table [("category", .string "compile")])
        ["test_programs", "basic", "test.toml"] ⟨[]⟩ =
      .ok ⟨"basic", .compiles, none, none, none, 0, [], false, false, [.fuel], ⟨[]⟩⟩ ∧
    TestDescription.Parsed ⟨"basic", .compiles, none, none, none, 0, [], false, false, [.fuel], ⟨[]⟩⟩ := by
  refine ⟨?parsed, parseTestToml_parsed ?parsed⟩
  rfl

/-- Every byte string can be expected as return data, written as its hex digits. -/
theorem getExpectedResult_returnData_encode (data : List UInt8) {expectedResultTable : TomlValue}
    (entry : toml.get "expected_result" = some expectedResultTable)
    (action : expectedResultTable.get "action" = some (.string "return_data"))
    (value : expectedResultTable.get "value" = some (.string (encode data))) :
    getExpectedResult external toml = .ok (.returnData data) := by
  simp only [getExpectedResult, entry, action, value]
  show TestResult.returnData <$> decodeField external "return_data" (encode data) = _
  simp only [decodeField, decode_encode]
  rfl

theorem getExpectedResult_returnData_encode_pair :
    let table := TomlValue.table [("action", .string "return_data"), ("value", .string (encode [1, 254]))]
    let toml := TomlValue.table [("expected_result", table)]
    toml.get "expected_result" = some table ∧ table.get "action" = some (.string "return_data") ∧
      table.get "value" = some (.string (encode [1, 254])) ∧
      getExpectedResult ⟨fun _ => "", fun _ => "", fun _ => none⟩ toml = .ok (.returnData [1, 254]) :=
  ⟨rfl, rfl, rfl, getExpectedResult_returnData_encode [1, 254] rfl rfl rfl⟩

end E2eVmTests
