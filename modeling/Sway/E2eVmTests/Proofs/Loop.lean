import Sway.E2eVmTests.Proofs.Contracts

/-! The selection and the loop of run, the loop read as a relation between the sessions it
starts and ends in, the tests it is given and those of them that fail. -/

namespace E2eVmTests

section Select

theorem retained_const {α : Type} (p : α → Bool) (as : List α) :
    retained (fun () a => (p a, ())) () as = (as.filter p, as.filter fun a => !p a) := by
  induction as with
  | nil => rfl
  | cons a rest ih => cases kept : p a <;> simp [retained, kept, ih]

theorem retained_skipUntilClosure_found (skipUntil : String → Bool) (tests : List TestDescription) :
    (retained (skipUntilClosure skipUntil) true tests).1 = tests := by
  induction tests with
  | nil => rfl
  | cons t rest ih => simp [retained, skipUntilClosure, ih]

theorem retained_skipUntilClosure (skipUntil : String → Bool) (tests : List TestDescription) :
    (retained (skipUntilClosure skipUntil) false tests).1 = tests.dropWhile fun t => !skipUntil t.name := by
  induction tests with
  | nil => rfl
  | cons t rest ih =>
    cases matched : skipUntil t.name <;>
      simp [retained, skipUntilClosure, matched, ih, retained_skipUntilClosure_found]

/-- Whether every filter of the command line but skip_until and first_only lets a test through. -/
def FilterConfig.admits (filterConfig : FilterConfig) (t : TestDescription) : Bool :=
  t.category != .disabled && filterConfig.«include».all (fun includes => includes t.name) &&
    filterConfig.exclude.all (fun exclude => !exclude t.name) &&
    (!filterConfig.abiOnly || t.validateAbi) && (!filterConfig.contractOnly || t.category == .runsWithContract)

def FilterConfig.skipped (filterConfig : FilterConfig) (tests : List TestDescription) : List TestDescription :=
  match filterConfig.skipUntil with
  | some skipUntil => tests.dropWhile fun t => !skipUntil t.name
  | none => tests

theorem ite_filter {α : Type} (b : Bool) (p : α → Bool) (as : List α) :
    (if b then as.filter p else as) = as.filter fun a => !b || p a := by
  cases b <;> simp

theorem ite_take_one {α : Type} (b : Bool) (as : List α) :
    (if (b && !as.isEmpty) = true then as.take 1 else as) = if b then as.take 1 else as := by
  cases b <;> cases as <;> rfl

/-- The tests run selects: those skip_until keeps that every other filter admits, and
with first_only only the first of them. -/
theorem select_eq (filterConfig : FilterConfig) (tests : List TestDescription) :
    run.select filterConfig tests =
      let admitted := (filterConfig.skipped tests).filter filterConfig.admits
      if filterConfig.firstOnly then admitted.take 1 else admitted := by
  obtain ⟨skipUntil, includes, exclude, abiOnly, contractOnly, firstOnly⟩ := filterConfig
  have inOrder (p q : TestDescription → Bool) (tests : List TestDescription) :
      (tests.filter q).filter p = tests.filter fun t => q t && p t := by
    simp only [List.filter_filter, Bool.and_comm]
  unfold FilterConfig.admits
  cases skipUntil <;> cases includes <;> cases exclude <;>
    simp only [run.select, FilterConfig.skipped, retained_const, retained_skipUntilClosure, ite_filter,
      ite_take_one, Option.all_some, Option.all_none] <;>
    simp only [inOrder, Bool.and_true]

end Select

def Tally.after (tally : Tally) (executed failed : List TestDescription) : Tally :=
  ⟨tally.numberOfTestsExecuted + executed.length, tally.numberOfTestsFailed + failed.length,
    tally.failedTests ++ failed.map (·.name)⟩

@[simp] theorem Tally.after_nil (tally : Tally) : tally.after [] [] = tally := by
  simp [Tally.after]

theorem Tally.after_pass (tally : Tally) (test : TestDescription) (executed failed : List TestDescription) :
    tally.after (test :: executed) failed =
      (⟨tally.numberOfTestsExecuted + 1, tally.numberOfTestsFailed, tally.failedTests⟩ : Tally).after executed failed := by
  simp only [Tally.after, List.length_cons, Tally.mk.injEq, and_true]
  omega

theorem Tally.after_fail (tally : Tally) (test : TestDescription) (executed failed : List TestDescription) :
    tally.after (test :: executed) (test :: failed) =
      (⟨tally.numberOfTestsExecuted + 1, tally.numberOfTestsFailed + 1, tally.failedTests ++ [test.name]⟩ : Tally).after
        executed failed := by
  simp only [Tally.after, List.length_cons, List.map_cons, List.append_assoc, List.singleton_append, Tally.mk.injEq,
    and_true]
  omega

section Loop
variable {ν : Type} (harness : Harness ν) (buildTarget : BuildTarget)

def supported (tests : List TestDescription) : List TestDescription :=
  tests.filter fun test => test.supportedTargets.contains buildTarget

theorem supported_cons_of_unsupported {test : TestDescription} {rest : List TestDescription}
    (unsupported : test.supportedTargets.contains buildTarget = false) :
    supported buildTarget (test :: rest) = supported buildTarget rest := by
  simp only [supported, List.filter_cons, unsupported, Bool.false_eq_true, ↓reduceIte]

theorem supported_cons_of_supported {test : TestDescription} {rest : List TestDescription}
    (supports : test.supportedTargets.contains buildTarget = true) :
    supported buildTarget (test :: rest) = test :: supported buildTarget rest := by
  simp only [supported, List.filter_cons, supports, ↓reduceIte]

/-- A run of the loop that no test ends with a panic: the session it starts in, the tests
it is given, those of them that fail, and the session it ends in. Each test it executes
starts from the session the one before left, with an empty output. -/
inductive Ran : Session ν → List TestDescription → List TestDescription → Session ν → Prop
  | nil (s : Session ν) : Ran s [] [] s
  | skip {s t : Session ν} {test : TestDescription} {rest failed : List TestDescription}
      (unsupported : test.supportedTargets.contains buildTarget = false) :
      Ran s rest failed t → Ran s (test :: rest) failed t
  | pass {s u t : Session ν} {test : TestDescription} {rest failed : List TestDescription}
      (supported : test.supportedTargets.contains buildTarget = true)
      (passed : outcome (TestContext.run harness test) { s with output := "" } = (.ok (), u)) :
      Ran u rest failed t → Ran s (test :: rest) failed t
  | fail {s u t : Session ν} {test : TestDescription} {rest failed : List TestDescription} {message : String}
      (supported : test.supportedTargets.contains buildTarget = true)
      (errored : outcome (TestContext.run harness test) { s with output := "" } = (.error (.error message), u)) :
      Ran u rest failed t → Ran s (test :: rest) (test :: failed) t

theorem loop_cons (test : TestDescription) (rest : List TestDescription) (tally : Tally) (s : Session ν) :
    (run.loop harness buildTarget (test :: rest) tally).run s =
      if test.supportedTargets.contains buildTarget then
        match outcome (TestContext.run harness test) { s with output := "" } with
        | (.error (.panic message), t) => (.error (.panic message), t)
        | (.error (.error _), t) => (run.loop harness buildTarget rest
            ⟨tally.numberOfTestsExecuted + 1, tally.numberOfTestsFailed + 1, tally.failedTests ++ [test.name]⟩).run t
        | (.ok (), t) => (run.loop harness buildTarget rest
            ⟨tally.numberOfTestsExecuted + 1, tally.numberOfTestsFailed, tally.failedTests⟩).run t
      else (run.loop harness buildTarget rest tally).run s := by
  rw [run.loop]
  cases test.supportedTargets.contains buildTarget
  · rfl
  · have ran : (TestContext.run harness test).run.run { s with output := "" } =
        outcome (TestContext.run harness test) { s with output := "" } := rfl
    simp only [Bool.not_true, Bool.false_eq_true, ↓reduceIte, StateT.run_bind, StateT.run_modify, pure_bind, ran]
    rcases outcome (TestContext.run harness test) { s with output := "" } with ⟨(_ | _) | _, t⟩ <;> rfl

theorem loop_sound {tests : List TestDescription} {tally final : Tally} {s t : Session ν}
    (ended : (run.loop harness buildTarget tests tally).run s = (.ok final, t)) :
    ∃ failed, Ran harness buildTarget s tests failed t ∧ final = tally.after (supported buildTarget tests) failed := by
  induction tests generalizing tally s with
  | nil =>
    cases ended
    exact ⟨[], .nil _, by simp [supported]⟩
  | cons test rest ih =>
    rw [loop_cons] at ended
    cases supports : test.supportedTargets.contains buildTarget
    · simp only [supports, Bool.false_eq_true, ↓reduceIte] at ended
      obtain ⟨failed, ran, rfl⟩ := ih ended
      exact ⟨failed, .skip supports ran, by rw [supported_cons_of_unsupported buildTarget supports]⟩
    · simp only [supports, ↓reduceIte] at ended
      rcases found : outcome (TestContext.run harness test) { s with output := "" } with ⟨(_ | _) | _, u⟩ <;>
        simp only [found] at ended
      case error.panic => cases ended
      case error.error =>
        obtain ⟨failed, ran, rfl⟩ := ih ended
        exact ⟨test :: failed, .fail supports found ran,
          by rw [supported_cons_of_supported buildTarget supports, Tally.after_fail]⟩
      case ok =>
        obtain ⟨failed, ran, rfl⟩ := ih ended
        exact ⟨failed, .pass supports found ran,
          by rw [supported_cons_of_supported buildTarget supports, Tally.after_pass]⟩

theorem loop_complete {s t : Session ν} {tests failed : List TestDescription}
    (ran : Ran harness buildTarget s tests failed t) (tally : Tally) :
    (run.loop harness buildTarget tests tally).run s = (.ok (tally.after (supported buildTarget tests) failed), t) := by
  induction ran generalizing tally with
  | nil => simp [supported, run.loop]
  | skip unsupported _ ih =>
    rw [loop_cons, supported_cons_of_unsupported buildTarget unsupported, unsupported, if_neg Bool.false_ne_true, ih]
  | pass supports passed _ ih =>
    rw [loop_cons, supported_cons_of_supported buildTarget supports, supports, if_pos rfl, passed]
    simp only [ih, Tally.after_pass]
  | fail supports errored _ ih =>
    rw [loop_cons, supported_cons_of_supported buildTarget supports, supports, if_pos rfl, errored]
    simp only [ih, Tally.after_fail]

/-- The loop ends with counters exactly when it runs its tests without a panic: it executes
every test of the build target, counts those that return an error and names them in order. -/
theorem loop_eq_ok (tests : List TestDescription) (tally final : Tally) (s t : Session ν) :
    (run.loop harness buildTarget tests tally).run s = (.ok final, t) ↔
      ∃ failed, Ran harness buildTarget s tests failed t ∧ final = tally.after (supported buildTarget tests) failed :=
  ⟨loop_sound harness buildTarget, fun ⟨_, ran, ended⟩ => ended ▸ loop_complete harness buildTarget ran tally⟩

theorem Ran.failed_sublist {s t : Session ν} {tests failed : List TestDescription}
    (ran : Ran harness buildTarget s tests failed t) : failed.Sublist (supported buildTarget tests) := by
  induction ran with
  | nil => exact .slnil
  | skip unsupported _ ih => rwa [supported_cons_of_unsupported buildTarget unsupported]
  | pass supports _ _ ih => rw [supported_cons_of_supported buildTarget supports]; exact ih.cons _
  | fail supports _ _ ih => rw [supported_cons_of_supported buildTarget supports]; exact ih.cons₂ _

/-- The counters a whole loop ends with agree: it names each failed test once, in order and
among the tests it was given, it fails no more tests than it executes, and executes no more
than it was given; so the summary's count of passed tests, executed less failed, never
underflows. -/
theorem loop_counts {tests : List TestDescription} {s t : Session ν} {final : Tally}
    (ended : (run.loop harness buildTarget tests ⟨0, 0, []⟩).run s = (.ok final, t)) :
    final.failedTests.length = final.numberOfTestsFailed ∧
      final.numberOfTestsFailed ≤ final.numberOfTestsExecuted ∧ final.numberOfTestsExecuted ≤ tests.length ∧
      final.failedTests.Sublist (tests.map (·.name)) := by
  obtain ⟨failed, ran, rfl⟩ := loop_sound harness buildTarget ended
  have among := ran.failed_sublist
  simp only [Tally.after, Nat.zero_add, List.nil_append]
  exact ⟨List.length_map _ _, among.length_le, (List.filter_sublist tests).length_le,
    (among.trans (List.filter_sublist tests)).map _⟩

theorem loop_counts_failing :
    (run.loop (default : Harness Unit) .fuel
        [⟨"basic", .compiles, none, none, none, 0, [], false, false, [.fuel], ⟨[]⟩⟩] ⟨0, 0, []⟩).run default =
      (.ok ⟨1, 1, ["basic"]⟩, default) ∧
    ["basic"].length = 1 ∧ 1 ≤ 1 ∧ 1 ≤ 1 ∧ (["basic"] : List String).Sublist ["basic"] := by
  refine ⟨?ended, loop_counts _ _ ?ended⟩
  rfl

theorem loop_error {tests : List TestDescription} {tally : Tally} {s t : Session ν} {failure : Failure}
    (ended : (run.loop harness buildTarget tests tally).run s = (.error failure, t)) :
    ∃ message, failure = .panic message := by
  induction tests generalizing tally s with
  | nil => cases ended
  | cons test rest ih =>
    rw [loop_cons] at ended
    split at ended
    · split at ended
      · cases ended
        exact ⟨_, rfl⟩
      · exact ih ended
      · exact ih ended
    · exact ih ended

variable (loader : Loader) (external : External) (manifestDir : List String) (testPrograms : List Entry)
  (filterConfig : FilterConfig)

theorem run_undiscovered {failure : Failure}
    (failed : discoverTestConfigs loader external manifestDir testPrograms = .error failure) (s : Session ν) :
    (run harness loader external manifestDir testPrograms filterConfig buildTarget).run s = (.error failure, s) := by
  simp only [run, failed]
  rfl

theorem run_discovered {tests : List TestDescription}
    (discovered : discoverTestConfigs loader external manifestDir testPrograms = .ok tests) (s : Session ν) :
    (run harness loader external manifestDir testPrograms filterConfig buildTarget).run s =
      match (run.loop harness buildTarget (run.select filterConfig tests) ⟨0, 0, []⟩).run
          { s with deployedContracts := [] } with
      | (.error failure, t) => (.error failure, t)
      | (.ok tally, t) => (if tally.numberOfTestsFailed ≠ 0 then .error (.error "Failed tests") else .ok (), t) := by
  simp only [run, discovered, StateT.run_bind, StateT.run_modify, pure_bind]
  rcases (run.loop harness buildTarget (run.select filterConfig tests) ⟨0, 0, []⟩).run
    { s with deployedContracts := [] } with ⟨_ | _, t⟩ <;> rfl

theorem run_discovered_cases {tests : List TestDescription}
    (discovered : discoverTestConfigs loader external manifestDir testPrograms = .ok tests)
    {s t : Session ν} {result : Except Failure Unit}
    (ended : (run harness loader external manifestDir testPrograms filterConfig buildTarget).run s = (result, t)) :
    (∃ message, result = .error (.panic message)) ∨
      ∃ failed, Ran harness buildTarget { s with deployedContracts := [] } (run.select filterConfig tests) failed t ∧
        result = if failed = [] then .ok () else .error (.error "Failed tests") := by
  rw [run_discovered harness buildTarget loader external manifestDir testPrograms filterConfig discovered] at ended
  rcases looped : (run.loop harness buildTarget (run.select filterConfig tests) ⟨0, 0, []⟩).run
    { s with deployedContracts := [] } with ⟨_ | tally, u⟩ <;> simp only [looped] at ended <;> cases ended
  · obtain ⟨message, rfl⟩ := loop_error harness buildTarget looped
    exact .inl ⟨message, rfl⟩
  · obtain ⟨failed, ran, rfl⟩ := loop_sound harness buildTarget looped
    exact .inr ⟨failed, ran, by cases failed <;> simp [Tally.after]⟩

theorem run_of_ran {tests failed : List TestDescription}
    (discovered : discoverTestConfigs loader external manifestDir testPrograms = .ok tests) {s t : Session ν}
    (ran : Ran harness buildTarget { s with deployedContracts := [] } (run.select filterConfig tests) failed t) :
    (run harness loader external manifestDir testPrograms filterConfig buildTarget).run s =
      (if failed = [] then .ok () else .error (.error "Failed tests"), t) := by
  rw [run_discovered harness buildTarget loader external manifestDir testPrograms filterConfig discovered,
    loop_complete harness buildTarget ran]
  cases failed <;> simp [Tally.after]

/-- run passes exactly when discovery succeeds and, from an empty contract map, every
selected test of the build target runs and none of them fails or panics. -/
theorem run_eq_ok (s t : Session ν) :
    (run harness loader external manifestDir testPrograms filterConfig buildTarget).run s = (.ok (), t) ↔
      ∃ tests, discoverTestConfigs loader external manifestDir testPrograms = .ok tests ∧
        Ran harness buildTarget { s with deployedContracts := [] } (run.select filterConfig tests) [] t := by
  rcases discovering : discoverTestConfigs loader external manifestDir testPrograms with failure | tests
  · rw [run_undiscovered harness buildTarget loader external manifestDir testPrograms filterConfig discovering]
    simp only [reduceCtorEq, false_and, exists_false, iff_false]
    nofun
  simp only [Except.ok.injEq, exists_eq_left']
  constructor
  · intro passed
    rcases run_discovered_cases harness buildTarget loader external manifestDir testPrograms filterConfig discovering
      passed with ⟨_, ⟨⟩⟩ | ⟨_ | _, ran, result⟩
    · exact ran
    · simp at result
  · intro ran
    rw [run_of_ran harness buildTarget loader external manifestDir testPrograms filterConfig discovering ran, if_pos rfl]

/-- Apart from panics, run fails in two ways: discovery fails, and run returns its error
before any test runs, leaving the session as it was; or every selected test of the build
target runs without a panic, some fail, and run returns "Failed tests". -/
theorem run_eq_failed (s t : Session ν) (message : String) :
    (run harness loader external manifestDir testPrograms filterConfig buildTarget).run s =
        (.error (.error message), t) ↔
      (discoverTestConfigs loader external manifestDir testPrograms = .error (.error message) ∧ t = s) ∨
      ∃ tests, discoverTestConfigs loader external manifestDir testPrograms = .ok tests ∧
        message = "Failed tests" ∧ ∃ failed, failed ≠ [] ∧
          Ran harness buildTarget { s with deployedContracts := [] } (run.select filterConfig tests) failed t := by
  rcases discovering : discoverTestConfigs loader external manifestDir testPrograms with failure | tests
  · rw [run_undiscovered harness buildTarget loader external manifestDir testPrograms filterConfig discovering]
    simp only [reduceCtorEq, false_and, exists_false, or_false]
    constructor
    · intro reported
      cases reported
      exact ⟨rfl, rfl⟩
    · rintro ⟨⟨⟩, rfl⟩
      rfl
  simp only [reduceCtorEq, false_and, Except.ok.injEq, exists_eq_left', false_or]
  constructor
  · intro reported
    rcases run_discovered_cases harness buildTarget loader external manifestDir testPrograms filterConfig discovering
      reported with ⟨_, ⟨⟩⟩ | ⟨_ | ⟨test, failed⟩, ran, result⟩
    · simp at result
    · simp only [List.cons_ne_nil, if_false] at result
      cases result
      exact ⟨rfl, test :: failed, List.cons_ne_nil test failed, ran⟩
  · rintro ⟨rfl, failed, some, ran⟩
    rw [run_of_ran harness buildTarget loader external manifestDir testPrograms filterConfig discovering ran, if_neg some]

theorem loop_keeps {kept : Session ν → Session ν → Prop} (stable : Stable kept harness)
    (tests : List TestDescription) (tally : Tally) (s : Session ν) :
    kept s ((run.loop harness buildTarget tests tally).run s).2 := by
  induction tests generalizing tally s with
  | nil => exact stable.refl s
  | cons test rest ih =>
    rw [loop_cons]
    split
    · have ran := stable.trans (stable.output s "") (preserves_run stable test { s with output := "" })
      rcases found : outcome (TestContext.run harness test) { s with output := "" } with ⟨(_ | _) | _, u⟩ <;>
        rw [found] at ran
      -- A panic ends the loop at once; an error or a pass goes on with the rest.
      case error.panic => exact ran
      all_goals exact stable.trans ran (ih _ u)
    · exact ih tally s

theorem loop_grows (tests : List TestDescription) (tally : Tally) (s : Session ν) :
    Grows s ((run.loop harness buildTarget tests tally).run s).2 :=
  loop_keeps harness buildTarget (grows_stable harness) tests tally s

/-- From any session the loop keeps each contract the map records under its id, and adds
to the front of the map only paths it did not record, each of them once. -/
theorem loop_records_fresh (tests : List TestDescription) (tally : Tally) (s : Session ν) :
    (∀ path id, s.deployedContracts.lookup path = some id →
        ((run.loop harness buildTarget tests tally).run s).2.deployedContracts.lookup path = some id) ∧
      ∃ added, ((run.loop harness buildTarget tests tally).run s).2.deployedContracts = added ++ s.deployedContracts ∧
        (added.map Prod.fst).Nodup ∧ ∀ path ∈ added.map Prod.fst, s.deployedContracts.lookup path = none := by
  have grows := loop_grows harness buildTarget tests tally s
  refine ⟨fun _ _ found => grows.kept found, ?_⟩
  obtain ⟨added, grown, distinct, fresh⟩ := grows
  exact ⟨added, grown, distinct, fun _ member => lookup_eq_none_iff_not_mem.mpr (List.disjoint_left.mp fresh member)⟩

/-- Over a whole run the node deploys each contract path successfully at most once: a
ghost log of the node's successful deployments, kept beside its state, gains only distinct
paths, those of the new contract map. -/
theorem run_deploys_once (s : Session (ν × List String)) :
    ∃ deployed, ((run harness.logged loader external manifestDir testPrograms filterConfig buildTarget).run s).2.node.2 =
      deployed ++ s.node.2 ∧ deployed.Nodup := by
  rcases discovering : discoverTestConfigs loader external manifestDir testPrograms with _ | tests
  · rw [run_undiscovered harness.logged buildTarget loader external manifestDir testPrograms filterConfig discovering]
    exact ⟨[], rfl, List.nodup_nil⟩
  have logged := loop_keeps harness.logged buildTarget (logged_stable harness) (run.select filterConfig tests)
    ⟨0, 0, []⟩ { s with deployedContracts := [] } s.node.2 rfl
  have grows := loop_grows harness.logged buildTarget (run.select filterConfig tests) ⟨0, 0, []⟩
    { s with deployedContracts := [] }
  rw [run_discovered harness.logged buildTarget loader external manifestDir testPrograms filterConfig discovering]
  rcases ended : (run.loop harness.logged buildTarget (run.select filterConfig tests) ⟨0, 0, []⟩).run
    { s with deployedContracts := [] } with ⟨_ | _, t⟩ <;> rw [ended] at logged grows <;>
    exact ⟨_, logged, grows.distinct List.nodup_nil⟩

end Loop

end E2eVmTests
