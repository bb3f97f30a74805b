import Sway.E2eVmTests.Proofs.Run

/-! The contract map and the node across TestContext::run: the relations every action keeps,
among them that the map only grows and that a ghost log lists what the node deployed. -/

namespace E2eVmTests

section Stable
variable {ν α β : Type} (kept : Session ν → Session ν → Prop) (harness : Harness ν)

/-- What a relation between a session and a later one needs for every action of
TestContext::run to keep it. -/
structure Stable : Prop where
  refl : ∀ s, kept s s
  trans : ∀ {s t u}, kept s t → kept t u → kept s u
  output : ∀ s out, kept s { s with output := out }
  deploy : ∀ path s, kept s ((TestContext.deployContract harness path).run s).2
  onNode : ∀ name contractIds s, kept s ((TestContext.run.onNode harness name contractIds).run s).2

def Preserves (x : HarnessM ν α) : Prop := ∀ s, kept s (outcome x s).2

variable {kept harness}

theorem preserves_lift {m : StateM (Session ν) α} (step : ∀ s, kept s (m.run s).2) :
    Preserves kept (m : HarnessM ν α) := step

variable (stable : Stable kept harness)
include stable

theorem Preserves.bind {x : HarnessM ν α} {f : α → HarnessM ν β} (first : Preserves kept x)
    (rest : ∀ a, Preserves kept (f a)) : Preserves kept (x >>= f) := by
  intro s
  rw [outcome_bind]
  rcases found : outcome x s with ⟨_ | a, t⟩
  · simpa [found] using first s
  · simpa [found] using stable.trans (first s) (found ▸ rest a t)

theorem preserves_pure (a : α) : Preserves kept (pure a : HarnessM ν α) := stable.refl

theorem preserves_throw (f : Failure) : Preserves kept (throw f : HarnessM ν α) := stable.refl

theorem preserves_setOutput (out : String) : Preserves kept (setOutput out : HarnessM ν Unit) :=
  fun s => stable.output s out

theorem preserves_pushOutput (out : String) : Preserves kept (pushOutput out : HarnessM ν Unit) :=
  fun s => stable.output s _

theorem preserves_propagate (r : Except String α) : Preserves kept (propagate r : HarnessM ν α) := by
  intro s
  simpa using stable.refl s

theorem preserves_liftExcept (r : Except Failure α) : Preserves kept (liftExcept r : HarnessM ν α) := by
  intro s
  simpa using stable.refl s

theorem preserves_get : Preserves kept (get : HarnessM ν (Session ν)) := stable.refl

theorem preserves_validatePackages (check : String → BuiltPackage → Except String Unit × String)
    (pkgs : List (String × BuiltPackage)) : Preserves kept (TestContext.run.validatePackages (ν := ν) check pkgs) := by
  induction pkgs with
  | nil => exact preserves_pure stable _
  | cons pkg rest ih =>
    exact .bind stable (preserves_propagate stable _) fun _ =>
      .bind stable (preserves_pushOutput stable _) fun _ => ih

theorem preserves_deployContracts (paths : List String) :
    Preserves kept (TestContext.run.deployContracts harness paths) := by
  induction paths with
  | nil => exact preserves_pure stable _
  | cons path rest ih =>
    exact .bind stable (preserves_lift (stable.deploy path)) fun _ =>
      .bind stable (preserves_pushOutput stable _) fun _ => .bind stable ih fun _ => preserves_pure stable _

theorem preserves_checkFileChecker (checker : Checker) (name output : String) :
    Preserves kept (checkFileChecker harness checker name output) := by
  unfold checkFileChecker
  split
  · split
    · exact preserves_throw stable _
    · exact preserves_pure stable _
  · exact preserves_throw stable _

/-- Running one test keeps every stable relation to the session it started from. -/
theorem preserves_run (test : TestDescription) : Preserves kept (TestContext.run harness test) := by
  unfold TestContext.run TestContext.run.runs TestContext.run.compiles TestContext.run.failsToCompile
    TestContext.run.runsWithContract TestContext.run.unitTestsPass
  -- Walk every arm bind by bind: only deploy_contract and the node write the session's map or node.
  repeat' first
    | with_reducible apply Preserves.bind stable
    | with_reducible intro _
    | split
    | with_reducible exact preserves_pure stable _
    | with_reducible exact preserves_throw stable _
    | with_reducible exact preserves_setOutput stable _
    | with_reducible exact preserves_pushOutput stable _
    | with_reducible exact preserves_propagate stable _
    | with_reducible exact preserves_liftExcept stable _
    | with_reducible exact preserves_get stable
    | with_reducible exact preserves_checkFileChecker stable _ _ _
    | with_reducible exact preserves_validatePackages stable _ _
    | with_reducible exact preserves_deployContracts stable _
    | with_reducible exact preserves_lift (stable.onNode _ _)
    | dsimp only

end Stable

section Deploy
variable {ν : Type} (harness : Harness ν)

theorem deployContract_run (path : String) (s : Session ν) :
    (TestContext.deployContract harness path).run s =
      match s.deployedContracts.lookup path, harness.deployContract s.node path with
      | some id, _ => ((.ok id, ""), s)
      | none, ((.ok id, out), node) => ((.ok id, out), ⟨(path, id) :: s.deployedContracts, node, s.output⟩)
      | none, ((.error e, out), node) => ((.error e, out), { s with node := node }) := by
  cases found : s.deployedContracts.lookup path <;>
    rcases deployed : harness.deployContract s.node path with ⟨⟨_ | _, _⟩, _⟩ <;>
    simp only [TestContext.deployContract, StateT.run_bind, StateT.run_get, StateT.run_set, StateT.run_pure,
      Id.bind_eq, Id.pure_eq, found, deployed]

theorem deployContract_records {path : String} {s : Session ν} {id : ContractId}
    (deployed : ((TestContext.deployContract harness path).run s).1.1 = .ok id) :
    ((TestContext.deployContract harness path).run s).2.deployedContracts.lookup path = some id := by
  rw [deployContract_run] at deployed ⊢
  rcases found : s.deployedContracts.lookup path with _ | known <;>
    rcases call : harness.deployContract s.node path with ⟨⟨_ | _, _⟩, _⟩ <;>
    simp_all

theorem outcome_deployContracts_cons (path : String) (rest : List String) (s : Session ν) :
    outcome (TestContext.run.deployContracts harness (path :: rest)) s =
      match outcome (TestContext.run.deployContracts harness rest)
          { ((TestContext.deployContract harness path).run s).2 with
            output := ((TestContext.deployContract harness path).run s).2.output ++
              ((TestContext.deployContract harness path).run s).1.2 } with
      | (.ok results, t) => (.ok (((TestContext.deployContract harness path).run s).1.1 :: results), t)
      | (.error e, t) => (.error e, t) := by
  rw [TestContext.run.deployContracts, outcome_bind, outcome_lift]
  rcases (TestContext.deployContract harness path).run s with ⟨⟨result, out⟩, deployed⟩
  simp only [outcome_bind, outcome_pushOutput]
  rcases outcome (TestContext.run.deployContracts harness rest)
    { deployed with output := deployed.output ++ out } with ⟨_ | _, _⟩ <;> rfl

end Deploy

section Grows
variable {ν : Type} (harness : Harness ν)

theorem lookup_eq_none_iff_not_mem {contracts : List (String × ContractId)} {path : String} :
    contracts.lookup path = none ↔ path ∉ contracts.map Prod.fst := by
  simp only [List.lookup_eq_none_iff, bne_iff_ne, ne_eq, List.mem_map, not_exists, not_and]
  exact forall₂_congr fun _ _ => ⟨fun differs same => differs same.symm, fun differs same => differs same.symm⟩

/-- A later session holds the contract map of an earlier one, with new contracts in front
under distinct paths that the earlier map did not name. -/
def Grows (s t : Session ν) : Prop :=
  ∃ added : List (String × ContractId), t.deployedContracts = added ++ s.deployedContracts ∧
    (added.map Prod.fst).Nodup ∧ (added.map Prod.fst).Disjoint (s.deployedContracts.map Prod.fst)

theorem Grows.of_contracts {s t : Session ν} (same : t.deployedContracts = s.deployedContracts) : Grows s t :=
  ⟨[], same, .nil, List.disjoint_nil_left _⟩

theorem Grows.refl (s : Session ν) : Grows s s := .of_contracts rfl

theorem Grows.trans {s t u : Session ν} (first : Grows s t) (second : Grows t u) : Grows s u := by
  obtain ⟨older, grown, distinct, fresh⟩ := first
  obtain ⟨newer, grown', distinct', fresh'⟩ := second
  rw [grown, List.map_append, List.disjoint_append_right] at fresh'
  refine ⟨newer ++ older, by rw [grown', grown, List.append_assoc], ?_, ?_⟩
  · rw [List.map_append, List.nodup_append]
    exact ⟨distinct', distinct, fresh'.1⟩
  · rw [List.map_append, List.disjoint_append_left]
    exact ⟨fresh'.2, fresh⟩

theorem Grows.insert {s : Session ν} {path : String} {id : ContractId} {node : ν} {output : String}
    (fresh : s.deployedContracts.lookup path = none) :
    Grows s ⟨(path, id) :: s.deployedContracts, node, output⟩ :=
  ⟨[(path, id)], rfl, List.nodup_singleton _,
    List.disjoint_cons_left.mpr ⟨lookup_eq_none_iff_not_mem.mp fresh, List.disjoint_nil_left _⟩⟩

theorem Grows.kept {s t : Session ν} (grows : Grows s t) {path : String} {id : ContractId}
    (found : s.deployedContracts.lookup path = some id) : t.deployedContracts.lookup path = some id := by
  obtain ⟨added, grown, -, fresh⟩ := grows
  have known : path ∈ s.deployedContracts.map Prod.fst := by
    by_contra unknown
    rw [lookup_eq_none_iff_not_mem.mpr unknown] at found
    cases found
  rw [grown, List.lookup_append, lookup_eq_none_iff_not_mem.mpr fun member => fresh member known]
  exact found

theorem Grows.distinct {s t : Session ν} (grows : Grows s t) (distinct : (s.deployedContracts.map Prod.fst).Nodup) :
    (t.deployedContracts.map Prod.fst).Nodup := by
  obtain ⟨added, grown, distinct', fresh⟩ := grows
  rw [grown, List.map_append, List.nodup_append]
  exact ⟨distinct', distinct, fresh⟩

theorem deployContract_grows (path : String) (s : Session ν) :
    Grows s ((TestContext.deployContract harness path).run s).2 := by
  rw [deployContract_run]
  rcases found : s.deployedContracts.lookup path with _ | known <;>
    rcases harness.deployContract s.node path with ⟨⟨_ | _, _⟩, _⟩
  case none.mk.mk.error => exact .of_contracts rfl
  case none.mk.mk.ok => exact .insert found
  all_goals exact .refl s

theorem grows_stable : Stable Grows harness where
  refl := Grows.refl
  trans := Grows.trans
  output _ _ := .of_contracts rfl
  deploy := deployContract_grows harness
  onNode _ _ _ := .of_contracts rfl

theorem deployContracts_recorded {paths : List String} {s t : Session ν} {results : List (Except String ContractId)}
    (deployed : outcome (TestContext.run.deployContracts harness paths) s = (.ok results, t)) :
    results.length = paths.length ∧
      ∀ path id, (path, .ok id) ∈ paths.zip results → t.deployedContracts.lookup path = some id := by
  induction paths generalizing s results with
  | nil =>
    cases deployed
    exact ⟨rfl, by simp⟩
  | cons path rest ih =>
    rw [outcome_deployContracts_cons] at deployed
    generalize step : (TestContext.deployContract harness path).run s = first at deployed
    obtain ⟨⟨result, out⟩, u⟩ := first
    rcases later : outcome (TestContext.run.deployContracts harness rest) { u with output := u.output ++ out }
      with ⟨_ | tail, v⟩ <;> simp only [later] at deployed
    · cases deployed
    · cases deployed
      obtain ⟨sized, recorded⟩ := ih later
      refine ⟨by simp [sized], fun other id member => ?_⟩
      rcases List.mem_cons.mp member with head | member
      · obtain ⟨rfl, rfl⟩ := Prod.mk.inj head
        have kept := preserves_deployContracts (grows_stable harness) rest { u with output := u.output ++ out }
        rw [later] at kept
        have recordedFirst := deployContract_records harness (s := s) (by rw [step])
        rw [step] at recordedFirst
        exact kept.kept recordedFirst
      · exact recorded other id member

theorem mapM_id_eq_ok {ε α : Type} {results : List (Except ε α)} {values : List α}
    (all : results.mapM id = .ok values) : results = values.map .ok := by
  have each := mapM_eq_ok.mp all
  clear all
  induction each with
  | nil => rfl
  | cons head _ ih => rw [ih, List.map_cons, ← head]; rfl

/-- After a run_on_node test passes, each of its contract paths is recorded in the contract
map under the id the node ran the test with. -/
theorem runsWithContract_recorded {test : TestDescription} {s t : Session ν}
    (category : test.category = .runsWithContract)
    (passed : outcome (TestContext.run harness test) s = (.ok (), t)) :
    ∃ node contractIds receipt, (harness.runsOnNode node test.name contractIds).1.1 = .ok receipt ∧
      contractIds.length = test.contractPaths.length ∧
      ∀ path id, (path, id) ∈ test.contractPaths.zip contractIds → t.deployedContracts.lookup path = some id := by
  unfold TestContext.run at passed
  simp only [category] at passed
  unfold TestContext.run.runsWithContract at passed
  simp only [outcome_bind_ok, outcome_liftExcept, outcome_propagate, Prod.mk.injEq, mapError_eq_ok,
    exists_and_left, exists_eq_left', exists_eq_left, and_assoc] at passed
  obtain ⟨val, -, results, u, deployed, contractIds, all, _, v, ran, passed⟩ := passed
  simp only [outcome_lift, onNode_run, Prod.mk.injEq, Except.ok.injEq] at ran
  obtain ⟨rfl, rfl⟩ := ran
  rcases onNode : harness.runsOnNode u.node test.name contractIds with ⟨⟨result, out⟩, node⟩
  simp only [onNode, outcome_bind_ok, outcome_pushOutput, outcome_propagate, outcome_liftExcept, Prod.mk.injEq,
    mapError_eq_ok, exists_and_left, exists_eq_left', exists_eq_left, and_assoc, exists_const] at passed
  obtain ⟨-, receipt, rfl, -, rfl⟩ := passed
  obtain ⟨sized, recorded⟩ := deployContracts_recorded harness deployed
  rw [mapM_id_eq_ok all] at sized recorded
  refine ⟨u.node, contractIds, receipt, by rw [onNode], by simpa using sized, fun path id member => recorded path id ?_⟩
  rw [List.zip_map_right]
  exact List.mem_map_of_mem _ member

/-- A harness whose node deploys every contract as the id 1 and runs every test to a return
of 5 followed by one more receipt. -/
def deployingHarness : Harness Unit :=
  { (default : Harness Unit) with
    deployContract := fun node _ => ((.ok 1, ""), node)
    runsOnNode := fun node _ _ => ((.ok [.return 5, .other], ""), node) }

theorem runsWithContract_recorded_call :
    TestCategory.runsWithContract = .runsWithContract ∧
    outcome (TestContext.run deployingHarness
        ⟨"call", .runsWithContract, none, none, some (.result 5), 0, ["counter"], false, false, [.fuel], ⟨[]⟩⟩)
        default = (.ok (), ⟨[("counter", 1)], (), ""⟩) ∧
    ∃ node contractIds receipt, (deployingHarness.runsOnNode node "call" contractIds).1.1 = .ok receipt ∧
      contractIds.length = ["counter"].length ∧
      ∀ path id, (path, id) ∈ ["counter"].zip contractIds →
        (⟨[("counter", 1)], (), ""⟩ : Session Unit).deployedContracts.lookup path = some id := by
  refine ⟨rfl, ?passed, runsWithContract_recorded deployingHarness rfl ?passed⟩
  rfl

end Grows

section Logged
variable {ν : Type} (harness : Harness ν)

/-- The harness with a ghost log beside the node's state: the contract paths the node has
deployed successfully, newest first. Every call returns what the harness returns. -/
def Harness.logged : Harness (ν × List String) :=
  { harness with
    deployContract := fun node path =>
      let (caught, deployed) := harness.deployContract node.1 path
      (caught, (deployed, match caught.1 with
        | .ok _ => path :: node.2
        | .error _ => node.2))
    runsOnNode := fun node name contractIds =>
      let (caught, ran) := harness.runsOnNode node.1 name contractIds
      (caught, (ran, node.2)) }

def Logged (older : List String) (s : Session (ν × List String)) : Prop :=
  s.node.2 = s.deployedContracts.map Prod.fst ++ older

theorem logged_stable : Stable (fun s t => ∀ older, Logged older s → Logged older t) harness.logged where
  refl _ _ := id
  trans first second older := second older ∘ first older
  output _ _ _ := id
  deploy path s older logged := by
    rw [deployContract_run]
    rcases found : s.deployedContracts.lookup path with _ | known <;>
      rcases deployed : harness.deployContract s.node.1 path with ⟨⟨_ | _, _⟩, _⟩ <;>
      simp_all [Harness.logged, Logged]
  onNode _ _ _ _ logged := logged

end Logged

section Frame
variable {ν : Type} (harness : Harness ν)

/-- The harness with a node that does nothing: every deployment and every run fails and
leaves the node as it was. -/
def Harness.offline : Harness ν :=
  { harness with
    deployContract := fun node _ => ((.error "", ""), node)
    runsOnNode := fun node _ _ => ((.error "", ""), node) }

theorem run_offline {test : TestDescription} (offNode : test.category ≠ .runsWithContract) :
    TestContext.run harness.offline test = TestContext.run harness test := by
  unfold TestContext.run
  cases category : test.category <;> first | exact absurd category offNode | rfl

theorem outputOnly_stable : Stable (fun s t => ∃ out, t = { s with output := out }) harness.offline where
  refl s := ⟨s.output, rfl⟩
  trans := by
    rintro s _ _ ⟨_, rfl⟩ ⟨out, rfl⟩
    exact ⟨out, rfl⟩
  output _ out := ⟨out, rfl⟩
  deploy path s := by
    rw [deployContract_run]
    cases s.deployedContracts.lookup path <;> exact ⟨s.output, rfl⟩
  onNode _ _ s := ⟨s.output, rfl⟩

/-- A test that does not run on a node, whether it passes, fails or panics, changes nothing
but the output: the contract map and the node are left as they were. -/
theorem run_frame {test : TestDescription} (offNode : test.category ≠ .runsWithContract) (s : Session ν) :
    ∃ out, (outcome (TestContext.run harness test) s).2 = { s with output := out } := by
  rw [← run_offline harness offNode]
  exact preserves_run (outputOnly_stable harness) test s

theorem run_frame_compiles :
    TestCategory.compiles ≠ .runsWithContract ∧
    ∃ out, (outcome (TestContext.run deployingHarness
        ⟨"basic", .compiles, none, none, none, 0, ["counter"], false, false, [.fuel], ⟨[]⟩⟩)
        ⟨[("counter", 1)], (), ""⟩).2 = { (⟨[("counter", 1)], (), ""⟩ : Session Unit) with output := out } :=
  ⟨by decide, run_frame _ (by decide) _⟩

end Frame

end E2eVmTests
