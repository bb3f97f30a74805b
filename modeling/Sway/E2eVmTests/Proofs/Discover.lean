import Sway.E2eVmTests.Discover
import Sway.E2eVmTests.Proofs.Parse

/-! What discovery finds: the test.toml files of the tree in the order of the walk, each
parsed, the first failure ending it under the path below test_programs; and which
directive lines build_file_checker keeps. -/

namespace E2eVmTests

mutual

/-- The paths of the test.toml files below an entry, relative to the entry's own path, in
the order recursive_search visits them. -/
def Entry.testFiles : Entry → List (List String)
  | .file name => if name == "test.toml" then [[]] else []
  | .dir _ entries => Entry.testFiles.entries entries

def Entry.testFiles.entries : List Entry → List (List String)
  | [] => []
  | entry :: rest => entry.testFiles.map (entry.name :: ·) ++ Entry.testFiles.entries rest

end

section Search
variable (loader : Loader) (external : External)

@[simp] theorem testFiles_file (name : String) :
    (Entry.file name).testFiles = if name == "test.toml" then [[]] else [] := rfl

@[simp] theorem testFiles_dir (name : String) (entries : List Entry) :
    (Entry.dir name entries).testFiles = Entry.testFiles.entries entries := rfl

@[simp] theorem testFiles_entries_nil : Entry.testFiles.entries [] = [] := rfl

@[simp] theorem testFiles_entries_cons (entry : Entry) (rest : List Entry) :
    Entry.testFiles.entries (entry :: rest) =
      entry.testFiles.map (entry.name :: ·) ++ Entry.testFiles.entries rest := rfl

theorem recursiveSearch_dir (path : List String) (name : String) (entries : List Entry)
    (configs : List TestDescription) :
    recursiveSearch loader external path (.dir name entries) configs =
      recursiveSearch.entries loader external path entries configs := rfl

theorem recursiveSearch_file (path : List String) (name : String) (configs : List TestDescription) :
    recursiveSearch loader external path (.file name) configs =
      if name == "test.toml" then (configs ++ [·]) <$> recursiveSearch.config loader external path
      else pure configs := by
  rw [recursiveSearch]
  split
  · cases recursiveSearch.config loader external path <;> rfl
  · rfl

theorem recursiveSearch_entries_nil (path : List String) (configs : List TestDescription) :
    recursiveSearch.entries loader external path [] configs = pure configs := rfl

theorem recursiveSearch_entries_cons (path : List String) (entry : Entry) (rest : List Entry)
    (configs : List TestDescription) :
    recursiveSearch.entries loader external path (entry :: rest) configs =
      recursiveSearch loader external (path ++ [entry.name]) entry configs >>=
        recursiveSearch.entries loader external path rest := rfl

mutual

/-- recursive_search parses the test.toml files below an entry in the order of the walk
and appends them to the configs; the first failure ends it. -/
theorem recursiveSearch_eq (path : List String) : (entry : Entry) → (configs : List TestDescription) →
    recursiveSearch loader external path entry configs =
      (configs ++ ·) <$> (entry.testFiles.map (path ++ ·)).mapM (recursiveSearch.config loader external)
  | .file name, configs => by
    rw [recursiveSearch_file, testFiles_file]
    split
    · simp only [List.map_cons, List.map_nil, List.append_nil, List.mapM_cons, List.mapM_nil]
      cases recursiveSearch.config loader external path <;> rfl
    · simp only [List.map_nil, List.mapM_nil, map_pure, List.append_nil]
  | .dir name entries, configs => by
    rw [recursiveSearch_dir, testFiles_dir]
    exact recursiveSearch_entries_eq path entries configs

theorem recursiveSearch_entries_eq (path : List String) : (entries : List Entry) → (configs : List TestDescription) →
    recursiveSearch.entries loader external path entries configs =
      (configs ++ ·) <$> ((Entry.testFiles.entries entries).map (path ++ ·)).mapM
        (recursiveSearch.config loader external)
  | [], configs => by
    simp only [recursiveSearch_entries_nil, testFiles_entries_nil, List.map_nil, List.mapM_nil, map_pure,
      List.append_nil]
  | entry :: rest, configs => by
    have below : (entry.testFiles.map (entry.name :: ·)).map (path ++ ·) =
        entry.testFiles.map ((path ++ [entry.name]) ++ ·) := by
      simp [Function.comp_def]
    rw [recursiveSearch_entries_cons, testFiles_entries_cons, List.map_append, List.mapM_append, below,
      recursiveSearch_eq (path ++ [entry.name]) entry configs]
    cases (entry.testFiles.map ((path ++ [entry.name]) ++ ·)).mapM (recursiveSearch.config loader external) with
    | error failure => rfl
    | ok found =>
      simp only [Functor.map, Except.map, bind, Except.bind, recursiveSearch_entries_eq path rest (configs ++ found)]
      cases ((Entry.testFiles.entries rest).map (path ++ ·)).mapM (recursiveSearch.config loader external) <;>
        simp [pure, Except.pure]

end

/-- Discovery parses every test.toml below test_programs, in the order of the walk, and
stops at the first that fails, its error prefixed with its path below test_programs. -/
theorem discoverTestConfigs_eq (manifestDir : List String) (testPrograms : List Entry) :
    discoverTestConfigs loader external manifestDir testPrograms =
      ((Entry.testFiles.entries testPrograms).map (manifestDir ++ ["src", "e2e_vm_tests", "test_programs"] ++ ·)).mapM
        (recursiveSearch.config loader external) := by
  rw [discoverTestConfigs, recursiveSearch_eq, testFiles_dir]
  cases ((Entry.testFiles.entries testPrograms).map (manifestDir ++ ["src", "e2e_vm_tests", "test_programs"] ++ ·)).mapM
    (recursiveSearch.config loader external) <;> rfl

theorem config_eq_ok {path : List String} {d : TestDescription}
    (parsed : recursiveSearch.config loader external path = .ok d) :
    parseTestTomlFile loader external path = .ok d := by
  unfold recursiveSearch.config at parsed
  cases found : parseTestTomlFile loader external path <;> simp [found, Except.mapError] at parsed ⊢
  exact parsed

/-- A parsed test.toml is named by the directories between test_programs and the file. -/
theorem parseTestTomlFile_name {path : List String} {d : TestDescription}
    (parsed : parseTestTomlFile loader external path = .ok d) :
    d.name = "/".intercalate ((path.dropWhile (· != "test_programs")).drop 1).dropLast := by
  simp only [parseTestTomlFile, bind_eq_ok] at parsed
  obtain ⟨_, _, _, _, _, _, parsed⟩ := parsed
  obtain ⟨-, _, _, _, _, _, _, _, _, _, _, _, name, named, _, _, rfl⟩ := parseTestToml_eq_ok.mp parsed
  unfold parseTestToml.name at named
  split at named
  · cases named
  · cases named
    rfl

theorem dropWhile_testsRootDir {manifestDir : List String} (outside : "test_programs" ∉ manifestDir)
    (relative : List String) :
    (manifestDir ++ ["src", "e2e_vm_tests", "test_programs"] ++ relative).dropWhile (· != "test_programs") =
      "test_programs" :: relative := by
  induction manifestDir with
  | nil => rfl
  | cons dir rest ih =>
    rw [List.mem_cons, not_or] at outside
    simp only [List.cons_append, List.dropWhile_cons, bne_iff_ne, ne_eq, Ne.symm outside.1, not_false_eq_true,
      ↓reduceIte, ih outside.2]

/-- When no directory of CARGO_MANIFEST_DIR is called test_programs, each discovered test is
named by the directories of its test.toml below test_programs, in the order of the walk. -/
theorem discoverTestConfigs_names (manifestDir : List String) (testPrograms : List Entry)
    {configs : List TestDescription} (outside : "test_programs" ∉ manifestDir)
    (discovered : discoverTestConfigs loader external manifestDir testPrograms = .ok configs) :
    configs.map (·.name) =
      (Entry.testFiles.entries testPrograms).map fun relative => "/".intercalate relative.dropLast := by
  rw [discoverTestConfigs, recursiveSearch_eq, testFiles_dir, map_eq_ok] at discovered
  obtain ⟨found, parsed, rfl⟩ := discovered
  have named : List.Forall₂ (fun relative (d : TestDescription) => "/".intercalate relative.dropLast = d.name)
      (Entry.testFiles.entries testPrograms) found :=
    (List.forall₂_map_left_iff.mp (mapM_eq_ok.mp parsed)).imp fun relative _ config => by
      rw [parseTestTomlFile_name loader external (config_eq_ok loader external config),
        dropWhile_testsRootDir outside]
      rfl
  have same := List.forall₂_map_left_iff.mpr (List.forall₂_map_right_iff.mpr named)
  rw [List.forall₂_eq_eq_eq] at same
  exact same.symm

end Search

/-- A loader under which every test.toml is a compile test with no FileCheck directive. -/
def compileLoader : Loader :=
  ⟨fun _ => .ok "", fun _ => [], fun _ => .ok true, fun _ => .ok (.table [("category", .string "compile")])⟩

theorem discoverTestConfigs_names_basic :
    "test_programs" ∉ ["sway", "test"] ∧
    discoverTestConfigs compileLoader ⟨fun _ => "", fun _ => "", fun _ => none⟩ ["sway", "test"]
        [.dir "basic" [.dir "src" [.file "main.sw"], .file "test.toml"]] =
      .ok [⟨"basic", .compiles, none, none, none, 0, [], false, false, [.fuel], ⟨[]⟩⟩] ∧
    ([⟨"basic", .compiles, none, none, none, 0, [], false, false, [.fuel], ⟨[]⟩⟩] : List TestDescription).map
        (·.name) =
      (Entry.testFiles.entries [.dir "basic" [.dir "src" [.file "main.sw"], .file "test.toml"]]).map
        fun relative => "/".intercalate relative.dropLast := by
  refine ⟨by decide, ?discovered, discoverTestConfigs_names _ _ _ _ (by decide) ?discovered⟩
  rfl

section Checker
variable (loader : Loader)

/-- Whether FileCheck does not know a directive line. -/
def isUnknown : Except String Bool → Bool
  | .ok false => true
  | _ => false

/-- Whether FileCheck knows a directive line. -/
def isKnown : Except String Bool → Bool
  | .ok true => true
  | _ => false

theorem buildFileChecker_loop_eq (checker : Checker) (captures : List (String × String)) :
    buildFileChecker.loop loader checker captures =
      match captures.find? fun c => isUnknown (loader.directive c.1) with
      | some (_, name) => throw (.error ("Unknown FileCheck directive: " ++ name))
      | none => .ok ⟨checker.directives ++ (captures.filter fun c => isKnown (loader.directive c.1)).map Prod.fst⟩ := by
  induction captures generalizing checker with
  | nil => simp [buildFileChecker.loop, pure, Except.pure]
  | cons c rest ih =>
    obtain ⟨line, name⟩ := c
    rcases found : loader.directive line with _ | (_ | _) <;>
      simp [buildFileChecker.loop, found, isUnknown, isKnown, ih, List.find?_cons, List.filter_cons]

/-- build_file_checker fails exactly when a directive line is unknown to FileCheck, naming
the first; otherwise the checker holds the lines FileCheck knows, in order, and a line
FileCheck cannot parse is dropped without an error. -/
theorem buildFileChecker_eq (content : String) :
    buildFileChecker loader content =
      match (loader.captures content).find? fun c => isUnknown (loader.directive c.1) with
      | some (_, name) => throw (.error ("Unknown FileCheck directive: " ++ name))
      | none => .ok ⟨((loader.captures content).filter fun c => isKnown (loader.directive c.1)).map Prod.fst⟩ := by
  rw [buildFileChecker, buildFileChecker_loop_eq]
  rfl

theorem buildFileChecker_directives {content : String} {checker : Checker}
    (built : buildFileChecker loader content = .ok checker) :
    checker.directives = ((loader.captures content).filter fun c => isKnown (loader.directive c.1)).map Prod.fst := by
  rw [buildFileChecker, buildFileChecker_loop_eq] at built
  split at built
  · cases built
  · cases built
    rfl

end Checker

section Discovered
variable (loader : Loader) (external : External)

/-- A test.toml that parses gives a checker made of the directive lines of that file which
FileCheck knows, in order, and at least one of them when the test is expected to fail. -/
theorem parseTestTomlFile_checker {path : List String} {d : TestDescription}
    (parsed : parseTestTomlFile loader external path = .ok d) :
    ∃ content, loader.readToString path = .ok content ∧
      d.checker.directives =
        ((loader.captures content).filter fun c => isKnown (loader.directive c.1)).map Prod.fst ∧
      (d.category = .failsToCompile → d.checker.directives ≠ []) := by
  simp only [parseTestTomlFile, bind_eq_ok, mapError_eq_ok] at parsed
  obtain ⟨content, read, checker, built, _, -, parsed⟩ := parsed
  obtain ⟨-, _, -, guard, _, -, _, -, _, -, _, -, _, -, _, -, rfl⟩ := parseTestToml_eq_ok.mp parsed
  exact ⟨content, read, buildFileChecker_directives loader built,
    fun failing empty => guard ⟨failing, by simpa [Checker.isEmpty] using empty⟩⟩

/-- Every test discovered below test_programs was parsed from one of the tree's test.toml
files, and its FileCheck checker holds exactly the directive lines of that file which
FileCheck knows, in the file's order; a test expected to fail has at least one. -/
theorem discoverTestConfigs_checkers (manifestDir : List String) (testPrograms : List Entry)
    {configs : List TestDescription}
    (discovered : discoverTestConfigs loader external manifestDir testPrograms = .ok configs) :
    ∀ d ∈ configs, ∃ path ∈ (Entry.testFiles.entries testPrograms).map
        (manifestDir ++ ["src", "e2e_vm_tests", "test_programs"] ++ ·),
      ∃ content, loader.readToString path = .ok content ∧
        d.checker.directives =
          ((loader.captures content).filter fun c => isKnown (loader.directive c.1)).map Prod.fst ∧
        (d.category = .failsToCompile → d.checker.directives ≠ []) := by
  rw [discoverTestConfigs, recursiveSearch_eq, testFiles_dir, map_eq_ok] at discovered
  obtain ⟨found, parsed, rfl⟩ := discovered
  intro d member
  obtain ⟨path, among, config⟩ := mapM_eq_ok_mem parsed d member
  exact ⟨path, among, parseTestTomlFile_checker loader external (config_eq_ok loader external config)⟩

end Discovered

/-- A loader under which every test.toml is a fail test with one directive line, which
FileCheck knows. -/
def failLoader : Loader :=
  ⟨fun _ => .ok "check: error", fun _ => [("check: error", "check")], fun _ => .ok true,
    fun _ => .ok (.table [("category", .string "fail")])⟩

theorem discoverTestConfigs_checkers_fail :
    discoverTestConfigs failLoader ⟨fun _ => "", fun _ => "", fun _ => none⟩ ["sway", "test"]
        [.dir "failing" [.file "test.toml"]] =
      .ok [⟨"failing", .failsToCompile, none, none, none, 0, [], false, false, [.fuel], ⟨["check: error"]⟩⟩] ∧
    ∀ d ∈ ([⟨"failing", .failsToCompile, none, none, none, 0, [], false, false, [.fuel], ⟨["check: error"]⟩⟩] :
        List TestDescription),
      ∃ path ∈ (Entry.testFiles.entries [.dir "failing" [.file "test.toml"]]).map
          (["sway", "test"] ++ ["src", "e2e_vm_tests", "test_programs"] ++ ·),
        ∃ content, failLoader.readToString path = .ok content ∧
          d.checker.directives =
            ((failLoader.captures content).filter fun c => isKnown (failLoader.directive c.1)).map Prod.fst ∧
          (d.category = .failsToCompile → d.checker.directives ≠ []) := by
  refine ⟨?discovered, discoverTestConfigs_checkers _ _ _ _ ?discovered⟩
  rfl

end E2eVmTests
