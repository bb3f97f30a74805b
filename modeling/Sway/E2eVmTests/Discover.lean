import Sway.E2eVmTests.Description

/-! discover_test_configs and the reading of one test.toml. The file system, DIRECTIVE_RX,
FileCheck and the TOML parser belong to other crates and are the fields of a structure. -/

namespace E2eVmTests

inductive Entry where
  | file (name : String)
  | dir (name : String) (entries : List Entry)

def Entry.name : Entry → String
  | file name | dir name _ => name

/-- What parse_test_toml takes from outside this repository: std::fs::read_to_string, the
captures of DIRECTIVE_RX (the whole line and the directive's name),
CheckerBuilder::directive, and the TOML parser. -/
structure Loader where
  readToString : List String → Except String String
  captures : String → List (String × String)
  directive : String → Except String Bool
  parseToml : String → Except String TomlValue

section
variable (loader : Loader) (external : External)

/-- The directives FileCheck knows go into the checker, and one it does not know is an
error; a line it cannot parse is passed over, as if let Ok(false) does. -/
def buildFileChecker.loop : Checker → List (String × String) → Except Failure Checker
  | checker, [] => pure checker
  | checker, (line, name) :: rest =>
    match loader.directive line with
    | .ok false => throw (.error ("Unknown FileCheck directive: " ++ name))
    | .ok true => buildFileChecker.loop ⟨checker.directives ++ [line]⟩ rest
    | .error _ => buildFileChecker.loop checker rest

def buildFileChecker (content : String) : Except Failure Checker :=
  buildFileChecker.loop loader ⟨[]⟩ (loader.captures content)

def parseTestTomlFile (path : List String) : Except Failure TestDescription := do
  let tomlContentStr ← (loader.readToString path).mapError .error
  let checker ← buildFileChecker loader tomlContentStr
  let tomlContent ← (loader.parseToml tomlContentStr).mapError .error
  parseTestToml external tomlContent path checker

/-- wrap_err of recursive_search: an error is prefixed with the path below test_programs;
a panic goes through unchanged. -/
def wrapErr (path : List String) : Failure → Failure
  | .error e => .error ("/".intercalate ((path.dropWhile (· != "test_programs")).drop 1) ++ ": " ++ e)
  | .panic message => .panic message

def recursiveSearch.config (path : List String) : Except Failure TestDescription :=
  (parseTestTomlFile loader external path).mapError (wrapErr path)

mutual

/-- recursive_search from the path of an entry: a directory is searched entry by entry, a
file named test.toml is parsed onto the end of the configs, and any other file is
passed over. The first error ends the search. -/
def recursiveSearch (path : List String) : Entry → List TestDescription → Except Failure (List TestDescription)
  | .dir _ entries, configs => recursiveSearch.entries path entries configs
  | .file name, configs =>
    if name == "test.toml" then do
      let config ← recursiveSearch.config loader external path
      pure (configs ++ [config])
    else pure configs

def recursiveSearch.entries (path : List String) :
    List Entry → List TestDescription → Except Failure (List TestDescription)
  | [], configs => pure configs
  | entry :: rest, configs => do
    let configs ← recursiveSearch (path ++ [entry.name]) entry configs
    recursiveSearch.entries path rest configs

end

def discoverTestConfigs (manifestDir : List String) (testPrograms : List Entry) :
    Except Failure (List TestDescription) :=
  recursiveSearch loader external (manifestDir ++ ["src", "e2e_vm_tests", "test_programs"])
    (.dir "test_programs" testPrograms) []

end

end E2eVmTests
