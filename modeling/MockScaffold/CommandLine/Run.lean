import MockScaffold.CommandLine.Arguments
import MockScaffold.Document.Artifacts
import MockScaffold.Number.Reading
import MockScaffold.Source.Loading

/-!
# A run of the command

A run is a function of the arguments, the environment, the file tree and what the web would reply.
It prints its progress, and ends in one of a few ways; after every one of them a file tree is left,
which differs from the one before only if writing has begun.
-/

namespace MockScaffold.CommandLine

/-- How a run ends. -/
inductive Ending where
  | success
  | helped
  | misused (f : UsageFault)
  /-- An output path that no file can have. -/
  | badPath (f : FileFault)
  | notLoaded (f : LoadFault)
  | notGenerated (f : Artifacts.Fault)
  | notWritten (f : FileFault)
  deriving DecidableEq

namespace Ending

/-- Whether the run ends by a fault that it does not report. -/
def isUnreported : Ending → Bool
  | .success | .helped | .misused _ => false
  | .badPath _ | .notGenerated _ => true
  | .notLoaded f => !f.isReported
  | .notWritten f => f == .nullByte

def exitCode : Ending → Nat
  | .success | .helped => 0
  | .misused _ => 2
  | _ => 1

/-- What is printed as an error. -/
def report (e : Ending) : String :=
  match e with
  | .misused f => f.report
  | .notLoaded f => if e.isUnreported then "" else "Error: " ++ f.message ++ "\n"
  | .notWritten f =>
    if e.isUnreported then "" else "Error: Failed to write output: " ++ f.message ++ "\n"
  | _ => ""

/-- The message of a fault that is not reported. -/
def unreported? (e : Ending) : Option String :=
  match e with
  | .badPath f => some f.message
  | .notGenerated f => some f.message
  | .notLoaded f => if e.isUnreported then some f.message else none
  | .notWritten f => if e.isUnreported then some f.message else none
  | _ => none

end Ending

/-- A request for a source, with the number of seconds to wait. -/
structure Request where
  url : String
  timeout : Option Double
  deriving DecidableEq, Repr

/-- What a run does. -/
structure Outcome where
  ending : Ending
  /-- What is printed as progress. -/
  output : String
  /-- The source that was fetched, if one was. -/
  request : Option Request
  /-- The file tree that is left. -/
  tree : FileTree

/-- Checks a path for output: what is there must not be a directory. -/
def outputPath (t : FileTree) (s : Setting) (value : String) : Except Ending FilePath :=
  if value.toList.contains '\x00' then .error (.badPath .nullByte)
  else if t.entryAt? value.toList = some .directory then .error (.misused (.isDirectory s value))
  else .ok (.ofText value)

/-- Checks one of a few names. -/
def choice {α : Type} (all : List α) (name : α → String) (s : Setting) (value : String) :
    Except Ending α :=
  (all.find? fun a => name a == value).elim
    (.error (.misused (.notAChoice s value (all.map name)))) .ok

/-- Puts the value of an option into the configuration. -/
def applySetting (t : FileTree) (config : Config) (s : Setting) (value : String) :
    Except Ending Config :=
  match s with
  | .mocksOut => (outputPath t s value).map fun p => { config with mocksPath := p }
  | .typesOut => (outputPath t s value).map fun p => { config with typesPath := p }
  | .collision =>
    (choice CollisionPolicy.all CollisionPolicy.name s value).map fun p =>
      { config with collisionPolicy := p }
  | .arrayStrategy =>
    (choice ArrayStrategy.all ArrayStrategy.name s value).map fun a =>
      { config with arrayStrategy := a }
  | .timeout =>
    match Double.readLoose? value.toList with
    | some x => .ok { config with timeout := some x }
    | none => .error (.misused (.notANumber s value))

/-- Puts the values of options into the configuration, one after the other. -/
def applySettings (t : FileTree) (config : Config) (settings : List (Setting × String)) :
    Except Ending Config :=
  settings.foldlM (fun config (s, value) => applySetting t config s value) config

/-- The configuration when nothing is given. -/
def defaultConfig : Config :=
  ⟨Config.defaultMocksPath, Config.defaultTypesPath, .firstWins, .firstElement, none⟩

/-- The options that are not given, with the values that stand in for them. -/
def standIns (environment : String → Option String) (given : List (Setting × String)) :
    List (Setting × String) :=
  (Setting.all.filter fun s => !given.any fun e => e.1 == s).filterMap fun s =>
    (((environment s.environmentName).filter (· ≠ "")).or s.default?).map (s, ·)

/-- The source and the configuration of a run.  The options given are checked first, then whether
there is a source, then the other options, and last whether there is more than a source. -/
def prepare (environment : String → Option String) (t : FileTree) (a : Arguments) :
    Except Ending (String × Config) := do
  if a.wantsHelp then .error .helped
  let config ← applySettings t defaultConfig a.settings
  match a.operands with
  | [] => .error (.misused .noSource)
  | source :: extra =>
    let config ← applySettings t config (standIns environment a.settings)
    if extra ≠ [] then .error (.misused (.extraArguments extra))
    return (source, config)

/-- Loads a specification, generates its artifacts and writes them. -/
def generate (fetch : String → Reply) (t : FileTree) (source : String) (config : Config) : Outcome :=
  let request := if SourceKind.of source = .url then some ⟨source, config.timeout⟩ else none
  let started := "Reading specification from " ++ source ++ "...\n"
  match Specification.load t fetch source with
  | .error f => ⟨.notLoaded f, started, request, t⟩
  | .ok spec =>
    let loaded := started ++ s!"Found {spec.endpoints.length} endpoints.\n"
    match Artifacts.generate t.workingDirectory config spec with
    | .error f => ⟨.notGenerated f, loaded, request, t⟩
    | .ok artifacts =>
      match artifacts.write t config with
      | (t', .error f) => ⟨.notWritten f, loaded, request, t'⟩
      | (t', .ok written) =>
        let lines := written.map fun p => "  Generated " ++ p.text ++ "\n"
        let done := s!"Done! Generated {artifacts.table.size} types and {written.length} files.\n"
        ⟨.success, loaded ++ String.join lines ++ done, request, t'⟩

/-- A run of the command. -/
def run (environment : String → Option String) (fetch : String → Reply) (t : FileTree)
    (arguments : List String) : Outcome :=
  match Arguments.ofList arguments with
  | .error f => ⟨.misused f, "", none, t⟩
  | .ok a =>
    match prepare environment t a with
    | .error .helped => ⟨.helped, help, none, t⟩
    | .error ending => ⟨ending, "", none, t⟩
    | .ok (source, config) => generate fetch t source config

end MockScaffold.CommandLine
