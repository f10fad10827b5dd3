import MockScaffold.Config
import MockScaffold.Text.Quoted

/-!
# Usage of the command

The command takes one source and five options with a value.  An option that is not given takes its
value from a variable of the environment, if that is set and not empty, and else its default.
-/

namespace MockScaffold.CommandLine

/-- The options with a value. -/
inductive Setting where
  | mocksOut
  | typesOut
  | collision
  | arrayStrategy
  | timeout
  deriving DecidableEq, Repr

namespace Setting

/-- The options in the order in which they are declared. -/
def all : List Setting := [.mocksOut, .typesOut, .collision, .arrayStrategy, .timeout]

/-- The option as it is given. -/
def name : Setting → String
  | .mocksOut => "--mocks-out"
  | .typesOut => "--types-out"
  | .collision => "--collision"
  | .arrayStrategy => "--array-strategy"
  | .timeout => "--timeout"

/-- The variable of the environment that stands in for the option. -/
def environmentName : Setting → String
  | .mocksOut => "API_MOCK_GEN_MOCKS_OUT"
  | .typesOut => "API_MOCK_GEN_TYPES_OUT"
  | .collision => "API_MOCK_GEN_COLLISION"
  | .arrayStrategy => "API_MOCK_GEN_ARRAY_STRATEGY"
  | .timeout => "API_MOCK_GEN_TIMEOUT"

/-- The text that stands for an option that is not given. -/
def default? : Setting → Option String
  | .mocksOut => some Config.defaultMocksPath.text
  | .typesOut => some Config.defaultTypesPath.text
  | .collision => some CollisionPolicy.firstWins.name
  | .arrayStrategy => some ArrayStrategy.firstElement.name
  | .timeout => none

end Setting

def helpName : String := "--help"

/-- All options. -/
def optionNames : List String := Setting.all.map Setting.name ++ [helpName]

/-- Why the arguments of the command make no sense. -/
inductive UsageFault where
  | needsValue (option : String)
  | takesNoValue (option : String)
  | unknownOption (option : String) (suggestions : List String)
  | noSource
  | extraArguments (arguments : List String)
  | notAChoice (s : Setting) (value : String) (choices : List String)
  | notANumber (s : Setting) (value : String)
  | isDirectory (s : Setting) (value : String)
  deriving DecidableEq, Repr

namespace UsageFault

/-- The options that an unknown one may have been meant for. -/
def hint (suggestions : List String) : String :=
  match suggestions.map Text.quoted with
  | [] => ""
  | [name] => " Did you mean " ++ name ++ "?"
  | names => " (Possible options: " ++ ", ".intercalate names ++ ")"

def badValue (s : Setting) (reason : String) : String :=
  "Invalid value for " ++ Text.quoted s.name ++ ": " ++ reason

def message : UsageFault → String
  | .needsValue option => "Option " ++ Text.quoted option ++ " requires an argument."
  | .takesNoValue option => "Option " ++ Text.quoted option ++ " does not take a value."
  | .unknownOption option suggestions =>
    "No such option " ++ Text.quoted option ++ "." ++ hint suggestions
  | .noSource => "Missing argument 'SOURCE'."
  | .extraArguments [a] => "Got unexpected extra argument (" ++ a ++ ")"
  | .extraArguments arguments =>
    "Got unexpected extra arguments (" ++ " ".intercalate arguments ++ ")"
  | .notAChoice s value choices =>
    badValue s (Text.quoted value ++ " is not one of " ++
      ", ".intercalate (choices.map Text.quoted) ++ ".")
  | .notANumber s value => badValue s (Text.quoted value ++ " is not a valid float.")
  | .isDirectory s value => badValue s ("File " ++ Text.quoted value ++ " is a directory.")

/-- Whether the message comes after a reminder of how the command is used. -/
def hasReminder : UsageFault → Bool
  | .needsValue _ | .takesNoValue _ => false
  | _ => true

def reminder : String := "Usage: main [OPTIONS] SOURCE\nTry 'main --help' for help.\n\n"

/-- What is printed for the fault. -/
def report (f : UsageFault) : String :=
  (if f.hasReminder then reminder else "") ++ "Error: " ++ f.message ++ "\n"

end UsageFault

/-- The description of the command. -/
def help : String := "\n".intercalate [
  "Usage: main [OPTIONS] SOURCE",
  "",
  "  Generate MSW mock handlers and TypeScript types from an API spec.",
  "",
  "  SOURCE is a URL serving the specification as JSON, or a path to a JSON or YAML",
  "  file of the form \x7b\"apis\": [...]\x7d.",
  "",
  "Options:",
  "  --mocks-out FILE                Output file for the MSW handlers.  [default:",
  "                                  frontend/src/mocks/handlers.ts]",
  "  --types-out FILE                Output file for the TypeScript declarations.",
  "                                  [default: frontend/src/api.d.ts]",
  "  --collision [first_wins|last_wins]",
  "                                  Which endpoint keeps a type name derived more",
  "                                  than once.  [default: first_wins]",
  "  --array-strategy [first_element|union]",
  "                                  How array element types are inferred.",
  "                                  [default: first_element]",
  "  --timeout FLOAT                 Seconds to wait when fetching a URL source",
  "                                  (default: no limit).",
  "  --help                          Show this message and exit.",
  ""]

end MockScaffold.CommandLine
