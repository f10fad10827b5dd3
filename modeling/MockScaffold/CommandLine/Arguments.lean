import MockScaffold.CommandLine.Usage
import MockScaffold.Text.Similarity

/-!
# Arguments of the command

Options and other arguments may be mixed.  An option takes its value from behind an equals sign, or
else the next argument, whatever it looks like; `--` ends the options, and a single hyphen is no
option.  Of an option that is given twice the last value counts, and the first place.
-/

namespace MockScaffold.CommandLine

/-- Arguments, sorted. -/
structure Arguments where
  /-- The options given, in the order of their first occurrence, each with its last value. -/
  settings : List (Setting × String)
  wantsHelp : Bool
  /-- What is not an option. -/
  operands : List String
  deriving DecidableEq, Repr

/-- Puts a value for an option. -/
def setSetting (s : Setting) (value : String) :
    List (Setting × String) → List (Setting × String)
  | [] => [(s, value)]
  | (t, v) :: rest => if t = s then (t, value) :: rest else (t, v) :: setSetting s value rest

namespace Arguments

def empty : Arguments := ⟨[], false, []⟩

def withSetting (a : Arguments) (s : Setting) (value : String) : Arguments :=
  { a with settings := setSetting s value a.settings }

def withOperands (a : Arguments) (operands : List String) : Arguments :=
  { a with operands := a.operands ++ operands }

/-- An option as it stands in an argument. -/
inductive Mark where
  | setting (s : Setting)
  | help
  | unknown (f : UsageFault)

/-- The option that an argument names.  After a single hyphen the first letter counts. -/
def markOf (argument option : List Char) : Mark :=
  let name := String.ofList option
  match Setting.all.find? fun s => s.name == name with
  | some s => .setting s
  | none =>
    if name = helpName then .help
    else
      match argument with
      | '-' :: c :: _ =>
        if c = '-' then .unknown (.unknownOption name (Text.similar name optionNames))
        else .unknown (.unknownOption (String.ofList ['-', c]) [])
      | _ => .unknown (.unknownOption name [])

/-- Splits an argument at its first equals sign. -/
def splitValue (argument : List Char) : List Char × Option String :=
  match argument.dropWhile (· ≠ '=') with
  | [] => (argument, none)
  | _ :: value => (argument.takeWhile (· ≠ '='), some (String.ofList value))

/-- Whether an argument is an option: it starts with a hyphen and has more characters. -/
def isOption (argument : List Char) : Bool := argument.head? == some '-' && 1 < argument.length

/-- Sorts arguments, `done` being those sorted already. -/
def sort (done : Arguments) : List String → Except UsageFault Arguments
  | [] => .ok done
  | argument :: rest =>
    let cs := argument.toList
    if argument = "--" then .ok (done.withOperands rest)
    else if !isOption cs then sort (done.withOperands [argument]) rest
    else
      let (option, value) := splitValue cs
      match markOf cs option, value, rest with
      | .unknown f, _, _ => .error f
      | .help, some _, _ => .error (.takesNoValue helpName)
      | .help, none, rest => sort { done with wantsHelp := true } rest
      | .setting s, some value, rest => sort (done.withSetting s value) rest
      | .setting s, none, value :: rest => sort (done.withSetting s value) rest
      | .setting s, none, [] => .error (.needsValue s.name)

/-- Sorts the arguments of the command. -/
def ofList (arguments : List String) : Except UsageFault Arguments := sort empty arguments

end Arguments

end MockScaffold.CommandLine
