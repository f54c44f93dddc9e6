import SealedBuild.Collection.VarMap
import SealedBuild.CommandLine.Word

/-!
# Arguments

The options and values that a command takes, and the sorting of the words of a command line
into them. An option that takes a value takes the word behind it, unless that word is an
option itself. No option but a repeatable one is given twice.
-/

namespace SealedBuild.CommandLine

/-- Why a command line asks for nothing that can be done. -/
inductive UsageFault where
  | noCommand
  | unknownCommand (name : String)
  | unknownOption (name : String)
  /-- An option stands without the value it takes. -/
  | noValue (option : String)
  /-- An option stands with a value and takes none. -/
  | unwantedValue (option : String)
  | repeated (option : String)
  | badValue (argument value : String)
  | unwantedWord (word : String)
  | noBinary
  deriving DecidableEq, Inhabited

/-- Why the reading of a command line stops. -/
inductive Stop where
  /-- The words ask how the program is used. -/
  | help
  | fault (fault : UsageFault)
  deriving DecidableEq, Inhabited

/-- How an option is given. -/
inductive OptionKind where
  /-- It asks how the program is used. -/
  | help
  /-- It stands alone. -/
  | switch
  /-- It has a value of a form. -/
  | single (accepts : String → Bool)
  /-- It has a value each time it is given. -/
  | repeatable

/-- Accepts every value. -/
def anyText (_ : String) : Bool :=
  true

/-- Accepts what can be a path. -/
def isPath (value : String) : Bool :=
  !value.isEmpty

/-- The arguments that a command takes: its options, and at most so many paths. -/
structure Grammar where
  options : List (String × OptionKind)
  paths : Nat

/-- The arguments found so far. -/
structure Arguments where
  /-- The options with their values, in the order given; a switch has the empty value. -/
  options : List (String × String) := []
  paths : List String := []
  deriving DecidableEq, Inhabited

namespace Arguments

/-- The value of an option, if it is given. -/
def value? (arguments : Arguments) (option : String) : Option String :=
  arguments.options.lookup option

/-- All values of an option, in order. -/
def values (arguments : Arguments) (option : String) : List String :=
  (arguments.options.filter fun given => given.1 = option).map Prod.snd

/-- Whether an option is given. -/
def has (arguments : Arguments) (option : String) : Bool :=
  (arguments.value? option).isSome

/-- The arguments with one more value of an option. -/
def record (arguments : Arguments) (option value : String) : Arguments :=
  { arguments with options := arguments.options ++ [(option, value)] }

/-- The arguments with a value of an option that stands at most once. -/
def recordOnce (arguments : Arguments) (option value : String) : Except Stop Arguments :=
  if arguments.has option then .error (.fault (.repeated option))
  else .ok (arguments.record option value)

/-- The arguments with a value of an option of some kind. -/
def give (arguments : Arguments) (option : String) (kind : OptionKind) (value : String) :
    Except Stop Arguments :=
  match kind with
  | .repeatable => .ok (arguments.record option value)
  | .single accepts =>
    if accepts value then arguments.recordOnce option value
    else .error (.fault (.badValue option value))
  | .help | .switch => .error (.fault (.unwantedValue option))

/-- The arguments with an option that has no value of its own behind an equals sign; the
option that waits for one is given back. -/
def mention (arguments : Arguments) (option : String) (kind : OptionKind) :
    Except Stop (Arguments × Option (String × OptionKind)) :=
  match kind with
  | .help => .error .help
  | .switch => (arguments.recordOnce option "").map fun arguments => (arguments, none)
  | .single _ | .repeatable => .ok (arguments, some (option, kind))

/-- The arguments with one more path. -/
def addPath (arguments : Arguments) (path : String) : Except Stop Arguments :=
  if isPath path then .ok { arguments with paths := arguments.paths ++ [path] }
  else .error (.fault (.badValue "path" path))

/-- The arguments with words that are all paths, as far as there is room. -/
def addPaths (room : Nat) (arguments : Arguments) (words : List String) :
    Except Stop Arguments :=
  words.foldlM
    (fun arguments word =>
      if arguments.paths.length < room then arguments.addPath word
      else .error (.fault (.unwantedWord word)))
    arguments

/-- An option of a grammar by its name. -/
def optionOf (grammar : Grammar) (name : String) : Except Stop OptionKind :=
  match grammar.options.lookup name with
  | some kind => .ok kind
  | none => .error (.fault (.unknownOption name))

/-- Sorts words into arguments, up to the first value for which there is no room; gives the
words from there on. `waiting` is an option that stands right before and has no value yet. -/
def sort (grammar : Grammar) (arguments : Arguments) (waiting : Option (String × OptionKind)) :
    List String → Except Stop (Arguments × List String)
  | [] =>
    match waiting with
    | some (option, _) => .error (.fault (.noValue option))
    | none => .ok (arguments, [])
  | written :: rest =>
    match waiting, Word.ofText written with
    | some (option, kind), .plain text => do
      sort grammar (← arguments.give option kind text) none rest
    | some (option, _), _ => .error (.fault (.noValue option))
    | none, .ending => do
      pure (← arguments.addPaths grammar.paths rest, [])
    | none, .option name (some value) => do
      sort grammar (← arguments.give name (← optionOf grammar name) value) none rest
    | none, .option name none => do
      let (arguments, waiting) ← arguments.mention name (← optionOf grammar name)
      sort grammar arguments waiting rest
    | none, .letters letters =>
      if letters.head? = some 'h' then .error .help
      else .error (.fault (.unknownOption (String.ofList letters)))
    | none, .plain text =>
      if arguments.paths.length < grammar.paths then do
        sort grammar (← arguments.addPath text) none rest
      else .ok (arguments, written :: rest)

/-- The value of an option: the one given, or else that of a variable of the host. -/
def valueOr (arguments : Arguments) (env : VarMap) (option hostName : String)
    (accepts : String → Bool) : Except Stop (Option String) :=
  match arguments.value? option with
  | some value => .ok (some value)
  | none =>
    match env.get? hostName with
    | some value =>
      if accepts value then .ok (some value) else .error (.fault (.badValue option value))
    | none => .ok none

end Arguments

end SealedBuild.CommandLine
