import WorkloadIdentity.Text.Decimal

/-!
# Command-line arguments

Options, operands and the name of a command, read from the left.  An option's value stands in the
same argument or is the next one; behind `--` everything is an operand.
-/

namespace WorkloadIdentity
namespace Command

/-- Why no command is run. -/
inductive Stop
  /-- The arguments make no sense. -/
  | usage
  | help
  | version
  deriving DecidableEq, Repr

/-- What an option asks for. -/
inductive OptionKind
  | value
  | flag
  | stop (reason : Stop)
  deriving DecidableEq, Repr

/-- An option with its long name, and its short one if it has one. -/
structure OptionForm where
  name : String
  short : Option Char
  kind : OptionKind
  deriving DecidableEq, Repr

/-- What may stand behind the program's name or behind the name of a command. -/
structure Level where
  options : List OptionForm
  /-- The names of the commands that may follow. -/
  commands : List String
  /-- The greatest number of operands. -/
  operands : Nat

/-- What was found: options with their values, operands, and a command with what follows it. -/
structure Given where
  options : List (String × String)
  operands : List String
  command : Option (String × List String)
  deriving DecidableEq, Repr

namespace Given

def nothing : Given :=
  ⟨[], [], none⟩

def option? (given : Given) (name : String) : Option String :=
  given.options.lookup name

/-- The value of an option, or the empty text. -/
def text (given : Given) (name : String) : String :=
  (given.option? name).getD ""

def has (given : Given) (name : String) : Bool :=
  (given.option? name).isSome

/-- One more option, which must not be there yet. -/
def addOption (given : Given) (name value : String) : Except Stop Given :=
  if given.has name then .error .usage
  else .ok { given with options := (name, value) :: given.options }

/-- One more operand, if there may be one more. -/
def addOperand (given : Given) (level : Level) (operand : String) : Except Stop Given :=
  if given.operands.length < level.operands then
    .ok { given with operands := given.operands ++ [operand] }
  else .error .usage

end Given

/-- What an argument looks like. -/
inductive Shape
  /-- Two hyphens alone. -/
  | escape
  /-- A long name, with or without a value behind an equals sign. -/
  | long (name : String) (value : Option String)
  /-- Characters behind one hyphen. -/
  | short (chars : List Char)
  | plain
  deriving DecidableEq, Repr

def shapeOf (argument : String) : Shape :=
  match argument.toList with
  | ['-', '-'] => .escape
  | '-' :: '-' :: chars =>
      let name := String.ofList (chars.takeWhile (· ≠ '='))
      match chars.dropWhile (· ≠ '=') with
      | [] => .long name none
      | _ :: value => .long name (some (String.ofList value))
  | '-' :: c :: chars => .short (c :: chars)
  | _ => .plain

/-- What follows the short name of an option that asks for a value: nothing, or the value with or
without an equals sign in front. -/
def attached : List Char → Option String
  | [] => none
  | '=' :: value => some (String.ofList value)
  | value => some (String.ofList value)

/-- The options behind one hyphen.  The last may ask for a value that does not stand there. -/
def shorts (level : Level) : List Char → Given → Except Stop (Given × Option String)
  | [], given => .ok (given, none)
  | c :: chars, given =>
      match level.options.find? fun form => form.short = some c with
      | none => .error .usage
      | some ⟨_, _, .stop reason⟩ => .error reason
      | some ⟨name, _, .flag⟩ => do shorts level chars (← given.addOption name "")
      | some ⟨name, _, .value⟩ =>
          match attached chars with
          | none => .ok (given, some name)
          | some value => do return (← given.addOption name value, none)

/-- The options of a long name, as far as its own argument tells. -/
def long (level : Level) (name : String) (value : Option String) (given : Given) :
    Except Stop (Given × Option String) :=
  match level.options.find? fun form => form.name = name, value with
  | none, _ => .error .usage
  | some ⟨_, _, .stop reason⟩, none => .error reason
  | some ⟨_, _, .flag⟩, none => do return (← given.addOption name "", none)
  | some ⟨_, _, .value⟩, none => .ok (given, some name)
  | some ⟨_, _, .value⟩, some value => do return (← given.addOption name value, none)
  | some _, some _ => .error .usage

mutual

/-- All arguments up to the name of a command, with what was found before them. -/
def scan (level : Level) : List String → Given → Except Stop Given
  | [], given => .ok given
  | argument :: arguments, given =>
      match shapeOf argument with
      | .escape => arguments.foldlM (fun given operand => given.addOperand level operand) given
      | .long name value => do
          match ← long level name value given with
          | (given, none) => scan level arguments given
          | (given, some name) => scanValue level name arguments given
      | .short chars => do
          match ← shorts level chars given with
          | (given, none) => scan level arguments given
          | (given, some name) => scanValue level name arguments given
      | .plain =>
          if level.commands.contains argument then
            .ok { given with command := some (argument, arguments) }
          else do scan level arguments (← given.addOperand level argument)

/-- All arguments where the first must be the value of an option. -/
def scanValue (level : Level) (name : String) : List String → Given → Except Stop Given
  | [], _ => .error .usage
  | argument :: arguments, given =>
      match shapeOf argument with
      | .plain => do scan level arguments (← given.addOption name argument)
      | _ => .error .usage

end

def Level.read (level : Level) (arguments : List String) : Except Stop Given :=
  scan level arguments .nothing

end Command
end WorkloadIdentity
