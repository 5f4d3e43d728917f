/-!
# Arguments

The arguments of a command are options, each with a value, and values by position. An option is
written `--name value` or `--name=value`, and after `--` everything is a value by position.
Arguments are read from left to right, and the first fault decides, or the call for help that comes
before it.
-/

namespace CameraRecorder.CommandLine

/-- Why arguments are refused. -/
inductive UsageError where
  | missingCommand
  | unknownCommand (name : String)
  | unknownArgument (argument : String)
  /-- An option without its value, or a value by position that is not there. -/
  | missing (name : String)
  | repeated (name : String)
  | invalid (name value : String)
deriving DecidableEq, Repr

def UsageError.message : UsageError → String
  | missingCommand => "a command is required"
  | unknownCommand name => s!"unrecognized command '{name}'"
  | unknownArgument argument => s!"unexpected argument '{argument}' found"
  | missing name => s!"a value is required for '{name}'"
  | repeated name => s!"'{name}' cannot be used multiple times"
  | invalid name value => s!"invalid value '{value}' for '{name}'"

/-! ## Values -/

/-- The number that digits spell in decimal. -/
def natural? (digits : List Char) : Option Nat :=
  if digits.isEmpty || !digits.all (·.isDigit) then none
  else some (digits.foldl (fun n c => 10 * n + (c.toNat - '0'.toNat)) 0)

/-- The number below `bound` that a text spells in decimal. It may have a plus sign. Where
`isSigned` holds, a zero may have a minus sign. -/
def numberBelow? (bound : Nat) (isSigned : Bool) (text : String) : Option Nat :=
  match text.toList with
  | '+' :: digits => (natural? digits).filter (· < bound)
  | '-' :: digits => if isSigned then (natural? digits).filter (· = 0) else none
  | digits => (natural? digits).filter (· < bound)

/-- The kind of a value. -/
inductive ValueKind where
  /-- Any text but the empty one. -/
  | path
  | word32
  | word64
deriving DecidableEq, Repr

/-- The number that a text spells, if it is a value of a numeric kind. -/
def ValueKind.number? : ValueKind → String → Option Nat
  | path, _ => none
  | word32, text => numberBelow? UInt32.size true text
  | word64, text => numberBelow? UInt64.size false text

/-- Whether a text is a value of the kind. -/
def ValueKind.accepts (kind : ValueKind) (text : String) : Bool :=
  match kind with
  | path => !text.isEmpty
  | word32 | word64 => (kind.number? text).isSome

/-! ## Signatures -/

/-- What a command takes. -/
structure Signature where
  options : List (String × ValueKind)
  /-- The values by position, each of them required. -/
  positions : List (String × ValueKind) := []
deriving DecidableEq, Repr

/-- The values given, by name, the last one first. -/
abbrev Given := List (String × String)

/-- The value given under a name. -/
def Given.value? (given : Given) (name : String) : Option String := given.lookup name

/-- The number given under a name. -/
def Given.number? (given : Given) (name : String) (kind : ValueKind) : Option Nat :=
  (given.value? name).bind kind.number?

/-- Adds a value under a name that has none yet. -/
def Given.assign (given : Given) (name : String) (kind : ValueKind) (value : String) :
    Except UsageError Given :=
  if (given.value? name).isSome then .error (.repeated name)
  else if kind.accepts value then .ok ((name, value) :: given)
  else .error (.invalid name value)

/-- Adds a value under the first position that has none yet. -/
def Given.place (given : Given) (signature : Signature) (value : String) :
    Except UsageError Given :=
  match signature.positions.find? fun (name, _) => (given.value? name).isNone with
  | some (name, kind) => given.assign name kind value
  | none => .error (.unknownArgument value)

/-! ## Reading -/

/-- How an argument looks. -/
inductive Look where
  /-- Two dashes alone. -/
  | separator
  /-- Two dashes and a name, perhaps with an equals sign and a value. -/
  | long (name : String) (value : Option String)
  /-- One dash and letters, of which the first one counts. -/
  | short (letter : Char)
  | plain
deriving DecidableEq, Repr

/-- How an argument looks. One dash alone is plain. -/
def lookOf (argument : String) : Look :=
  match argument.toList with
  | ['-', '-'] => .separator
  | '-' :: '-' :: rest =>
    let name := String.ofList (rest.takeWhile (· ≠ '='))
    match rest.dropWhile (· ≠ '=') with
    | _ :: value => .long name (some (String.ofList value))
    | [] => .long name none
  | '-' :: letter :: _ => .short letter
  | _ => .plain

/-- Whether an argument calls for help. -/
def callsForHelp (argument : String) : Bool :=
  lookOf argument = .long "help" none || lookOf argument = .short 'h'

/-- Reads values by position only. -/
def placeAll (signature : Signature) : List String → Given → Except UsageError Given
  | [], given => .ok given
  | value :: rest, given => do placeAll signature rest (← given.place signature value)

/-- Reads the arguments of a command. There is no result if they call for help. -/
def readArguments (signature : Signature) :
    List String → Given → Except UsageError (Option Given)
  | [], given => .ok (some given)
  | argument :: rest, given =>
    if callsForHelp argument then .ok none
    else match lookOf argument with
      | .separator => (placeAll signature rest given).map some
      | .short _ => .error (.unknownArgument argument)
      | .plain => do readArguments signature rest (← given.place signature argument)
      | .long name attached =>
        match signature.options.lookup name, attached, rest with
        | none, _, _ => .error (.unknownArgument argument)
        | some kind, some value, rest => do
          readArguments signature rest (← given.assign name kind value)
        | some _, none, [] => .error (.missing name)
        | some kind, none, value :: rest => do
          if lookOf value ≠ .plain then throw (.missing name)
          readArguments signature rest (← given.assign name kind value)
termination_by arguments => arguments.length

/-- The required value of a name. -/
def Given.require (given : Given) (name : String) : Except UsageError String :=
  match given.value? name with
  | some value => .ok value
  | none => .error (.missing name)

end CameraRecorder.CommandLine
