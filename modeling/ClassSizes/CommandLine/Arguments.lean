import ClassSizes.Files.Path
import ClassSizes.Text.Terminal

/-!
# Arguments

The program takes three options with a value each, and a request for help.  An option is long
(`--input x`, `--input=x`) or short (`-i x`, `-ix`, `-i=x`), comes at most once, and its value is
never empty.  Nothing else is taken, before or after `--`.

The value of an option is only settled when the next option begins or the arguments end.  This
decides which of two mistakes is reported: an argument that nobody knows is reported at once, and
a value that is missing, empty or given twice when its turn to be settled comes.
-/

namespace ClassSizes

namespace CommandLine

/-- The options that take a value. -/
inductive Flag where
  | input
  | output
  | config
  deriving DecidableEq, Repr

namespace Flag

/-- The name of an option after two dashes. -/
def longName : Flag → String
  | input => "input"
  | output => "output"
  | config => "config"

/-- The name of an option after one dash. -/
def shortName : Flag → Char
  | input => 'i'
  | output => 'o'
  | config => 'c'

/-- How an option is shown in messages. -/
def shown : Flag → String
  | input => "--input <INPUT>"
  | output => "--output <OUTPUT>"
  | config => "--config <CONFIG>"

/-- All options. -/
def all : List Flag := [input, output, config]

/-- The option of a long name. -/
def ofLong? (name : Text) : Option Flag :=
  all.find? (·.longName.toList = name)

/-- The option of a short name. -/
def ofShort? (name : Char) : Option Flag :=
  all.find? (·.shortName = name)

end Flag

/-- What is wrong with the arguments. -/
inductive UsageError where
  | valueRequired (flag : Flag)
  | usedTwice (flag : Flag)
  | unexpectedArgument (shown : String)
  | unexpectedHelpValue (shown : String)
  deriving DecidableEq, Repr

/-- What shows of an argument in a message. -/
def visible (shown : String) : String :=
  String.ofList (Terminal.visible shown.toList)

/-- The wording of a usage error. -/
def UsageError.message : UsageError → String
  | valueRequired flag => "a value is required for '" ++ flag.shown ++ "' but none was supplied"
  | usedTwice flag => "the argument '" ++ flag.shown ++ "' cannot be used multiple times"
  | unexpectedArgument shown => "unexpected argument '" ++ visible shown ++ "' found"
  | unexpectedHelpValue shown =>
    "unexpected value '" ++ visible shown ++ "' for '--help' found; no more were expected"

/-- The values of the options that were given. -/
structure Arguments where
  input : Option Path := none
  output : Option Path := none
  config : Option Path := none
  deriving DecidableEq, Repr

namespace Arguments

/-- The value of an option. -/
def get? (arguments : Arguments) : Flag → Option Path
  | .input => arguments.input
  | .output => arguments.output
  | .config => arguments.config

/-- Give an option a value. -/
def set (arguments : Arguments) (value : Path) : Flag → Arguments
  | .input => { arguments with input := some value }
  | .output => { arguments with output := some value }
  | .config => { arguments with config := some value }

end Arguments

/-- What the arguments ask for. -/
inductive Request where
  | help
  | run (arguments : Arguments)
  deriving DecidableEq, Repr

/-- The arguments that have been read so far. -/
structure Reading where
  settled : Arguments := {}
  /-- The option that is not settled yet, and its value if it has come. -/
  pending : Option (Flag × Option Path) := none
  deriving DecidableEq, Repr

/-- What one argument leads to. -/
inductive Next where
  | more (reading : Reading)
  /-- `--`: all arguments that follow are plain. -/
  | onlyPlain (reading : Reading)
  | help
  | wrong (error : UsageError)

namespace Reading

/-- Settle an option and its value, if it has one. -/
def settleOne (settled : Arguments) (flag : Flag) (value : Option Path) :
    Except UsageError Arguments :=
  match value with
  | none => .error (.valueRequired flag)
  | some value =>
    if (settled.get? flag).isSome then .error (.usedTwice flag)
    else if value = [] then .error (.valueRequired flag)
    else .ok (settled.set value flag)

/-- Settle the option that is pending. -/
def settle (reading : Reading) : Except UsageError Arguments :=
  match reading.pending with
  | none => .ok reading.settled
  | some (flag, value) => settleOne reading.settled flag value

/-- Begin an option whose value, if any, is the next argument. -/
def expect (reading : Reading) (flag : Flag) : Next :=
  match reading.settle with
  | .ok settled => .more { settled, pending := some (flag, none) }
  | .error error => .wrong error

/-- Take an option together with its value. -/
def attach (reading : Reading) (flag : Flag) (value : Path) : Next :=
  match reading.settle with
  | .error error => .wrong error
  | .ok settled =>
    match settleOne settled flag (some value) with
    | .ok settled => .more { settled }
    | .error error => .wrong error

/-- Take a request for help. -/
def requestHelp (reading : Reading) : Next :=
  match reading.settle with
  | .ok _ => .help
  | .error error => .wrong error

/-- The byte with which options begin. -/
def dash : UInt8 := 45

/-- The byte that may stand between an option and its value. -/
def equals : UInt8 := 61

/-- The text before the first equals sign, and what follows it if there is one. -/
def splitEquals (argument : Bytes) : Bytes × Option Bytes :=
  match argument.dropWhile (· != equals) with
  | [] => (argument, none)
  | _ :: value => (argument.takeWhile (· != equals), some value)

/-- Take an argument after its two dashes. -/
def takeLong (reading : Reading) (argument : Bytes) : Next :=
  let (name, value) := splitEquals argument
  if Utf8.decode? name = some "help".toList then
    match value with
    | none => reading.requestHelp
    | some value => .wrong (.unexpectedHelpValue (Path.display value))
  else
    match Utf8.decode? name >>= Flag.ofLong?, value with
    | some flag, some value => reading.attach flag value
    | some flag, none => reading.expect flag
    | none, _ => .wrong (.unexpectedArgument ("--" ++ Path.display name))

/-- Take an argument after its one dash.  Every short option takes the rest of the argument as its
value, if there is a rest. -/
def takeShort (reading : Reading) (argument : Bytes) : Next :=
  match Utf8.items argument with
  | .scalar name :: _ =>
    let value := argument.drop (Utf8.encodeChar name).length
    if name = 'h' then reading.requestHelp
    else
      match Flag.ofShort? name, value with
      | some flag, [] => reading.expect flag
      | some flag, first :: rest =>
        reading.attach flag (if first = equals then rest else first :: rest)
      | none, _ => .wrong (.unexpectedArgument (String.ofList ['-', name]))
  | _ => .wrong (.unexpectedArgument ("-" ++ Path.display argument))

/-- Take an argument that is no option: it is a value if one is expected. -/
def takePlain (reading : Reading) (argument : Bytes) : Next :=
  match reading.pending with
  | some (flag, none) => .more { reading with pending := some (flag, some argument) }
  | _ => .wrong (.unexpectedArgument (Path.display argument))

/-- Take an argument. -/
def take (reading : Reading) (argument : Bytes) : Next :=
  if argument = [dash, dash] then .onlyPlain reading
  else if [dash, dash].isPrefixOf argument then reading.takeLong (argument.drop 2)
  else if [dash].isPrefixOf argument ∧ argument ≠ [dash] then reading.takeShort (argument.drop 1)
  else reading.takePlain argument

/-- The request of the arguments once all of them have been read. -/
def finish (reading : Reading) : Except UsageError Request :=
  match reading.settle with
  | .ok arguments => .ok (.run arguments)
  | .error error => .error error

/-- Take arguments in order. -/
def takeAll (reading : Reading) : List Bytes → Except UsageError Request
  | [] => reading.finish
  | argument :: rest =>
    match reading.take argument with
    | .more next => next.takeAll rest
    | .onlyPlain next =>
      match rest with
      | [] => next.finish
      | plain :: _ => .error (.unexpectedArgument (Path.display plain))
    | .help => .ok .help
    | .wrong error => .error error

end Reading

/-- What a list of arguments asks for. -/
def parse (arguments : List Bytes) : Except UsageError Request :=
  Reading.takeAll {} arguments

end CommandLine

end ClassSizes
