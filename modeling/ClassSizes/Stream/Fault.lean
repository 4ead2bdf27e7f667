/-!
# Faults of the system

A fault is what the system reports when it cannot open, read or write.  Faults are causes; their
wording is `Fault.message` and nothing else in the library depends on it.
-/

namespace ClassSizes

/-- Why the system refused an operation. -/
inductive Fault where
  | notFound
  | permissionDenied
  | notDirectory
  | isDirectory
  /-- A program that is running cannot be written. -/
  | programRunning
  | noSpace
  | nameTooLong
  /-- A path with a NUL byte, which no file can have. -/
  | nulInPath
  /-- A text file that is not UTF-8. -/
  | notUtf8
  /-- A read that was broken off and may be tried again. -/
  | interrupted
  /-- Any other fault, in its own words. -/
  | other (description : String)
  deriving DecidableEq, Repr

namespace Fault

/-- The number that the system gives to a fault, if it has one of its own. -/
def code? : Fault → Option Nat
  | notFound => some 2
  | permissionDenied => some 13
  | notDirectory => some 20
  | isDirectory => some 21
  | programRunning => some 26
  | noSpace => some 28
  | nameTooLong => some 36
  | _ => none

/-- The fault of a number. -/
def ofCode? (code : Nat) : Option Fault :=
  [notFound, permissionDenied, notDirectory, isDirectory, programRunning, noSpace,
    nameTooLong].find? (·.code? = some code)

/-- What a fault says, without its number. -/
def description : Fault → String
  | notFound => "No such file or directory"
  | permissionDenied => "Permission denied"
  | notDirectory => "Not a directory"
  | isDirectory => "Is a directory"
  | programRunning => "Text file busy"
  | noSpace => "No space left on device"
  | nameTooLong => "File name too long"
  | nulInPath => "file name contained an unexpected NUL byte"
  | notUtf8 => "stream did not contain valid UTF-8"
  | interrupted => "operation interrupted"
  | other text => text

/-- The wording of a fault: its description, and its number in parentheses. -/
def message (fault : Fault) : String :=
  match fault.code? with
  | some code => fault.description ++ " (os error " ++ toString code ++ ")"
  | none => fault.description

end Fault

end ClassSizes
