import ClassSizes.CommandLine.Program

/-!
# The command

The program on the files of the operating system.  Everything here is passing on: what the system
reports becomes a `Fault`, and what the program reports goes to the streams of the process.
-/

namespace ClassSizes

namespace Main

/-- The number that the system gives to an error, if the error still has it. -/
def codeOf? : IO.Error → Option UInt32
  | .noFileOrDirectory _ code _ => some code
  | .permissionDenied _ code _ => some code
  | .inappropriateType _ code _ => some code
  | .resourceExhausted _ code _ => some code
  | .invalidArgument _ code _ => some code
  | _ => none

/-- The fault that an error of the system stands for. -/
def faultOf (error : IO.Error) : Fault :=
  ((codeOf? error).bind fun code => Fault.ofCode? code.toNat).getD (.other (toString error))

/-- Run an action, and return the fault of the error that it ends in. -/
def attempt {α : Type} (action : IO α) : IO (Except Fault α) := do
  match ← action.toBaseIO with
  | .ok value => pure (.ok value)
  | .error error => pure (.error (faultOf error))

/-- Open a file whose name is a text. -/
def openWith (mode : IO.FS.Mode) (path : Path) : IO (Except Fault IO.FS.Handle) :=
  if 0 ∈ path then pure (.error .nulInPath)
  else
    match Utf8.decode? path with
    | some name => attempt (IO.FS.Handle.mk ⟨String.ofList name⟩ mode)
    | none => pure (.error .notFound)

/-- All that an open file will deliver. -/
def sourceOf (handle : IO.FS.Handle) : IO Source := do
  match ← attempt handle.readBinToEnd with
  | .ok bytes => pure (.whole bytes.toList)
  | .error fault => pure [.failed fault]

/-- Write bytes to an open file. -/
def writeTo (handle : IO.FS.Handle) (bytes : Bytes) : IO (Except Fault Unit) :=
  attempt do
    handle.write ⟨bytes.toArray⟩
    handle.flush

/-- Let a function write to an open file.  If the file refuses the bytes, the function is asked
once more what it makes of a file that refuses them. -/
def withSinkOf {α : Type} (handle : IO.FS.Handle) (write : Sink → α × Sink) : IO α := do
  let capacity := FileAccess.bufferCapacity
  let (result, sink) := write { capacity }
  match ← writeTo handle sink.received with
  | .ok () => pure result
  | .error refusal => pure (write { capacity, room := some 0, refusal }).1

/-- The files of the operating system. -/
def systemFiles : FileAccess IO IO.FS.Handle where
  openInput := openWith .read
  createOutput := openWith .write
  source := sourceOf
  withSink := withSinkOf

/-- The bytes of a text. -/
def bytesOf (text : String) : Bytes :=
  text.toUTF8.toList

/-- What the process knows of its surroundings. -/
def surroundings : IO CommandLine.Surroundings := do
  let executable ← IO.appPath
  let logSetting ← IO.getEnv "RUST_LOG"
  pure { executable := some (bytesOf executable.toString), logSetting := logSetting.map bytesOf }

end Main

end ClassSizes

/-- Run the program and report on the streams of the process. -/
def main (arguments : List String) : IO UInt32 := do
  let report ← ClassSizes.CommandLine.program ClassSizes.Main.systemFiles
    (← ClassSizes.Main.surroundings) (arguments.map ClassSizes.Main.bytesOf)
  for event in report.log do
    IO.eprintln event.line
  if let some complaint := report.complaint then
    IO.eprintln complaint
  IO.print report.output
  pure report.status.toUInt32
