import ClassSizes.Config
import ClassSizes.Report.Extraction
import ClassSizes.Table

/-!
# Working on files

What the program does with files, said once for every way of having files: a `FileAccess` gives
the four operations that are needed, in any monad.  A store that is a value gives them for proofs
and tests, and the operating system gives them to the program.

A run opens its input before it creates its output, and reads only after that.  An input that
cannot be opened therefore leaves the output alone, and an output that is the input is emptied
before it is read.
-/

namespace ClassSizes

/-- The operations on files, where `Handle` stands for an open file. -/
structure FileAccess (m : Type → Type) (Handle : Type) where
  /-- Open a file for reading. -/
  openInput : Path → m (Except Fault Handle)
  /-- Open a file for writing, making it if it does not exist and emptying it if it does. -/
  createOutput : Path → m (Except Fault Handle)
  /-- What reading a file will deliver. -/
  source : Handle → m Source
  /-- Let a function write to a file. -/
  withSink : {α : Type} → Handle → (Sink → α × Sink) → m α

namespace Source

/-- All bytes of a source that is read to its end, interrupted reads being tried again. -/
def readAll : Source → Except Fault Bytes
  | [] => .ok []
  | .bytes chunk :: rest => (readAll rest).map (chunk.bytes ++ ·)
  | .interrupted :: rest => readAll rest
  | .failed fault :: _ => .error fault

/-- The text of a source that is read to its end. -/
def readText (source : Source) : Except Fault Text :=
  match source.readAll with
  | .error fault => .error fault
  | .ok bytes =>
    match Utf8.decode? bytes with
    | some text => .ok text
    | none => .error .notUtf8

end Source

namespace FileAccess

/-- How many bytes collect in front of a file before they are written to it. -/
def bufferCapacity : Nat := 8192

variable {m : Type → Type} [Monad m] {Handle : Type}

/-- The text of a file. -/
def readText (files : FileAccess m Handle) (path : Path) : m (Except Failure Text) := do
  match ← files.openInput path with
  | .error fault => pure (.error (.file path fault))
  | .ok handle =>
    match (← files.source handle).readText with
    | .error fault => pure (.error (.file path fault))
    | .ok text => pure (.ok text)

/-- The configuration of a document in a file, for a program in the given directory. -/
def loadConfig (files : FileAccess m Handle) (directory path : Path) :
    m (Except Failure Config) := do
  match ← files.readText path with
  | .error failure => pure (.error failure)
  | .ok document => pure ((Config.ofDocument directory document).map (·.resolveFrom path))

/-- The table in a file. -/
def readTable (files : FileAccess m Handle) (path : Path) : m (Except Failure Table) := do
  match ← files.openInput path with
  | .error fault => pure (.error (.file path fault))
  | .ok handle => pure (Table.read (← files.source handle))

/-- The outcome of a run from file to file, and what it has logged. -/
structure Run where
  outcome : Except Failure Stats
  log : List Log.Event

/-- The run that could not begin because a file could not be opened. -/
def Run.refused (path : Path) (fault : Fault) : Run :=
  ⟨.error (.file path fault), []⟩

/-- What a run from file to file makes of an extraction: one that succeeds is logged. -/
def Run.ofResult (config : Config) (result : Extraction.Result) : Run :=
  match result.outcome with
  | .ok stats =>
    ⟨.ok stats, result.log ++ [.completed config.input config.output stats]⟩
  | .error failure => ⟨.error failure, result.log⟩

/-- Extract the class sizes of the input of a configuration to its output. -/
def run (files : FileAccess m Handle) (config : Config) : m Run := do
  match ← files.openInput config.input with
  | .error fault => pure (Run.refused config.input fault)
  | .ok input =>
    match ← files.createOutput config.output with
    | .error fault => pure (Run.refused config.output fault)
    | .ok output =>
      let source ← files.source input
      files.withSink output fun sink =>
        let result := Extraction.run source sink
        (Run.ofResult config result, result.sink)

end FileAccess

end ClassSizes
