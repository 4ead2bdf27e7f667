import ClassSizes.Failure
import ClassSizes.Toml.Document

/-!
# Configurations

A configuration names the report to read and the table to write.  A document may leave out either
path; what it leaves out comes from the default configuration, which looks in the directory of the
program.  Paths that are then still relative are taken from the directory of the document.
-/

namespace ClassSizes

/-- Where to read and where to write. -/
structure Config where
  input : Path
  output : Path
  deriving DecidableEq, Repr

/-- What a document says about a configuration. -/
structure Settings where
  input : Option Path := none
  output : Option Path := none
  deriving DecidableEq, Repr

namespace Settings

/-- The key of the path of the report. -/
def inputKey : Text := ['i', 'n', 'p', 'u', 't', '_', 'p', 'a', 't', 'h']

/-- The key of the path of the table. -/
def outputKey : Text := ['o', 'u', 't', 'p', 'u', 't', '_', 'p', 'a', 't', 'h']

/-- The path of a key, which has to be a string if the key is there. -/
def path? (entries : Toml.Entries) (key : Text) : Except Failure (Option Path) :=
  match entries.item? key with
  | none => .ok none
  | some (.string text) => .ok (some (Utf8.encode text))
  | some _ => .error .config

/-- The settings at the top level of a document. -/
def ofEntries (entries : Toml.Entries) : Except Failure Settings := do
  let input ← path? entries inputKey
  let output ← path? entries outputKey
  pure ⟨input, output⟩

/-- The settings of a document. -/
def ofDocument (document : Text) : Except Failure Settings :=
  match Toml.parse? document with
  | some entries => ofEntries entries
  | none => .error .config

/-- Fill in what is left out. -/
def fillFrom (settings : Settings) (config : Config) : Config where
  input := settings.input.getD config.input
  output := settings.output.getD config.output

end Settings

namespace Config

/-- Where the report is looked for by default: `test.map`. -/
def defaultInput : Path := [116, 101, 115, 116, 46, 109, 97, 112]

/-- Where the table goes by default: `classes.csv`. -/
def defaultOutput : Path := [99, 108, 97, 115, 115, 101, 115, 46, 99, 115, 118]

/-- The directory of the program, or the current directory if nobody knows where the program
is. -/
def programDirectory (executable : Option Path) : Path :=
  (executable.bind Path.parent?).getD [Path.dot]

/-- The configuration of a program that was told nothing. -/
def default (directory : Path) : Config where
  input := Path.join directory defaultInput
  output := Path.join directory defaultOutput

/-- The configuration of a document. -/
def ofDocument (directory : Path) (document : Text) : Except Failure Config :=
  (Settings.ofDocument document).map (·.fillFrom (default directory))

/-- A path of a document that stands in the directory `base`. -/
def resolve (base path : Path) : Path :=
  if Path.isAbsolute path then path else Path.join base path

/-- Take both paths from the directory in which a document is found. -/
def resolveFrom (document : Path) (config : Config) : Config :=
  match Path.parent? document with
  | none => config
  | some base => ⟨resolve base config.input, resolve base config.output⟩

end Config

end ClassSizes
