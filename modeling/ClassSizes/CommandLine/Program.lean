import ClassSizes.CommandLine.Arguments
import ClassSizes.Files.Access
import ClassSizes.Log.Filter

/-!
# The program

The program sets up its log, reads its arguments, resolves its configuration, and runs from file
to file.  A setting of the log with a torn part breaks it down before anything else.  A path
comes from the option if it was given, else from the document that the arguments name, else from
the default.  A document that cannot be loaded ends the program even if both options are given.

Success is announced on the standard output, and only then is the exit status zero; a request for
help apart, nothing else is ever printed there.
-/

namespace ClassSizes

namespace CommandLine

/-- What the program knows of its surroundings. -/
structure Surroundings where
  /-- Where the program itself is, if that is known. -/
  executable : Option Path := none
  /-- The setting of the log filter, if there is one. -/
  logSetting : Option Bytes := none

/-- What the program leaves behind, the files apart. -/
structure Report where
  status : Nat
  output : String := ""
  /-- What is reported to the user as an error. -/
  complaint : Option String := none
  log : List Log.Event := []

/-- The help text. -/
def helpText : String :=
  "Extract class sizes from a class map report into CSV\n\n" ++
    "Usage: extract-class-sizes [OPTIONS]\n\n" ++
    "Options:\n" ++
    "  -i, --input <INPUT>    Class map report to read\n" ++
    "  -o, --output <OUTPUT>  CSV file to write\n" ++
    "  -c, --config <CONFIG>  TOML file with `input_path` / `output_path`\n" ++
    "  -h, --help             Print help\n"

namespace Report

/-- The report on a request for help. -/
def help : Report where
  status := 0
  output := helpText

/-- The report on a program that breaks down.  What it complains of begins with an empty line, and
the rest is not told. -/
def brokenDown : Report where
  status := 101
  complaint := some ""

/-- The report on arguments that cannot be understood. -/
def usage (error : UsageError) : Report where
  status := 2
  complaint := some ("error: " ++ error.message)

/-- The report on a document that cannot be loaded. -/
def configRefused (document : Path) : Report where
  status := 1
  complaint := some ("Error: failed to load config " ++ Path.display document)

/-- The report on a run. -/
def ofRun (filter : Log.Filter) (config : Config) (run : FileAccess.Run) : Report :=
  let log := run.log.filter filter.passes
  match run.outcome with
  | .ok _ =>
    { status := 0, output := "Written CSV to " ++ Path.display config.output ++ "\n", log }
  | .error failure => { status := 1, complaint := some ("Error: " ++ failure.message), log }

end Report

/-- Put the values of the options in the place of the paths of a configuration. -/
def Arguments.override (arguments : Arguments) (config : Config) : Config where
  input := arguments.input.getD config.input
  output := arguments.output.getD config.output

variable {m : Type → Type} [Monad m] {Handle : Type}

/-- The configuration before the options are looked at. -/
def baseConfig (files : FileAccess m Handle) (directory : Path) (document : Option Path) :
    m (Except Failure Config) :=
  match document with
  | some path => files.loadConfig directory path
  | none => pure (.ok (Config.default directory))

/-- The configuration of a list of options. -/
def resolveConfig (files : FileAccess m Handle) (directory : Path) (arguments : Arguments) :
    m (Except Failure Config) := do
  pure ((← baseConfig files directory arguments.config).map arguments.override)

/-- Do what the options ask for. -/
def execute (files : FileAccess m Handle) (directory : Path) (filter : Log.Filter)
    (arguments : Arguments) : m Report := do
  match ← resolveConfig files directory arguments with
  | .error _ => pure (.configRefused (arguments.config.getD []))
  | .ok config =>
    pure (.ofRun filter config (← files.run config))

/-- The program. -/
def program (files : FileAccess m Handle) (surroundings : Surroundings) (arguments : List Bytes) :
    m Report :=
  match Log.Filter.ofSetting? surroundings.logSetting, parse arguments with
  | none, _ => pure .brokenDown
  | some _, .error error => pure (.usage error)
  | some _, .ok .help => pure .help
  | some filter, .ok (.run arguments) =>
    execute files (Config.programDirectory surroundings.executable) filter arguments

end CommandLine

end ClassSizes
