import ClassSizes.Files.Path
import ClassSizes.Report.Stats

/-!
# Log events

A run reports two kinds of events: a line that carries the marker and is skipped all the same, and
the end of a run from file to file.  An event is data; its log line is made from its level, the
part of the program that it comes from, what it says, and the values that it carries.
-/

namespace ClassSizes

namespace Log

/-- How much an event matters, the weightiest first. -/
inductive Level where
  | error
  | warn
  | info
  | debug
  | trace
  deriving DecidableEq, Repr

/-- The rank of a level: the higher, the less it matters. -/
def Level.rank : Level → Nat
  | error => 1
  | warn => 2
  | info => 3
  | debug => 4
  | trace => 5

/-- The name of a level. -/
def Level.name : Level → String
  | error => "ERROR"
  | warn => "WARN"
  | info => "INFO"
  | debug => "DEBUG"
  | trace => "TRACE"

/-- Something that a run reports as it happens. -/
inductive Event where
  /-- A line, counted from one, carries the marker but does not conform. -/
  | lineSkipped (line : Nat)
  /-- A run from file to file has come to its end. -/
  | completed (input output : Path) (stats : Stats)
  deriving DecidableEq, Repr

namespace Event

/-- The part of the program that events come from. -/
def target : String := "classmap_extract::extract"

/-- How much an event matters. -/
def level : Event → Level
  | lineSkipped _ => .debug
  | completed .. => .info

/-- What an event says. -/
def headline : Event → String
  | lineSkipped _ => "Skipping non-conforming class line"
  | completed .. => "Extraction complete"

/-- The named values that an event carries, in order. -/
def fields : Event → List (String × String)
  | lineSkipped line => [("line", toString line)]
  | completed input output stats =>
    [("input", Path.display input), ("output", Path.display output),
      ("lines", toString stats.lines), ("marker_lines", toString stats.markerLines),
      ("records", toString stats.records), ("skipped", toString stats.skipped)]

/-- The log line of an event. -/
def line (event : Event) : String :=
  event.level.name ++ " " ++ target ++ ": " ++ event.headline ++
    String.join (event.fields.map fun (name, value) => " " ++ name ++ "=" ++ value)

end Event

end Log

end ClassSizes
