import ClassSizes.Csv.Scanner
import ClassSizes.Files.Path
import ClassSizes.Stream.Fault

/-!
# Failures

Everything that can go wrong when class sizes are extracted or read back.  A failure is a cause;
its wording is `Failure.message`.
-/

namespace ClassSizes

/-- Why rows could not be written or read. -/
inductive CsvFailure where
  /-- The medium under the rows failed. -/
  | transfer (fault : Fault)
  /-- A field is not UTF-8: which row and field, and how many bytes of the field are good. -/
  | notUtf8 (place : Csv.Place) (field validLength : Nat)
  deriving DecidableEq, Repr

/-- Why an operation failed. -/
inductive Failure where
  /-- A file could not be opened or created, or a text file could not be read. -/
  | file (path : Path) (fault : Fault)
  /-- Reading the report, or the last write to the table, failed. -/
  | io (fault : Fault)
  /-- A row could not be written or read. -/
  | csv (cause : CsvFailure)
  /-- A configuration is not a valid document or does not have the right fields. -/
  | config
  /-- A row does not have two fields. -/
  | invalidRecord (line columns : Nat)
  deriving DecidableEq, Repr

namespace CsvFailure

/-- The wording of a failure to write or read a row. -/
def message : CsvFailure → String
  | transfer fault => fault.message
  | notUtf8 place field validLength =>
    "CSV parse error: record " ++ toString place.row ++ " (line " ++ toString place.line ++
      ", field: " ++ toString field ++ ", byte: " ++ toString place.byte ++
      "): invalid utf-8: invalid UTF-8 in field " ++ toString field ++ " near byte index " ++
      toString validLength

end CsvFailure

namespace Failure

/-- What is wrong with a row of so many fields. -/
def columnReason (columns : Nat) : String :=
  "expected 2 columns, found " ++ toString columns

/-- The wording of a failure. -/
def message : Failure → String
  | file path fault => "Failed to open " ++ Path.display path ++ ": " ++ fault.message
  | io fault => "IO error: " ++ fault.message
  | csv cause => "CSV error: " ++ cause.message
  | config => "Config error"
  | invalidRecord line columns =>
    "Invalid record on line " ++ toString line ++ ": " ++ columnReason columns

end Failure

end ClassSizes
