import ClassSizes.Record
import ClassSizes.Text.Utf8

/-!
# Rows

A row is a class name and a size with a comma between them and `CR LF` at the end.  A field is
quoted when it contains a comma, a quote, a carriage return or a line feed; the quotes inside a
quoted field are doubled.

A row is built from *atoms*: runs of one or two bytes that are never torn apart when rows are
written out in portions.  A doubled quote is one atom and so is the row end.
-/

namespace ClassSizes

namespace Csv

/-- The byte between two fields. -/
def comma : UInt8 := 44

/-- The byte around a quoted field. -/
def quote : UInt8 := 34

/-- The first byte of a row end. -/
def carriageReturn : UInt8 := 13

/-- The last byte of a row end. -/
def newLine : UInt8 := 10

/-- What ends a row. -/
def rowEnd : Bytes := [carriageReturn, newLine]

/-- Whether a field has to be quoted. -/
def needsQuotes (field : Bytes) : Bool :=
  field.any fun byte =>
    byte == comma || byte == quote || byte == carriageReturn || byte == newLine

/-- The atom of a byte inside a quoted field. -/
def quotedAtom (byte : UInt8) : Bytes :=
  if byte = quote then [quote, quote] else [byte]

/-- The atoms of a field. -/
def fieldAtoms (field : Bytes) : List Bytes :=
  if needsQuotes field then [quote] :: field.map quotedAtom ++ [[quote]]
  else field.map ([·])

/-- The atoms of a row of two fields. -/
def rowAtoms (name size : Bytes) : List Bytes :=
  fieldAtoms name ++ [comma] :: fieldAtoms size ++ [rowEnd]

/-- The atoms of the row of a record. -/
def recordAtoms (record : Record) : List Bytes :=
  rowAtoms (Utf8.encode record.name) (Utf8.encode record.size)

/-- The row of a record. -/
def row (record : Record) : Bytes :=
  (recordAtoms record).flatten

/-- The rows of a list of records. -/
def rows (records : List Record) : Bytes :=
  records.flatMap row

@[simp] theorem rows_nil : rows [] = [] := rfl

@[simp] theorem rows_cons (record : Record) (records : List Record) :
    rows (record :: records) = row record ++ rows records := by
  simp [rows]

@[simp] theorem rows_append (first second : List Record) :
    rows (first ++ second) = rows first ++ rows second := by
  simp [rows]

/-- A field that needs no quotes is written as it is. -/
theorem flatten_fieldAtoms_of_bare {field : Bytes} (bare : needsQuotes field = false) :
    (fieldAtoms field).flatten = field := by
  rw [fieldAtoms, bare]
  induction field with
  | nil => rfl
  | cons byte rest ih =>
    have restBare : needsQuotes rest = false := by
      simp only [needsQuotes, List.any_cons, Bool.or_eq_false_iff] at bare ⊢
      exact bare.2
    simpa using ih restBare

end Csv

end ClassSizes
