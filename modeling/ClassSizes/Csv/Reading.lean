import ClassSizes.Csv.Scanner
import ClassSizes.Failure
import ClassSizes.Record
import ClassSizes.Stream.Source

/-!
# Reading a table

A table is read row by row from a source.  Each row is checked as soon as it is complete, so the
first bad row in the order of the input decides, before any fault that comes after it.  Within a
row the fields have to be UTF-8 before their number matters.

Reads that are interrupted are not tried again: an interruption is a fault like any other.  A
byte order mark at the front of the first read is passed over.  If that read has brought nothing
else, no bytes are left of it, and a reader without bytes takes its input for ended: a table whose
first read is the mark alone is empty, whatever would have come after.
-/

namespace ClassSizes

namespace Csv

/-- The first field that is not UTF-8, and the length of its valid beginning; fields are counted
from `index`. -/
def invalidField? (index : Nat) : List Bytes → Option (Nat × Nat)
  | [] => none
  | field :: rest =>
    if Utf8.isValid field then invalidField? (index + 1) rest
    else some (index, Utf8.validLength field)

/-- The record of a row, which has to have exactly two fields of valid UTF-8. -/
def RawRow.record? (row : RawRow) : Except Failure Record :=
  match invalidField? 0 row.fields with
  | some (field, validLength) => .error (.csv (.notUtf8 row.place field validLength))
  | none =>
    match row.fields with
    | [name, size] => .ok ⟨Utf8.decodeLossy name, Utf8.decodeLossy size⟩
    | fields => .error (.invalidRecord row.place.line fields.length)

/-- A reader between two bytes: the scanner, and the records so far, newest first. -/
structure Reader where
  scanner : Scanner := {}
  records : List Record := []

namespace Reader

/-- Take the row that a byte or the end has completed, if any. -/
def takeRow (records : List Record) : Option RawRow → Except Failure (List Record)
  | none => .ok records
  | some row =>
    match row.record? with
    | .ok record => .ok (record :: records)
    | .error failure => .error failure

/-- Read bytes up to the first bad row. -/
def takeBytes (reader : Reader) : Bytes → Except Failure Reader
  | [] => .ok reader
  | byte :: rest =>
    let (scanner, row) := reader.scanner.feed byte
    match takeRow reader.records row with
    | .ok records => Reader.takeBytes ⟨scanner, records⟩ rest
    | .error failure => .error failure

/-- The records once the input has come to its end. -/
def takeEnd (reader : Reader) : Except Failure (List Record) :=
  match takeRow reader.records reader.scanner.finish with
  | .ok records => .ok records.reverse
  | .error failure => .error failure

/-- Read a source up to its end, the first bad row, or the first fault. -/
def takeSource (reader : Reader) : Source → Except Failure (List Record)
  | [] => reader.takeEnd
  | .bytes chunk :: rest =>
    match reader.takeBytes chunk.bytes with
    | .ok next => next.takeSource rest
    | .error failure => .error failure
  | .interrupted :: _ => .error (.csv (.transfer .interrupted))
  | .failed fault :: _ => .error (.csv (.transfer fault))

end Reader

/-- What there is to read after the bytes that are left of a read. -/
def behindMark : Bytes → Source → Source
  | [], _ => []
  | first :: left, rest => .bytes ⟨first :: left, List.cons_ne_nil first left⟩ :: rest

/-- Begin to read: a byte order mark at the front of the first read counts as read. -/
def start : Source → Reader × Source
  | .bytes chunk :: rest =>
    if byteOrderMark.isPrefixOf chunk.bytes then
      ({ scanner := Scanner.skip {} byteOrderMark.length },
        behindMark (chunk.bytes.drop byteOrderMark.length) rest)
    else ({}, .bytes chunk :: rest)
  | source => ({}, source)

/-- The records of a source, in order. -/
def records? (source : Source) : Except Failure (List Record) :=
  let (reader, rest) := start source
  reader.takeSource rest

end Csv

end ClassSizes
