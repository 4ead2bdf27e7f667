import Std.Data.HashMap
import ClassSizes.Csv.Reading

/-!
# Tables of class sizes

A table keeps its records in the order in which they came, and an index from every name to the
position of its first record.  A later record of the same name is kept but does not change what
the name is looked up as.

The agreement of the two is part of the type, so looking a name up in the index is looking for its
first record in the list: `Table.get?_eq_find?`.
-/

namespace ClassSizes

namespace Table

/-- What a name is indexed by. -/
def key (name : Text) : String :=
  String.ofList name

theorem key_inj {first second : Text} : key first = key second ↔ first = second :=
  String.ofList_inj

end Table

/-- Records in order, and where each name occurs first. -/
structure Table where
  records : Array Record
  index : Std.HashMap String Nat
  /-- The index of a name is the position of its first record. -/
  getElem?_index : ∀ name : Text, index[Table.key name]? = records.findIdx? (·.name = name)

namespace Table

/-- The table without records. -/
def empty : Table where
  records := #[]
  index := {}
  getElem?_index := by simp

/-- The agreement of records and index outlives a new record: its name is new to the index exactly
when no earlier record has it. -/
theorem getElem?_insertIfNew_index (table : Table) (record : Record) (name : Text) :
    (table.index.insertIfNew (key record.name) table.records.size)[key name]? =
      (table.records.push record).findIdx? (·.name = name) := by
  rw [Std.HashMap.getElem?_insertIfNew, Array.findIdx?_push, ← table.getElem?_index]
  by_cases same : record.name = name
  · subst same
    cases found : table.index[key record.name]? with
    | none => simp [Std.HashMap.mem_iff_isSome_getElem?, found]
    | some position => simp [Std.HashMap.mem_iff_isSome_getElem?, found]
  · simp [key_inj, same]

/-- Add a record at the end. -/
def push (table : Table) (record : Record) : Table :=
  let position := table.records.size
  { records := table.records.push record
    index := table.index.insertIfNew (key record.name) position
    getElem?_index := table.getElem?_insertIfNew_index record }

/-- Add records at the end, in order. -/
def pushAll (table : Table) (records : List Record) : Table :=
  records.foldl push table

/-- The table of a list of records. -/
def ofRecords (records : List Record) : Table :=
  empty.pushAll records

/-- The first record of a name. -/
def get? (table : Table) (name : Text) : Option Record :=
  table.index[key name]? >>= (table.records[·]?)

/-- The number of records. -/
def length (table : Table) : Nat :=
  table.records.size

/-- Whether there are no records. -/
def isEmpty (table : Table) : Bool :=
  table.records.isEmpty

/-- The records in order. -/
def toList (table : Table) : List Record :=
  table.records.toList

/-- Add two sizes; a sum above the limit stays at the limit. -/
def addSizes (first second : Nat) : Nat :=
  min Size.limit (first + second)

/-- The sum of all sizes that are numerals within the limit. -/
def totalSize (table : Table) : Nat :=
  (table.toList.filterMap Record.bytes?).foldl addSizes 0

/-- Read a table from a source. -/
def read (source : Source) : Except Failure Table :=
  (Csv.records? source).map ofRecords

@[simp] theorem toList_empty : empty.toList = [] := rfl

@[simp] theorem toList_push (table : Table) (record : Record) :
    (table.push record).toList = table.toList ++ [record] := by
  simp [toList, push]

@[simp] theorem toList_pushAll (table : Table) (records : List Record) :
    (table.pushAll records).toList = table.toList ++ records := by
  induction records generalizing table with
  | nil => simp [pushAll]
  | cons record rest ih =>
    have step := ih (table.push record)
    simp only [pushAll, List.foldl_cons] at step ⊢
    rw [step]
    simp

@[simp] theorem toList_ofRecords (records : List Record) :
    (ofRecords records).toList = records := by
  simp [ofRecords]

/-- A name is looked up as its first record. -/
theorem get?_eq_find? (table : Table) (name : Text) :
    table.get? name = table.toList.find? (·.name = name) := by
  rw [get?, table.getElem?_index, List.find?_eq_bind_findIdx?_getElem?, toList]
  rw [← List.findIdx?_toArray]
  simp

theorem length_eq (table : Table) : table.length = table.toList.length := by
  simp [length, toList]

end Table

end ClassSizes
