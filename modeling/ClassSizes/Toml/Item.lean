import ClassSizes.Decimal.Basic
import ClassSizes.Toml.Moment

/-!
# The tree of a document

Tables grow as a document is read, and how a table came to be decides how it may still grow:

* a table that a header *stated* takes keys below its header, and only there;
* a table that is only *implied* by a longer header may still be stated;
* a table made by a *dotted* key takes more dotted keys, but can never be stated;
* a table written *inline* is complete.

All growth goes through `descend`, which walks a path of tables, making those that are missing,
and lets a function change the table at its end.
-/

namespace ClassSizes

namespace Toml

/-- How a table came to be. -/
inductive Origin where
  | stated
  | implied
  | dotted
  | inline
  deriving DecidableEq, Repr

/-- What a key of a document stands for. -/
inductive Item where
  | string (text : Text)
  | integer (value : Int)
  | float (value : Decimal)
  /-- An infinity, or a value that is no number. -/
  | special
  | boolean (value : Bool)
  | moment (value : Moment)
  | array (items : List Item)
  | table (origin : Origin) (entries : List (Text × Item))
  /-- The tables of headers in double brackets, in order. -/
  | tables (elements : List Item)
  deriving Repr

/-- The entries of a table, in order. -/
abbrev Entries := List (Text × Item)

namespace Entries

/-- The item of a key. -/
def item? (entries : Entries) (key : Text) : Option Item :=
  (List.find? (·.1 = key) entries).map (·.2)

/-- Put an item in the place of that of a key. -/
def replace (entries : Entries) (key : Text) (item : Item) : Entries :=
  entries.map fun entry => if entry.1 = key then (key, item) else entry

/-- Add an entry at the end. -/
def add (entries : Entries) (key : Text) (item : Item) : Entries :=
  entries ++ [(key, item)]

/-- Change the table at the end of a path.  Dotted keys make dotted tables and do not enter stated
ones; headers make implied tables and enter the last element of an array of tables. -/
def descend (dotted : Bool) (change : Origin → Entries → Option Entries) :
    List Text → Origin → Entries → Option Entries
  | [], origin, entries => change origin entries
  | key :: path, _, entries =>
    match entries.item? key with
    | none => do
      let origin := if dotted then .dotted else .implied
      let inner ← descend dotted change path origin []
      some (entries.add key (.table origin inner))
    | some (.table origin inner) =>
      if origin = .inline ∨ (dotted ∧ origin = .stated) then none
      else do
        let inner ← descend dotted change path origin inner
        some (entries.replace key (.table origin inner))
    | some (.tables elements) =>
      match elements.getLast? with
      | some (.table origin inner) => do
        let inner ← descend dotted change path origin inner
        some (entries.replace key (.tables (elements.dropLast ++ [.table origin inner])))
      | _ => none
    | some _ => none

/-- Add the entry of the last part of a key to the table that the other parts lead to.  That table
is a dotted one if there are other parts, and never one otherwise. -/
def assign (key : List Text) (item : Item) (origin : Origin) (entries : Entries) :
    Option Entries :=
  match key.getLast? with
  | none => none
  | some last =>
    descend true
      (fun origin inner =>
        if origin = .dotted ↔ key.dropLast = [] then none
        else
          match inner.item? last with
          | some _ => none
          | none => some (inner.add last item))
      key.dropLast origin entries

/-- The entries of the table that a list of keys and items makes. -/
def ofPairs (origin : Origin) (pairs : List (List Text × Item)) : Option Entries :=
  pairs.foldlM (fun entries (key, item) => assign key item origin entries) []

/-- State the table of a header, which must not exist unless it is only implied. -/
def openTable (header : List Text) (entries : Entries) : Option Entries :=
  match header.getLast? with
  | none => none
  | some last =>
    descend false
      (fun _ inner =>
        match inner.item? last with
        | none => some (inner.add last (.table .stated []))
        | some (.table .implied stated) => some (inner.replace last (.table .stated stated))
        | some _ => none)
      header.dropLast .stated entries

/-- Add a table to the array of tables of a header. -/
def openElement (header : List Text) (entries : Entries) : Option Entries :=
  match header.getLast? with
  | none => none
  | some last =>
    descend false
      (fun _ inner =>
        match inner.item? last with
        | none => some (inner.add last (.tables [.table .stated []]))
        | some (.tables elements) =>
          some (inner.replace last (.tables (elements ++ [.table .stated []])))
        | some _ => none)
      header.dropLast .stated entries

/-- Add an entry below a header. -/
def assignBelow (header key : List Text) (item : Item) (entries : Entries) : Option Entries :=
  descend false (assign key item) header .stated entries

end Entries

end Toml

end ClassSizes
