import ClassSizes.Table

/-!
# What a table stands for

A table keeps two things, the records in order and the index of the names.  To its users it is one,
the list of the records that it has been given: every operation answers as the list does, and the
index never shows.  This holds of every table that can be built, however it was begun and whatever
has been added since.
-/

namespace ClassSizes.Table

/-- The tables that can be built, each with the records that it has been given, in order. -/
inductive Built : Table → List Record → Prop
  | empty : Built .empty []
  | collected (records : List Record) : Built (.ofRecords records) records
  | read {source : Source} {table : Table} {records : List Record} :
      Table.read source = .ok table → Csv.records? source = .ok records → Built table records
  | push {table : Table} {records : List Record} (record : Record) :
      Built table records → Built (table.push record) (records ++ [record])

/-- A table holds what it has been given, and nothing else. -/
theorem Built.toList_eq {table : Table} {records : List Record} (built : Built table records) :
    table.toList = records := by
  induction built with
  | empty => rfl
  | collected records => exact toList_ofRecords records
  | read read accepted =>
      rw [Table.read, accepted] at read
      cases read
      exact toList_ofRecords _
  | push record _ ih => rw [toList_push, ih]

/-! ## The index -/

/-- An indexed position is that of a record. -/
theorem lt_length_of_getElem?_index {table : Table} {name : String} {position : Nat}
    (found : table.index[name]? = some position) : position < table.length := by
  have indexed := table.getElem?_index name.toList
  rw [key, String.ofList_toList, found] at indexed
  obtain ⟨within, _⟩ := Array.findIdx?_eq_some_iff_getElem.mp indexed.symm
  exact within

/-- The indexed names are those of the records. -/
theorem key_mem_index_iff (table : Table) (name : Text) :
    key name ∈ table.index ↔ ∃ record ∈ table.toList, record.name = name := by
  rw [Std.HashMap.mem_iff_isSome_getElem?, table.getElem?_index, Array.findIdx?_isSome,
    ← Array.any_toList, List.any_eq_true]
  simp only [decide_eq_true_eq, toList]

/-! ## Looking names up -/

/-- A new record is found only if no earlier one has its name. -/
theorem get?_push (table : Table) (record : Record) (name : Text) :
    (table.push record).get? name =
      (table.get? name).or (if record.name = name then some record else none) := by
  rw [get?_eq_find?, get?_eq_find?, toList_push, List.find?_append, List.find?_singleton]
  simp only [decide_eq_true_eq]

/-- What a name is looked up as stays the same whatever is added. -/
theorem get?_pushAll {table : Table} {name : Text} {found : Record}
    (present : table.get? name = some found) (more : List Record) :
    (table.pushAll more).get? name = some found := by
  induction more generalizing table with
  | nil => exact present
  | cons record more ih =>
      apply ih
      rw [get?_push, present, Option.some_or]

theorem get?_isSome_iff (table : Table) (name : Text) :
    (table.get? name).isSome = true ↔ ∃ record ∈ table.toList, record.name = name := by
  rw [get?_eq_find?, List.find?_isSome]
  simp only [decide_eq_true_eq]

/-- Every operation of a table answers as the list of its records does. -/
theorem built_refines_list {table : Table} {records : List Record} (built : Built table records) :
    table.toList = records ∧ table.length = records.length ∧
      (table.isEmpty = true ↔ records = []) ∧
      (∀ (name : String) (position : Nat), table.index[name]? = some position →
        position < table.length) ∧
      (∀ name, key name ∈ table.index ↔ ∃ record ∈ records, record.name = name) ∧
      (∀ name, table.get? name = records.find? fun record => record.name = name) ∧
      ∀ name, (∃ record ∈ records, record.name = name) →
        ∀ more, (table.pushAll more).get? name = table.get? name := by
  have same := built.toList_eq
  subst same
  refine ⟨rfl, table.length_eq, ?_, ?_, table.key_mem_index_iff, table.get?_eq_find?, ?_⟩
  · rw [isEmpty, ← Array.isEmpty_toList, List.isEmpty_iff, toList]
  · intro name position found
    exact lt_length_of_getElem?_index found
  · intro name present more
    obtain ⟨found, lookup⟩ := Option.isSome_iff_exists.mp ((table.get?_isSome_iff name).mpr present)
    rw [lookup]
    exact get?_pushAll lookup more

/-- A table that has been read, and then been given a second record of a name. -/
theorem built_refines_list_second_record :
    let source := Source.whole (Utf8.encode "A,1\nB,2\n".toList)
    let records : List Record := [⟨['A'], ['1']⟩, ⟨['B'], ['2']⟩, ⟨['A'], ['3']⟩]
    ∃ table, Table.read source = .ok table ∧
      Built (table.push ⟨['A'], ['3']⟩) records ∧
      (∃ record ∈ records, record.name = ['A']) ∧
      (table.push ⟨['A'], ['3']⟩).length = 3 ∧
      ∀ more, ((table.push ⟨['A'], ['3']⟩).pushAll more).get? ['A'] = some ⟨['A'], ['1']⟩ := by
  intro source records
  have accepted : Csv.records? source = .ok [⟨['A'], ['1']⟩, ⟨['B'], ['2']⟩] := rfl
  have read : Table.read source = .ok (.ofRecords [⟨['A'], ['1']⟩, ⟨['B'], ['2']⟩]) := rfl
  have built := (Built.read read accepted).push ⟨['A'], ['3']⟩
  have present : ∃ record ∈ records, record.name = ['A'] := by decide
  obtain ⟨_, length, _, _, _, lookup, stays⟩ := built_refines_list built
  refine ⟨_, read, built, present, length, fun more => ?_⟩
  rw [stays _ present more, lookup]
  decide

end ClassSizes.Table
