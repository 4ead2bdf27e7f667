import ClassSizes.Files.Store
import ClassSizes.Proofs.Stream.Source

/-!
# What an operation on a store leaves alone

Opening a file for writing and writing to it change the bytes of one file and may give it a name.
`OnlyChanges` says what that leaves alone, and everything that is said here about paths and contents
follows from it.  Files are told apart by their numbers, and this takes a store in which every name
of a file is the name of a file that exists (`Sound`): otherwise a new file could turn up behind an
old name.  The empty store is sound, and every operation keeps a store sound.
-/

namespace ClassSizes

/-- The number of a file. -/
def Entry.number? : Entry → Option Nat
  | .file number => some number
  | .directory | .nullDevice => none

/-- Reading a source to its end gives what it delivers. -/
theorem Source.readAll_of_fault?_eq_none {source : Source} (whole : source.fault? = none) :
    source.readAll = .ok source.delivered := by
  induction source with
  | nil => rfl
  | cons delivery rest ih =>
      cases delivery with
      | bytes chunk => rw [readAll, ih whole, delivered, Except.map]
      | interrupted => exact ih whole
      | failed fault => contradiction

namespace Store

/-- Every file that has a name exists. -/
def Sound (store : Store) : Prop :=
  ∀ named ∈ store.names, ∀ number ∈ named.2.number?, number < store.bodies.length

instance (store : Store) : Decidable store.Sound :=
  inferInstanceAs (Decidable (∀ named ∈ store.names, ∀ number ∈ named.2.number?,
    number < store.bodies.length))

/-- A path is a name of the file with a number. -/
def Names (store : Store) (path : Path) (number : Nat) : Prop :=
  store.locate path = .ok (.existing (.file number))

/-- Two paths are names of one file. -/
def SameFile (store : Store) (first second : Path) : Prop :=
  ∃ number, store.Names first number ∧ store.Names second number

/-- Nothing but the file with a number has changed, and what had a name still has it. -/
structure OnlyChanges (number : Nat) (before after : Store) : Prop where
  current_eq : after.current = before.current
  entry?_eq : ∀ {route : Route} {entry : Entry},
    before.entry? route = some entry → after.entry? route = some entry
  body_eq : ∀ {other : Nat}, other ≠ number → after.body other = before.body other

/-! ## Names -/

@[simp]
theorem entry?_nil (store : Store) : store.entry? [] = some .directory :=
  rfl

theorem entry?_of_ne_nil (store : Store) {route : Route} (below : route ≠ []) :
    store.entry? route = (store.names.find? (·.1 = route)).map (·.2) :=
  if_neg below

theorem mem_names_of_named {store : Store} {route : Route} {number : Nat}
    (named : store.entry? route = some (.file number)) : (route, .file number) ∈ store.names := by
  by_cases root : route = []
  · subst root
    simp at named
  rw [entry?_of_ne_nil store root] at named
  obtain ⟨⟨_, entry⟩, found, rfl⟩ := Option.map_eq_some_iff.mp named
  obtain rfl : _ = route := by simpa using List.find?_some found
  exact List.mem_of_find?_eq_some found

theorem Sound.number_lt {store : Store} (sound : store.Sound) {route : Route} {number : Nat}
    (named : store.entry? route = some (.file number)) : number < store.bodies.length :=
  sound _ (mem_names_of_named named) number rfl

/-- A new name comes last and hides no other. -/
theorem entry?_addName_of_named {store : Store} {route : Route} {entry : Entry} (added : Route)
    (other : Entry) (named : store.entry? route = some entry) :
    entry? (store.addName added other) route = some entry := by
  by_cases root : route = []
  · subst root
    exact named
  rw [entry?_of_ne_nil _ root] at named ⊢
  obtain ⟨found, isFound, rfl⟩ := Option.map_eq_some_iff.mp named
  rw [addName, List.find?_append, isFound, Option.some_or, Option.map_some]

/-- A free name is taken as soon as it is given. -/
theorem entry?_addName_of_free {store : Store} {route : Route} (entry : Entry)
    (free : store.entry? route = none) : entry? (store.addName route entry) route = some entry := by
  by_cases root : route = []
  · subst root
    contradiction
  rw [entry?_of_ne_nil _ root] at free ⊢
  rw [addName, List.find?_append, Option.map_eq_none_iff.mp free]
  simp

/-! ## Following a path -/

/-- A component that is looked up in the directory where it stands. -/
structure IsName (component : Bytes) : Prop where
  not_idle : ¬ (component = [] ∨ component = [Path.dot])
  not_up : component ≠ [Path.dot, Path.dot]
  length_le : component.length ≤ componentLimit

/-- How components lead from a directory to their target. -/
inductive Leads (store : Store) : Route → List Bytes → Target → Prop
  | here {here : Route} : Leads store here [] (.existing .directory)
  | stay {here : Route} {component : Bytes} {rest : List Bytes} {target : Target} :
      component = [] ∨ component = [Path.dot] → Leads store here rest target →
      Leads store here (component :: rest) target
  | up {here : Route} {rest : List Bytes} {target : Target} :
      Leads store here.dropLast rest target →
      Leads store here ([Path.dot, Path.dot] :: rest) target
  | down {here : Route} {component : Bytes} {rest : List Bytes} {target : Target} :
      IsName component → store.entry? (here ++ [component]) = some .directory →
      Leads store (here ++ [component]) rest target → Leads store here (component :: rest) target
  | found {here : Route} {component : Bytes} {entry : Entry} :
      IsName component → store.entry? (here ++ [component]) = some entry → entry ≠ .directory →
      Leads store here [component] (.existing entry)
  | free {here : Route} {component : Bytes} :
      IsName component → store.entry? (here ++ [component]) = none →
      Leads store here [component] (.free (here ++ [component]))

theorem leads_of_follow {store : Store} {here : Route} {components : List Bytes} {target : Target}
    (followed : store.follow here components = .ok target) :
    Leads store here components target := by
  fun_induction follow store here components with
  | case1 =>
      cases followed
      exact .here
  | case2 _ _ _ idle ih => exact .stay idle (ih followed)
  | case3 _ _ _ ih => exact .up (ih followed)
  | case4 => contradiction
  | case5 _ _ _ notIdle notUp notLong directory ih =>
      exact .down ⟨notIdle, notUp, Nat.le_of_not_lt notLong⟩ directory (ih followed)
  | case6 _ _ notIdle notUp notLong _ notDirectory named =>
      cases followed
      exact .found ⟨notIdle, notUp, Nat.le_of_not_lt notLong⟩ named notDirectory
  | case7 => contradiction
  | case8 _ _ notIdle notUp notLong unnamed =>
      cases followed
      exact .free ⟨notIdle, notUp, Nat.le_of_not_lt notLong⟩ unnamed
  | case9 => contradiction

theorem Leads.follow_eq {store : Store} {here : Route} {components : List Bytes} {target : Target}
    (leads : Leads store here components target) :
    store.follow here components = .ok target := by
  induction leads with
  | here => rfl
  | stay idle _ ih => rw [follow, if_pos idle, ih]
  | up _ ih => rw [follow, if_neg (by decide), if_pos rfl, ih]
  | down name directory _ ih =>
      rw [follow, if_neg name.not_idle, if_neg name.not_up, if_neg (Nat.not_lt.mpr name.length_le),
        directory]
      exact ih
  | @found _ _ entry name named notDirectory =>
      rw [follow, if_neg name.not_idle, if_neg name.not_up, if_neg (Nat.not_lt.mpr name.length_le),
        named]
      cases entry with
      | directory => contradiction
      | file | nullDevice => rfl
  | free name unnamed =>
      rw [follow, if_neg name.not_idle, if_neg name.not_up, if_neg (Nat.not_lt.mpr name.length_le),
        unnamed]
      rfl

/-- A target is as it is in a store: an entry is the directory where a path stays or has a name, and
a free name names nothing. -/
def Target.Stands (store : Store) : Target → Prop
  | .existing entry => entry = .directory ∨ ∃ route, store.entry? route = some entry
  | .free route => store.entry? route = none

theorem Leads.stands {store : Store} {here : Route} {components : List Bytes} {target : Target}
    (leads : Leads store here components target) : target.Stands store := by
  induction leads with
  | here => exact Or.inl rfl
  | stay _ _ ih | up _ ih | down _ _ _ ih => exact ih
  | found _ named _ => exact Or.inr ⟨_, named⟩
  | free _ unnamed => exact unnamed

/-- Only a directory can be reached without naming it at the end. -/
theorem Leads.exists_last {store : Store} {here : Route} {components : List Bytes} {target : Target}
    (leads : Leads store here components target) (other : target ≠ .existing .directory) :
    ∃ front last, components = front ++ [last] ∧ IsName last := by
  induction leads with
  | here => contradiction
  | stay _ _ ih | up _ ih | down _ _ _ ih =>
      obtain ⟨front, last, rfl, name⟩ := ih other
      exact ⟨_ :: front, last, rfl, name⟩
  | found name _ _ | free name _ => exact ⟨[], _, rfl, name⟩

/-- A target has become an entry: it is one already, or it was free and now has it. -/
def Target.Becomes (after : Store) (entry : Entry) : Target → Prop
  | .existing before => before = entry
  | .free route => after.entry? route = some entry ∧ entry ≠ .directory

/-- Names that stay what they are lead on to what their target has become. -/
theorem Leads.later {before after : Store} {here : Route} {components : List Bytes}
    {target : Target} {entry : Entry}
    (kept : ∀ {route : Route} {entry : Entry},
      before.entry? route = some entry → after.entry? route = some entry)
    (leads : Leads before here components target) (becomes : target.Becomes after entry) :
    Leads after here components (.existing entry) := by
  induction leads with
  | here =>
      cases becomes
      exact .here
  | stay idle _ ih => exact .stay idle (ih becomes)
  | up _ ih => exact .up (ih becomes)
  | down name directory _ ih => exact .down name (kept directory) (ih becomes)
  | found name named notDirectory =>
      cases becomes
      exact .found name (kept named) notDirectory
  | free name _ => exact .found name becomes.1 becomes.2

/-! ## Looking up a path -/

theorem locate_eq_ok_iff {store : Store} {path : Path} {target : Target} :
    store.locate path = .ok target ↔
      (0 ∉ path ∧ path ≠ [] ∧ path.length < pathLimit) ∧
        Leads store (store.base path) (cutAt Path.slash path) target := by
  have followed : store.follow (store.base path) (cutAt Path.slash path) = .ok target ↔
      Leads store (store.base path) (cutAt Path.slash path) target :=
    ⟨leads_of_follow, Leads.follow_eq⟩
  rw [← followed]
  unfold locate
  by_cases nul : 0 ∈ path
  · simp [nul]
  by_cases empty : path = []
  · simp [empty]
  by_cases long : pathLimit ≤ path.length
  · simp [nul, empty, long, Nat.not_lt.mpr long]
  · simp [nul, empty, long, Nat.lt_of_not_le long]

/-- The files of a sound store exist. -/
theorem Sound.lt_of_names {store : Store} (sound : store.Sound) {path : Path} {number : Nat}
    (names : store.Names path number) : number < store.bodies.length := by
  obtain ⟨_, leads⟩ := locate_eq_ok_iff.mp names
  rcases leads.stands with directory | ⟨route, named⟩
  · contradiction
  · exact sound.number_lt named

/-- What is behind the last separator of a text that ends in one is empty. -/
theorem cutAt_concat {α : Type} [DecidableEq α] (separator : α) (front : List α) :
    cutAt separator (front ++ [separator]) = cutAt separator front ++ [[]] := by
  induction front with
  | nil => simp [cutAt]
  | cons first rest ih =>
      by_cases same : first = separator
      · simp [cutAt, same, ih]
      · obtain ⟨part, parts, cut⟩ := List.exists_cons_of_ne_nil (cutAt_ne_nil separator rest)
        simp [cutAt, same, ih, cut]

/-- A path that ends in a slash is not the name of a file. -/
theorem Names.getLast?_ne {store : Store} {path : Path} {number : Nat}
    (names : store.Names path number) : path.getLast? ≠ some Path.slash := by
  intro slash
  obtain ⟨front, rfl⟩ := List.getLast?_eq_some_iff.mp slash
  obtain ⟨_, leads⟩ := locate_eq_ok_iff.mp names
  obtain ⟨before, last, cut, name⟩ := leads.exists_last nofun
  rw [cutAt_concat] at cut
  obtain ⟨_, empty⟩ := List.append_inj' cut rfl
  exact name.not_idle (Or.inl (List.singleton_inj.mp empty).symm)

/-! ## Contents -/

theorem base_eq {before after : Store} (current : after.current = before.current) (path : Path) :
    after.base path = before.base path := by
  rw [base, current, base]

/-- What opens for reading is what is there, if it does not refuse it. -/
theorem openInput_eq_ok_iff {store : Store} {path : Path} {entry : Entry} :
    store.openInput path = .ok entry ↔
      store.locate path = .ok (.existing entry) ∧ store.readRefusal? entry = none := by
  unfold openInput
  constructor
  · intro opened
    split at opened
    · contradiction
    · contradiction
    · split at opened
      · contradiction
      · next found _ willing =>
          cases opened
          exact ⟨found, willing⟩
  · rintro ⟨found, willing⟩
    simp only [found, willing]

theorem body_setBody {store : Store} {number : Nat} (present : number < store.bodies.length)
    (body : FileBody) : (store.setBody number body).body number = body := by
  simp [Store.body, setBody, present]

theorem body_addFile (store : Store) (route : Route) (body : FileBody) :
    (store.addFile route body).body store.bodies.length = body := by
  simp [Store.body, addFile]

/-- The contents of what can be read to its end are what it delivers. -/
theorem contents?_of_opened {store : Store} {path : Path} {entry : Entry}
    (opened : store.openInput path = .ok entry) (whole : (store.source entry).fault? = none) :
    store.contents? path = some (store.source entry).delivered := by
  simp only [contents?, opened, Source.readAll_of_fault?_eq_none whole]
  rfl

theorem contents?_eq_some_iff {store : Store} {path : Path} {bytes : Bytes} :
    store.contents? path = some bytes ↔
      ∃ entry, store.openInput path = .ok entry ∧ (store.source entry).readAll = .ok bytes := by
  unfold contents?
  cases store.openInput path with
  | ok entry => cases read : (store.source entry).readAll <;> simp [read, Except.toOption]
  | error fault => simp

theorem file?_eq_some_iff {store : Store} {path : Path} {body : FileBody} :
    store.file? path = some body ↔ ∃ number, store.Names path number ∧ store.body number = body := by
  unfold file? Names
  split
  · next number located => simp [located]
  · next notFile => simpa using fun number located => absurd located (notFile number)

theorem Names.file?_eq {store : Store} {path : Path} {number : Nat}
    (names : store.Names path number) : store.file? path = some (store.body number) :=
  file?_eq_some_iff.mpr ⟨number, names, rfl⟩

theorem Names.bytes?_eq {store : Store} {path : Path} {number : Nat}
    (names : store.Names path number) : store.bytes? path = some (store.body number).bytes := by
  rw [bytes?, names.file?_eq, Option.map_some]

/-- The name of a file opens for reading unless the file refuses it. -/
theorem Names.openInput_eq {store : Store} {path : Path} {number : Nat}
    (names : store.Names path number) :
    store.openInput path =
      match (store.body number).unreadable with
      | some fault => .error fault
      | none => .ok (.file number) := by
  rw [openInput, show store.locate path = _ from names]
  rfl

/-! ## What does not change -/

namespace OnlyChanges

theorem setBody (store : Store) (number : Nat) (body : FileBody) :
    OnlyChanges number store (store.setBody number body) where
  current_eq := rfl
  entry?_eq := id
  body_eq := fun other => by simp [Store.body, Store.setBody, Ne.symm other]

theorem addFile (store : Store) (route : Route) (body : FileBody) :
    OnlyChanges store.bodies.length store (store.addFile route body) where
  current_eq := rfl
  entry?_eq := entry?_addName_of_named route (.file store.bodies.length)
  body_eq := fun {other} old => by
    simp only [Store.body, Store.addFile]
    by_cases present : other < store.bodies.length
    · rw [List.getElem?_append_left present]
    · rw [List.getElem?_eq_none (Nat.le_of_not_lt present), List.getElem?_eq_none]
      rw [List.length_append, List.length_singleton]
      omega

variable {number : Nat} {before between after : Store}

theorem trans (earlier : OnlyChanges number before between)
    (later : OnlyChanges number between after) : OnlyChanges number before after where
  current_eq := later.current_eq.trans earlier.current_eq
  entry?_eq := fun named => later.entry?_eq (earlier.entry?_eq named)
  body_eq := fun other => (later.body_eq other).trans (earlier.body_eq other)

theorem locate_eq (changes : OnlyChanges number before after) {path : Path} {target : Target}
    {entry : Entry} (located : before.locate path = .ok target)
    (becomes : target.Becomes after entry) : after.locate path = .ok (.existing entry) := by
  rw [locate_eq_ok_iff] at located ⊢
  rw [base_eq changes.current_eq]
  exact ⟨located.1, located.2.later changes.entry?_eq becomes⟩

theorem source_eq (changes : OnlyChanges number before after) {entry : Entry}
    (other : entry ≠ .file number) : after.source entry = before.source entry := by
  cases entry with
  | directory | nullDevice => rfl
  | file found =>
      rw [source, changes.body_eq (fun same => other (congrArg _ same)), source]

theorem readRefusal?_eq (changes : OnlyChanges number before after) {entry : Entry}
    (other : entry ≠ .file number) : after.readRefusal? entry = before.readRefusal? entry := by
  cases entry with
  | directory | nullDevice => rfl
  | file found =>
      rw [readRefusal?, changes.body_eq (fun same => other (congrArg _ same)), readRefusal?]

end OnlyChanges

/-- A path leads to the same thing in two stores, with the same file behind it, if any, that can be
opened and read as before. -/
structure Agrees (before after : Store) (path : Path) : Prop where
  located_iff : ∀ entry,
    after.locate path = .ok (.existing entry) ↔ before.locate path = .ok (.existing entry)
  file?_eq : after.file? path = before.file? path
  opened_iff : ∀ entry, after.openInput path = .ok entry ↔ before.openInput path = .ok entry
  contents?_eq : after.contents? path = before.contents? path

theorem Agrees.refl (store : Store) (path : Path) : Agrees store store path :=
  ⟨fun _ => Iff.rfl, rfl, fun _ => Iff.rfl, rfl⟩

namespace OnlyChanges

variable {number : Nat} {before after : Store} {path : Path}

/-- Where a path leads to what it led to, and this is not the file that has changed, all is as it
was. -/
theorem agrees (changes : OnlyChanges number before after)
    (located : ∀ entry,
      after.locate path = .ok (.existing entry) ↔ before.locate path = .ok (.existing entry))
    (other : ¬before.Names path number) : Agrees before after path := by
  have apart {entry : Entry} (there : before.locate path = .ok (.existing entry)) :
      entry ≠ .file number := by
    rintro rfl
    exact other there
  have opened (entry : Entry) :
      after.openInput path = .ok entry ↔ before.openInput path = .ok entry := by
    rw [openInput_eq_ok_iff, openInput_eq_ok_iff, located]
    exact and_congr_right fun there => by rw [changes.readRefusal?_eq (apart there)]
  refine ⟨located, ?_, opened, ?_⟩
  · ext body
    rw [file?_eq_some_iff, file?_eq_some_iff]
    refine exists_congr fun found => ?_
    rw [Names, located, ← Names]
    refine and_congr_right fun names => ?_
    rw [changes.body_eq fun same => other (same ▸ names)]
  · ext bytes
    rw [contents?_eq_some_iff, contents?_eq_some_iff]
    refine exists_congr fun entry => ?_
    rw [opened]
    refine and_congr_right fun isOpened => ?_
    rw [changes.source_eq (apart (openInput_eq_ok_iff.mp isOpened).1)]

/-- What was there before and is not the file that has changed is as it was. -/
theorem agrees_of_found (changes : OnlyChanges number before after) {entry : Entry}
    (found : before.locate path = .ok (.existing entry)) (other : entry ≠ .file number) :
    Agrees before after path := by
  have still := changes.locate_eq found rfl
  refine changes.agrees (fun _ => by rw [still, found]) fun names => ?_
  cases found.symm.trans names
  exact other rfl

end OnlyChanges

/-- A file that is replaced has its new bytes under each of its names. -/
theorem Names.bytes?_setBody {store : Store} {path : Path} {number : Nat}
    (names : store.Names path number) (present : number < store.bodies.length) (body : FileBody) :
    (store.setBody number body).bytes? path = some body.bytes := by
  have still : (store.setBody number body).Names path number :=
    (OnlyChanges.setBody store number body).locate_eq names rfl
  rw [still.bytes?_eq, body_setBody present]

/-! ## Opening a file for writing -/

/-- A file has been made or emptied to be written under a path, and nothing else has changed. -/
structure Emptied (path : Path) (number : Nat) (before after : Store) : Prop where
  onlyChanges : OnlyChanges number before after
  names : after.Names path number
  number_lt : number < after.bodies.length
  bytes_eq : (after.body number).bytes = []
  /-- The file was there before, or it is a new one. -/
  origin : before.Names path number ∨
    number = before.bodies.length ∧ ∃ route, before.locate path = .ok (.free route)

/-- How opening a file for writing can go. -/
inductive Created (store : Store) (path : Path) : Except Fault Entry × Store → Prop
  | refused {fault : Fault} :
      store.locateOutput path = .error fault → Created store path (.error fault, store)
  | device :
      store.locate path = .ok (.existing .nullDevice) →
      Created store path (.ok .nullDevice, store)
  | file {number : Nat} {made : Store} :
      Emptied path number store made → Created store path (.ok (.file number), made)

/-- What can be written is found where it is looked up, and does not refuse it. -/
theorem locate_of_locateOutput {store : Store} {path : Path} {target : Target}
    (located : store.locateOutput path = .ok target) :
    store.locate path = .ok target ∧ store.writeRefusal? target = none := by
  unfold locateOutput at located
  split at located
  · split at located <;> contradiction
  · split at located
    · contradiction
    · split at located
      · contradiction
      · next found _ willing =>
          cases located
          exact ⟨found, willing⟩

/-- The name of a file can be looked up for writing unless the file refuses it. -/
theorem Names.locateOutput_eq {store : Store} {path : Path} {number : Nat}
    (names : store.Names path number) :
    store.locateOutput path =
      match (store.body number).unwritable with
      | some fault => .error fault
      | none => .ok (.existing (.file number)) := by
  rw [locateOutput, if_neg fun slash => names.getLast?_ne slash.1,
    show store.locate path = _ from names]
  rfl

theorem Sound.emptied_setBody {store : Store} (sound : store.Sound) {path : Path} {number : Nat}
    (names : store.Names path number) :
    Emptied path number store (store.setBody number { store.body number with bytes := [] }) where
  onlyChanges := .setBody store number _
  names := (OnlyChanges.setBody store number _).locate_eq names rfl
  number_lt := by simpa [setBody] using sound.lt_of_names names
  bytes_eq := by rw [body_setBody (sound.lt_of_names names)]
  origin := Or.inl names

theorem emptied_addFile {store : Store} {path : Path} {route : Route}
    (located : store.locate path = .ok (.free route)) :
    Emptied path store.bodies.length store (store.addFile route {}) where
  onlyChanges := .addFile store route _
  names := by
    have free : store.entry? route = none := (locate_eq_ok_iff.mp located).2.stands
    exact (OnlyChanges.addFile store route _).locate_eq located
      ⟨entry?_addName_of_free _ free, nofun⟩
  number_lt := by simp [addFile]
  bytes_eq := by rw [body_addFile]
  origin := Or.inr ⟨rfl, route, located⟩

/-- What was there before and is not the same file is not the file that is written. -/
theorem Emptied.entry_ne {path other : Path} {number : Nat} {before after : Store} {entry : Entry}
    (emptied : Emptied path number before after) (sound : before.Sound)
    (found : before.locate other = .ok (.existing entry)) (different : ¬ before.SameFile other path) :
    entry ≠ .file number := by
  rintro rfl
  have names : before.Names other number := found
  rcases emptied.origin with same | ⟨fresh, _⟩
  · exact different ⟨number, names, same⟩
  · exact Nat.ne_of_lt (sound.lt_of_names names) fresh

/-- What was opened before and is not the same file is read as it was. -/
theorem Emptied.source_eq {path other : Path} {number : Nat} {before after : Store} {entry : Entry}
    (emptied : Emptied path number before after) (sound : before.Sound)
    (opened : before.openInput other = .ok entry) (different : ¬ before.SameFile other path) :
    after.source entry = before.source entry :=
  emptied.onlyChanges.source_eq
    (emptied.entry_ne sound (openInput_eq_ok_iff.mp opened).1 different)

/-- The name of a file leads to that file when it is opened for writing. -/
theorem Emptied.number_eq {path : Path} {number named : Nat} {before after : Store}
    (emptied : Emptied path number before after) (names : before.Names path named) :
    number = named := by
  rcases emptied.origin with same | ⟨_, route, free⟩
  · cases same.symm.trans names
    rfl
  · cases free.symm.trans names

theorem Sound.created {store : Store} (sound : store.Sound) (path : Path) :
    Created store path (store.createOutput path) := by
  unfold createOutput
  cases located : store.locateOutput path with
  | error fault => exact .refused located
  | ok target =>
      obtain ⟨found, willing⟩ := locate_of_locateOutput located
      cases target with
      | free route => exact .file (emptied_addFile found)
      | existing entry =>
          cases entry with
          | directory => contradiction
          | nullDevice => exact .device found
          | file number => exact .file (sound.emptied_setBody found)

/-! ## Stores in which every file exists -/

namespace Sound

theorem empty (current : Route) : Sound { current } :=
  nofun

variable {store : Store}

theorem addName (sound : store.Sound) (route : Route) {entry : Entry}
    (other : entry.number? = none) : (store.addName route entry).Sound := by
  intro named isNamed number isNumber
  rcases List.mem_append.mp isNamed with old | added
  · exact sound named old number isNumber
  · obtain rfl := List.mem_singleton.mp added
    simp [other] at isNumber

theorem addFile (sound : store.Sound) (route : Route) (body : FileBody) :
    (store.addFile route body).Sound := by
  intro named isNamed number isNumber
  simp only [Store.addFile, List.length_append, List.length_singleton]
  rcases List.mem_append.mp isNamed with old | added
  · exact Nat.lt_succ_of_lt (sound named old number isNumber)
  · obtain rfl := List.mem_singleton.mp added
    cases isNumber
    exact Nat.lt_succ_self _

theorem setBody (sound : store.Sound) (number : Nat) (body : FileBody) :
    (store.setBody number body).Sound := by
  simpa [Sound, Store.setBody] using sound

theorem createOutput (sound : store.Sound) (path : Path) : (store.createOutput path).2.Sound := by
  unfold Store.createOutput
  split
  · exact sound
  · exact sound.addFile _ _
  · exact sound.setBody _ _
  · exact sound

theorem withSink {α : Type} (sound : store.Sound) (entry : Entry) (write : Sink → α × Sink) :
    (store.withSink entry write).2.Sound := by
  cases entry with
  | file number => exact sound.setBody number _
  | directory | nullDevice => exact sound

theorem makeDirectories (sound : store.Sound) (here : Route) (components : List Bytes) :
    (store.makeDirectories here components).Sound := by
  fun_induction Store.makeDirectories store here components with
  | case1 | case5 => exact sound
  | case2 _ _ _ _ _ ih | case3 _ _ _ _ ih | case4 _ _ _ _ _ _ _ _ _ ih => exact ih sound
  | case6 _ _ _ _ _ _ _ _ _ ih => exact ih (sound.addName _ rfl)

theorem putFile (sound : store.Sound) (path : Path) (bytes : Bytes) :
    (store.putFile path bytes).Sound := by
  unfold Store.putFile
  extract_lets ready
  have readySound : ready.Sound := by
    unfold ready
    split
    · exact sound.makeDirectories _ _
    · exact sound
  have made := readySound.createOutput path
  split <;> rename_i result
  · rw [result] at made
    exact made.setBody _ _
  · rwa [result] at made

end Sound

end Store

end ClassSizes
