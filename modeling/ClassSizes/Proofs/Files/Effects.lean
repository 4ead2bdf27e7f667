import ClassSizes.Proofs.Files.Run

/-!
# The effects of a run

A run that cannot open its input or create its output changes nothing.  Otherwise it changes one
file, and everything that is there afterwards, that file apart, was there before and holds what it
held.  The one file holds rows of the input as far as they were taken, and none of the bytes that it
held before.
-/

namespace ClassSizes.Store

/-! ## Nothing else comes into being -/

theorem entry?_of_addName {store : Store} {route added : Route} {entry other : Entry}
    (named : entry? (store.addName added other) route = some entry) :
    store.entry? route = some entry ∨ entry = other := by
  by_cases root : route = []
  · subst root
    exact .inl named
  rw [entry?_of_ne_nil _ root] at named ⊢
  rw [addName, List.find?_append] at named
  cases found : store.names.find? (·.1 = route) with
  | some old =>
      rw [found] at named
      exact .inl named
  | none =>
      rw [found, Option.none_or] at named
      rcases Option.map_eq_some_iff.mp named with ⟨new, isNew, rfl⟩
      obtain rfl := List.mem_singleton.mp (List.mem_of_find?_eq_some isNew)
      exact .inr rfl

/-- What has a name after a file was opened for writing had it before or is that file. -/
theorem entry?_of_createOutput {store : Store} {path : Path} {route : Route} {entry : Entry}
    (named : entry? (store.createOutput path).2 route = some entry) :
    store.entry? route = some entry ∨ (store.createOutput path).1 = .ok entry := by
  cases located : store.locateOutput path with
  | error fault =>
      simp only [createOutput, located] at named
      exact .inl named
  | ok target =>
      cases target with
      | free free =>
          simp only [createOutput, located] at named ⊢
          rcases entry?_of_addName named with old | rfl
          · exact .inl old
          · exact .inr rfl
      | existing there =>
          cases there <;> simp only [createOutput, located] at named <;> exact .inl named

/-- A path that leads to something else than the one file that is new led to it before. -/
theorem Leads.earlier {before after : Store} {here : Route} {components : List Bytes} {number : Nat}
    {entry : Entry}
    (gains : ∀ {route : Route} {entry : Entry}, after.entry? route = some entry →
      before.entry? route = some entry ∨ entry = .file number)
    (leads : Leads after here components (.existing entry)) (other : entry ≠ .file number) :
    Leads before here components (.existing entry) := by
  generalize isTarget : Target.existing entry = target at leads
  -- All directories on the way are old, since what is new is a file; so only the end could be new.
  induction leads with
  | here =>
      cases isTarget
      exact .here
  | stay idle _ ih => exact .stay idle (ih isTarget)
  | up _ ih => exact .up (ih isTarget)
  | down name directory _ ih =>
      rcases gains directory with old | isFile
      · exact .down name old (ih isTarget)
      · contradiction
  | found name named notDirectory =>
      cases isTarget
      rcases gains named with old | isFile
      · exact .found name old notDirectory
      · exact absurd isFile other
  | free => contradiction

/-- Every path that is not a name of the output leads to what it led to, and to nothing if it led to
nothing; what is there holds what it held, and can be opened and read as before. -/
def Confined (before after : Store) (output : Path) : Prop :=
  ∀ path, ¬after.SameFile path output → Agrees before after path

theorem confined_refl (store : Store) (output : Path) : Confined store store output :=
  fun path _ => .refl store path

/-- Writing to the file that was opened for it changes nothing else. -/
theorem confined_written {store made : Store} {output : Path} {number : Nat}
    (created : store.createOutput output = (.ok (.file number), made))
    (emptied : Emptied output number store made) (body : FileBody) :
    Confined store (made.setBody number body) output := by
  have changes : OnlyChanges number store (made.setBody number body) :=
    emptied.onlyChanges.trans (.setBody made number body)
  have names : (made.setBody number body).Names output number :=
    (OnlyChanges.setBody made number body).locate_eq emptied.names rfl
  have gains {route : Route} {entry : Entry}
      (named : entry? (made.setBody number body) route = some entry) :
      store.entry? route = some entry ∨ entry = .file number := by
    have outcome (named : entry? (store.createOutput output).2 route = some entry) :=
      entry?_of_createOutput named
    rw [created] at outcome
    exact (outcome named).imp_right fun same => (Except.ok.inj same).symm
  intro path different
  have located (entry : Entry) :
      (made.setBody number body).locate path = .ok (.existing entry) ↔
        store.locate path = .ok (.existing entry) := by
    constructor
    · intro located
      have other : entry ≠ .file number := by
        rintro rfl
        exact different ⟨number, located, names⟩
      rw [locate_eq_ok_iff, base_eq changes.current_eq] at located
      exact locate_eq_ok_iff.mpr ⟨located.1, located.2.earlier gains other⟩
    · exact fun located => changes.locate_eq located rfl
  exact changes.agrees located fun named => different ⟨number, (located _).mpr named, names⟩

/-! ## The bytes of the output -/

/-- What is opened and cannot be read to its end is a directory. -/
theorem fault?_source_eq_none (store : Store) {entry : Entry} (other : entry ≠ .directory) :
    (store.source entry).fault? = none := by
  cases entry with
  | directory => contradiction
  | file => exact Source.fault?_whole _
  | nullDevice => rfl

theorem contents?_of_directory {store : Store} {path : Path}
    (opened : store.openInput path = .ok .directory) : store.contents? path = none := by
  rw [contents?, opened]
  rfl

theorem received_run_isPrefix (source : Source) (body : FileBody) :
    (Extraction.run source (sinkOf body)).sink.received <+: Extraction.rowsOf source := by
  rw [Extraction.received_run rfl, Sink.fitting]
  split
  · exact List.prefix_rfl
  · exact List.take_prefix _ _

/-- What a run has written, given what can be read at its input: the first rows of those bytes, and
all of them if it succeeds; nothing if nothing can be read there, and then the run fails. -/
structure Writes (contents : Option Bytes) (outcome : Except Failure Stats) (written : Bytes) :
    Prop where
  rows : ∀ bytes, contents = some bytes →
    written <+: (Extraction.run (.whole bytes) {}).sink.received ∧
      ∀ stats, outcome = .ok stats → written = (Extraction.run (.whole bytes) {}).sink.received
  nothing : contents = none → written = [] ∧ ∃ failure, outcome = .error failure

/-- What opens and cannot be read to its end is a directory, and has no rows. -/
theorem writes_of_opened {store : Store} {path : Path} {input : Entry}
    (opened : store.openInput path = .ok input) (body : FileBody) :
    Writes (store.contents? path) (Extraction.run (store.source input) (sinkOf body)).outcome
      (Extraction.run (store.source input) (sinkOf body)).sink.received := by
  by_cases directory : input = .directory
  · subst directory
    have unread := contents?_of_directory opened
    refine ⟨fun bytes read => absurd read (by simp [unread]), fun _ => ⟨?_, _, rfl⟩⟩
    exact List.prefix_nil.mp (received_run_isPrefix _ body)
  · have whole := fault?_source_eq_none store directory
    have read := contents?_of_opened opened whole
    refine ⟨fun bytes same => ?_, fun unread => absurd unread (by simp [read])⟩
    cases read.symm.trans same
    rw [Extraction.received_run_whole whole]
    refine ⟨received_run_isPrefix _ body, fun stats succeeds => ?_⟩
    exact (Extraction.received_of_run_eq_ok rfl succeeds).2

/-! ## The effects -/

/-- A run gets to read: its input opens, and its output has been made or emptied. -/
structure Begins (store : Store) (config : Config) (input output : Entry) : Prop where
  opened : store.openInput config.input = .ok input
  created : (store.createOutput config.output).1 = .ok output

/-- The effects of a run.  If it cannot open its input or create its output, it changes nothing and
says which path is to blame.  It never changes anything but its output, which holds what the run has
written, unless it is the null device: that holds nothing. -/
structure Effects (store : Store) (config : Config) (run : FileAccess.Run) (after : Store) :
    Prop where
  inputRefused : ∀ fault, store.openInput config.input = .error fault →
    run.outcome = .error (.file config.input fault) ∧ after = store
  outputRefused : ∀ input fault, store.openInput config.input = .ok input →
    (store.createOutput config.output).1 = .error fault →
    run.outcome = .error (.file config.output fault) ∧ after = store
  confined : Confined store after config.output
  lost : ∀ input, store.Begins config input .nullDevice → after = store
  written : ∀ input output, store.Begins config input output → output ≠ .nullDevice →
    ∃ written, after.bytes? config.output = some written ∧
      Writes (store.contents? config.input) run.outcome written

theorem effects_of_inputRefused {store : Store} {config : Config} {fault : Fault}
    (refused : store.openInput config.input = .error fault) :
    Effects store config (.refused config.input fault) store where
  inputRefused := by
    intro other same
    cases refused.symm.trans same
    exact ⟨rfl, rfl⟩
  outputRefused := fun _ _ opened => by cases refused.symm.trans opened
  confined := confined_refl store config.output
  lost := fun _ begins => by cases refused.symm.trans begins.opened
  written := fun _ _ begins => by cases refused.symm.trans begins.opened

theorem effects_of_outputRefused {store : Store} {config : Config} {input : Entry} {fault : Fault}
    (opened : store.openInput config.input = .ok input)
    (refused : (store.createOutput config.output).1 = .error fault) :
    Effects store config (.refused config.output fault) store where
  inputRefused := fun _ same => by cases opened.symm.trans same
  outputRefused := by
    intro _ other _ same
    cases refused.symm.trans same
    exact ⟨rfl, rfl⟩
  confined := confined_refl store config.output
  lost := fun _ begins => by cases refused.symm.trans begins.created
  written := fun _ _ begins => by cases refused.symm.trans begins.created

theorem Begins.effects {store after : Store} {config : Config} {input output : Entry}
    {run : FileAccess.Run} (begins : store.Begins config input output)
    (confined : Confined store after config.output) (lost : output = .nullDevice → after = store)
    (written : output ≠ .nullDevice → ∃ written, after.bytes? config.output = some written ∧
      Writes (store.contents? config.input) run.outcome written) :
    Effects store config run after where
  inputRefused := fun _ refused => by cases begins.opened.symm.trans refused
  outputRefused := fun _ _ _ refused => by cases begins.created.symm.trans refused
  confined := confined
  lost := fun _ again => lost (Except.ok.inj (begins.created.symm.trans again.created))
  written := by
    intro _ other again notDevice
    cases begins.created.symm.trans again.created
    exact written notDevice

/-- A run whose paths are not names of one file has its effects. -/
theorem run_effects {store : Store} (sound : store.Sound) {config : Config}
    (different : ¬store.SameFile config.input config.output) :
    Effects store config (files.run config store).1 (files.run config store).2 := by
  cases opened : store.openInput config.input with
  | error fault =>
      rw [run_of_openInput_eq_error opened]
      exact effects_of_inputRefused opened
  | ok input =>
      have created := sound.created config.output
      rcases isCreated : store.createOutput config.output with ⟨opening, made⟩
      have isOpening : (store.createOutput config.output).1 = opening := congrArg (·.1) isCreated
      rw [isCreated] at created
      cases created with
      | refused located =>
          rw [run_of_locateOutput_eq_error opened located]
          exact effects_of_outputRefused opened isOpening
      | device located =>
          rw [run_files_eq, opened, isCreated]
          exact Begins.effects ⟨opened, isOpening⟩ (confined_refl store config.output)
            (fun _ => rfl) (absurd rfl)
      | @file number made emptied =>
          have writes := writes_of_opened opened (made.body number)
          rw [← emptied.source_eq sound opened different, ← outcome_ofResult config] at writes
          rw [run_files_eq, opened, isCreated]
          refine Begins.effects ⟨opened, isOpening⟩ (confined_written isCreated emptied _) nofun ?_
          exact fun _ => ⟨_, emptied.names.bytes?_setBody emptied.number_lt _, writes⟩

end ClassSizes.Store
