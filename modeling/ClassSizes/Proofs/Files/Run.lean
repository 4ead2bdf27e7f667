import ClassSizes.Proofs.Files.Store
import ClassSizes.Proofs.Report.Reference

/-!
# A run from file to file

A run opens its input, then makes or empties its output, and only then reads.  Its input is
therefore kept unless it is the file that has just been emptied, and the rows are those of the bytes
that the input had before.  A run whose paths are names of one file finds nothing to read, succeeds,
and leaves the file empty, if the file can be opened both ways.
-/

namespace ClassSizes.Store

/-- How a run goes in the store in which it is started. -/
inductive Ran (store : Store) (config : Config) : FileAccess.Run × Store → Prop
  | inputRefused {fault : Fault} :
      store.openInput config.input = .error fault →
      Ran store config (.refused config.input fault, store)
  | outputRefused {fault : Fault} :
      store.locateOutput config.output = .error fault →
      Ran store config (.refused config.output fault, store)
  /-- The rows went to a device that loses them. -/
  | lost {input : Entry} :
      store.openInput config.input = .ok input →
      store.locate config.output = .ok (.existing .nullDevice) →
      Ran store config
        (.ofResult config (Extraction.run (store.source input) (sinkOf {})), store)
  /-- The rows went to a file that had been made or emptied for them. -/
  | written {input : Entry} {number : Nat} {made : Store} {result : Extraction.Result} :
      store.openInput config.input = .ok input →
      Emptied config.output number store made →
      result = Extraction.run (made.source input) (sinkOf (made.body number)) →
      Ran store config
        (.ofResult config result, made.setBody number ((made.body number).written result.sink))

theorem run_files_eq (store : Store) (config : Config) :
    files.run config store =
      match store.openInput config.input with
      | .error fault => (.refused config.input fault, store)
      | .ok input =>
          match store.createOutput config.output with
          | (.error fault, made) => (.refused config.output fault, made)
          | (.ok output, made) =>
              made.withSink output fun sink =>
                (.ofResult config (Extraction.run (made.source input) sink),
                  (Extraction.run (made.source input) sink).sink) := by
  simp only [FileAccess.run, files, bind, StateT.bind]
  cases store.openInput config.input with
  | error fault => rfl
  | ok input =>
      dsimp only [StateT.bind]
      rcases store.createOutput config.output with ⟨fault | output, made⟩ <;> rfl

theorem Sound.ran {store : Store} (sound : store.Sound) (config : Config) :
    Ran store config (files.run config store) := by
  have created := sound.created config.output
  rw [run_files_eq]
  cases opened : store.openInput config.input with
  | error fault => exact .inputRefused opened
  | ok input =>
      generalize store.createOutput config.output = outcome at created ⊢
      cases created with
      | refused located => exact .outputRefused located
      | device located => exact .lost opened located
      | file emptied => exact .written opened emptied rfl

theorem outcome_ofResult (config : Config) (result : Extraction.Result) :
    (FileAccess.Run.ofResult config result).outcome = result.outcome := by
  rcases result with ⟨failure | stats, sink, log⟩ <;> rfl

/-- A run leaves a store in which every file exists. -/
theorem Sound.run {store : Store} (sound : store.Sound) (config : Config) :
    (files.run config store).2.Sound := by
  have made := sound.createOutput config.output
  rw [run_files_eq]
  split
  · exact sound
  · split <;> rename_i result
    · rwa [result] at made
    · rw [result] at made
      exact made.withSink _ _

/-- A run keeps everything that can be opened, the file of its output apart. -/
theorem Ran.agrees {store : Store} {config : Config} {outcome : FileAccess.Run × Store}
    (ran : Ran store config outcome) (sound : store.Sound) {path : Path} {entry : Entry}
    (opened : store.openInput path = .ok entry) (different : ¬ store.SameFile path config.output) :
    Agrees store outcome.2 path := by
  have found := (openInput_eq_ok_iff.mp opened).1
  cases ran with
  | inputRefused | outputRefused | lost => exact .refl store path
  | written _ emptied _ =>
      exact (emptied.onlyChanges.trans (.setBody _ _ _)).agrees_of_found found
        (emptied.entry_ne sound found different)

/-- The rows of a run that succeeds are those of the bytes that its input had before. -/
theorem Ran.bytes?_output {store : Store} {config : Config} {outcome : FileAccess.Run × Store}
    (ran : Ran store config outcome) (sound : store.Sound)
    (different : ¬ store.SameFile config.input config.output)
    (kept : store.locate config.output ≠ .ok (.existing .nullDevice)) {stats : Stats}
    (succeeds : outcome.1.outcome = .ok stats) :
    ∃ bytes, store.contents? config.input = some bytes ∧
      outcome.2.bytes? config.output =
        some (Extraction.run (.whole bytes) {}).sink.received := by
  cases ran with
  | inputRefused => contradiction
  | outputRefused => contradiction
  | lost _ device => exact absurd device kept
  | @written input number made result opened emptied isResult =>
      rw [emptied.source_eq sound opened different] at isResult
      rw [outcome_ofResult, isResult] at succeeds
      obtain ⟨whole, received⟩ := Extraction.received_of_run_eq_ok rfl succeeds
      refine ⟨_, contents?_of_opened opened whole, ?_⟩
      rw [emptied.names.bytes?_setBody emptied.number_lt, FileBody.written, isResult, received,
        Extraction.received_run_whole whole]

/-- A run whose paths are names of one file that can be opened both ways reads what it has just
emptied. -/
theorem Ran.of_names {store : Store} {config : Config} {outcome : FileAccess.Run × Store}
    (ran : Ran store config outcome) {number : Nat} (inputNames : store.Names config.input number)
    (outputNames : store.Names config.output number)
    (readable : (store.body number).unreadable = none)
    (writable : (store.body number).unwritable = none) :
    outcome.1.outcome = .ok {} ∧ outcome.2.bytes? config.input = some [] := by
  have opened : store.openInput config.input = .ok (.file number) := by
    rw [inputNames.openInput_eq, readable]
  have creates : store.locateOutput config.output = .ok (.existing (.file number)) := by
    rw [outputNames.locateOutput_eq, writable]
  cases ran with
  | inputRefused refused => cases opened.symm.trans refused
  | outputRefused refused => cases creates.symm.trans refused
  | lost _ device => cases device.symm.trans outputNames
  | @written input written made result found emptied isResult =>
      cases opened.symm.trans found
      cases emptied.number_eq outputNames
      rw [source, emptied.bytes_eq] at isResult
      have names : made.Names config.input number :=
        emptied.onlyChanges.locate_eq inputNames rfl
      have fresh : (sinkOf (made.body number)).accepted = [] := rfl
      obtain ⟨outcome, received⟩ := Extraction.run_nothing fresh rfl
      rw [outcome_ofResult, names.bytes?_setBody emptied.number_lt, isResult]
      exact ⟨outcome, congrArg some received⟩

/-- A run to the null device writes nothing. -/
theorem Ran.of_nullDevice {store : Store} {config : Config} {outcome : FileAccess.Run × Store}
    (ran : Ran store config outcome)
    (device : store.locate config.output = .ok (.existing .nullDevice)) : outcome.2 = store := by
  cases ran with
  | inputRefused | outputRefused | lost => rfl
  | written _ emptied _ =>
      rcases emptied.origin with names | ⟨_, route, free⟩
      · cases device.symm.trans names
      · cases device.symm.trans free

/-- A run that cannot open its input does nothing. -/
theorem run_of_openInput_eq_error {store : Store} {config : Config} {fault : Fault}
    (refused : store.openInput config.input = .error fault) :
    files.run config store = (.refused config.input fault, store) := by
  rw [run_files_eq, refused]

/-- A run that cannot make or empty its output does nothing. -/
theorem run_of_locateOutput_eq_error {store : Store} {config : Config} {input : Entry}
    {fault : Fault} (opened : store.openInput config.input = .ok input)
    (refused : store.locateOutput config.output = .error fault) :
    files.run config store = (.refused config.output fault, store) := by
  rw [run_files_eq, opened, createOutput, refused]

/-- A run keeps its input, unless its paths are names of one file.  If it then succeeds and its
output is not the null device, its output holds exactly the rows of the bytes of its input.  If its
paths are names of one file that can be opened both ways, it succeeds without having seen a line and
leaves the file empty; a file that refuses to be opened either way makes the run fail and is kept. -/
theorem contents?_run {store : Store} (sound : store.Sound) (config : Config) :
    let outcome := files.run config store
    (¬ store.SameFile config.input config.output →
      outcome.2.file? config.input = store.file? config.input ∧
      outcome.2.contents? config.input = store.contents? config.input ∧
      ∀ stats, outcome.1.outcome = .ok stats →
        store.locate config.output ≠ .ok (.existing .nullDevice) →
        ∃ bytes, store.contents? config.input = some bytes ∧
          outcome.2.bytes? config.output =
            some (Extraction.run (.whole bytes) {}).sink.received) ∧
    (store.locate config.output = .ok (.existing .nullDevice) → outcome.2 = store) ∧
    (store.SameFile config.input config.output →
      ∀ file, store.file? config.input = some file →
        (file.unreadable = none → file.unwritable = none →
          outcome.1.outcome = .ok {} ∧ outcome.2.bytes? config.input = some []) ∧
        (∀ fault, file.unreadable = some fault →
          outcome = (.refused config.input fault, store)) ∧
        ∀ fault, file.unreadable = none → file.unwritable = some fault →
          outcome = (.refused config.output fault, store)) := by
  intro outcome
  have ran : Ran store config outcome := sound.ran config
  refine ⟨fun different => ?_, ran.of_nullDevice, ?_⟩
  · have kept : Agrees store outcome.2 config.input := by
      cases opened : store.openInput config.input with
      | ok input => exact ran.agrees sound opened different
      | error fault =>
          rw [show outcome = _ from run_of_openInput_eq_error opened]
          exact .refl store config.input
    refine ⟨kept.file?_eq, kept.contents?_eq, fun stats succeeds notDevice => ?_⟩
    exact ran.bytes?_output sound different notDevice succeeds
  · rintro ⟨number, inputNames, outputNames⟩ file isFile
    cases inputNames.file?_eq.symm.trans isFile
    refine ⟨ran.of_names inputNames outputNames, fun fault unreadable => ?_, ?_⟩
    · exact run_of_openInput_eq_error (by rw [inputNames.openInput_eq, unreadable])
    · intro fault readable unwritable
      exact run_of_locateOutput_eq_error (by rw [inputNames.openInput_eq, readable])
        (by rw [outputNames.locateOutput_eq, unwritable])

/-- An output that was there before holds the rows and nothing else; a file that can be written is
emptied by a run onto itself, and one that cannot is kept. -/
theorem contents?_run_old_output :
    let report := Utf8.encode "@@ Class 7 A\n".toList
    let store : Store :=
      { names := [([[97]], .file 0), ([[98]], .file 1), ([[99]], .file 2), ([[110]], .nullDevice)]
        bodies := [{ bytes := report }, { bytes := [1, 2, 3, 4, 5, 6, 7] },
          { bytes := report, unwritable := some .permissionDenied }] }
    let replaced := files.run ⟨[97], [98]⟩ store
    let emptied := files.run ⟨[97], [97]⟩ store
    store.Sound ∧ ¬ store.SameFile [97] [98] ∧
      store.locate [98] ≠ .ok (.existing .nullDevice) ∧
      replaced.1.outcome = .ok ⟨1, 1, 1, 0⟩ ∧
      replaced.2.contents? [97] = some report ∧
      replaced.2.bytes? [98] = some (Utf8.encode "A,7\r\n".toList) ∧
      (files.run ⟨[97], [110]⟩ store).2 = store ∧
      store.SameFile [97] [97] ∧ emptied.1.outcome = .ok {} ∧ emptied.2.bytes? [97] = some [] ∧
      store.SameFile [99] [99] ∧
      files.run ⟨[99], [99]⟩ store = (.refused [99] .permissionDenied, store) := by
  intro report store replaced emptied
  have sound : store.Sound := by decide
  have different : ¬ store.SameFile [97] [98] := by
    rintro ⟨number, input, output⟩
    cases input
    cases output
  have kept : store.locate [98] ≠ .ok (.existing .nullDevice) := nofun
  have succeeds : replaced.1.outcome = .ok ⟨1, 1, 1, 0⟩ := by rfl
  have writable : store.SameFile [97] [97] := ⟨0, rfl, rfl⟩
  have unwritable : store.SameFile [99] [99] := ⟨2, rfl, rfl⟩
  obtain ⟨_, unchanged, written⟩ := (contents?_run sound ⟨[97], [98]⟩).1 different
  obtain ⟨bytes, before, after⟩ := written _ succeeds kept
  have read : store.contents? [97] = some report := by rfl
  cases read.symm.trans before
  have lost := (contents?_run sound ⟨[97], [110]⟩).2.1 rfl
  have empties := ((contents?_run sound ⟨[97], [97]⟩).2.2 writable _ rfl).1 rfl rfl
  have refuses := ((contents?_run sound ⟨[99], [99]⟩).2.2 unwritable _ rfl).2.2 _ rfl rfl
  exact ⟨sound, different, kept, succeeds, unchanged.trans read, after.trans (by decide), lost,
    writable, empties.1, empties.2, unwritable, refuses⟩

/-- A run onto its own input, under the same name or another, empties it and reports success; a run
to the null device reports rows that its output does not hold. -/
theorem run_onto_own_input_empties_it :
    let report := Utf8.encode "@@ Class 7 A\n".toList
    let store : Store :=
      { names := [([[97]], .file 0), ([[98]], .file 0), ([[110]], .nullDevice)]
        bodies := [{ bytes := report }] }
    let itself := files.run ⟨[97], [97]⟩ store
    let renamed := files.run ⟨[97], [98]⟩ store
    let lost := files.run ⟨[97], [110]⟩ store
    store.Sound ∧ store.contents? [97] = some report ∧
      (Extraction.run (.whole report) {}).sink.received = Utf8.encode "A,7\r\n".toList ∧
      (itself.1.outcome = .ok {} ∧ itself.2.contents? [97] = some []) ∧
      (renamed.1.outcome = .ok {} ∧ renamed.2.contents? [97] = some []) ∧
      lost.1.outcome = .ok ⟨1, 1, 1, 0⟩ ∧ lost.2.contents? [110] = some [] := by
  refine ⟨by decide, ?_, ?_, ⟨?_, ?_⟩, ⟨?_, ?_⟩, ?_, ?_⟩ <;> rfl

end ClassSizes.Store
