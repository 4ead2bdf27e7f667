import ClassSizes.Proofs.CommandLine.Precedence
import ClassSizes.Proofs.Files.Effects

/-!
# The effects of the program

The program changes files only through its run, and announces only a run that has succeeded.  What
it prints and its exit status therefore say as much as the outcome of the run.
-/

namespace ClassSizes.CommandLine

namespace Report

/-- A report of success: a line on the standard output, and the exit status zero. -/
structure Announces (report : Report) (written : Path) : Prop where
  output_eq : report.output = "Written CSV to " ++ Path.display written ++ "\n"
  status_eq : report.status = 0

/-- A report of failure: nothing on the standard output, and an exit status that is not zero. -/
structure Fails (report : Report) : Prop where
  output_eq : report.output = ""
  status_ne : report.status ≠ 0

theorem announces_ofRun {run : FileAccess.Run} {stats : Stats} (succeeds : run.outcome = .ok stats)
    (filter : Log.Filter) (config : Config) :
    (ofRun filter config run).Announces config.output := by
  rw [ofRun, succeeds]
  exact ⟨rfl, rfl⟩

theorem fails_ofRun {run : FileAccess.Run} {failure : Failure}
    (failed : run.outcome = .error failure) (filter : Log.Filter) (config : Config) :
    (ofRun filter config run).Fails := by
  rw [ofRun, failed]
  exact ⟨rfl, nofun⟩

end Report

theorem execute_files_eq (store : Store) (directory : Path) (filter : Log.Filter)
    (arguments : Arguments) :
    execute Store.files directory filter arguments store =
      match (resolveConfig Store.files directory arguments store).1 with
      | .error _ => (.configRefused (arguments.config.getD []), store)
      | .ok config =>
          (.ofRun filter config (Store.files.run config store).1,
            (Store.files.run config store).2) := by
  obtain ⟨resolved, isResolved⟩ : ∃ resolved,
      resolveConfig Store.files directory arguments store = (resolved, store) :=
    ⟨_, resolveConfig_files_eq store directory arguments⟩
  simp only [execute, bind, StateT.bind, isResolved]
  cases resolved <;> rfl

/-- A program whose log can be set up changes nothing and fails if its configuration cannot be
loaded.  Otherwise it has the effects of its run, unless the paths of the run are names of one file.
Success is printed, and the exit status zero, exactly if the run succeeds. -/
theorem program_effects {store : Store} (sound : store.Sound) {surroundings : Surroundings}
    {filter : Log.Filter} (begins : Log.Filter.ofSetting? surroundings.logSetting = some filter)
    {argv : List Bytes} {arguments : Arguments} (accepted : parse argv = .ok (.run arguments)) :
    let directory := Config.programDirectory surroundings.executable
    let resolved := (resolveConfig Store.files directory arguments store).1
    let outcome := program Store.files surroundings argv store
    (∀ failure, resolved = .error failure → outcome.1.Fails ∧ outcome.2 = store) ∧
    ∀ config, resolved = .ok config → ¬store.SameFile config.input config.output →
      ∃ run, Store.files.run config store = (run, outcome.2) ∧
        (∀ stats, run.outcome = .ok stats → outcome.1.Announces config.output) ∧
        (∀ failure, run.outcome = .error failure → outcome.1.Fails) ∧
        store.Effects config run outcome.2 := by
  intro directory resolved outcome
  have executed : outcome = execute Store.files directory filter arguments store := by
    simp only [outcome, program, begins, accepted, directory]
  rw [execute_files_eq] at executed
  constructor
  · intro failure failed
    rw [show (resolveConfig Store.files directory arguments store).1 = _ from failed] at executed
    rw [executed]
    exact ⟨⟨rfl, nofun⟩, rfl⟩
  · intro config isConfig different
    rw [show (resolveConfig Store.files directory arguments store).1 = _ from isConfig] at executed
    rw [executed]
    refine ⟨(Store.files.run config store).1, rfl, ?_, ?_, Store.run_effects sound different⟩
    · exact fun stats succeeds => Report.announces_ofRun succeeds filter config
    · exact fun failure failed => Report.fails_ofRun failed filter config

/-- A report beside a table that is longer than the one that is written in its place. -/
theorem program_effects_shorter_table :
    let report := Utf8.encode "@@ Class 7 A\n".toList
    let table := Utf8.encode "A,7\r\n".toList
    let store : Store :=
      { names := [([[97]], .file 0), ([[98]], .file 1)]
        bodies := [{ bytes := report }, { bytes := table ++ table }] }
    let argv := ["-ob", "-i", "a"].map fun argument => Utf8.encode argument.toList
    let outcome := program Store.files {} argv store
    outcome.1.Announces [98] ∧ outcome.2.bytes? [98] = some table ∧
      outcome.2.contents? [97] = some report := by
  intro report table store argv outcome
  have accepted : parse argv = .ok (.run { input := some [97], output := some [98] }) := by decide
  have different : ¬store.SameFile [97] [98] := by
    rintro ⟨number, input, output⟩
    cases input
    cases output
  obtain ⟨run, hasRun, announces, _, effects⟩ :=
    (@program_effects store (by decide) {} _ rfl argv _ accepted).2 ⟨[97], [98]⟩ rfl different
  have opened : store.Begins ⟨[97], [98]⟩ (.file 0) (.file 1) := ⟨rfl, rfl⟩
  obtain ⟨written, isWritten, writes⟩ := effects.written _ _ opened nofun
  have succeeds : run.outcome = .ok ⟨1, 1, 1, 0⟩ := by
    have outcome : (Store.files.run ⟨[97], [98]⟩ store).1.outcome = .ok ⟨1, 1, 1, 0⟩ := by rfl
    rwa [hasRun] at outcome
  have isTable : written = table := ((writes.rows report rfl).2 _ succeeds).trans (by decide)
  have apart : ¬outcome.2.SameFile [97] [98] := by
    rintro ⟨number, input, output⟩
    cases input
    cases output
  exact ⟨announces _ succeeds, isTable ▸ isWritten, (effects.confined [97] apart).contents?_eq⟩

/-- Success is announced although the null device does not hold the rows.  And with a torn setting of
the log the program does not begin, so that an output keeps bytes that are not rows. -/
theorem announced_rows_lost :
    let report := Utf8.encode "@@ Class 7 A\n".toList
    let store : Store :=
      { names := [([[97]], .file 0), ([[98]], .file 1), ([[110]], .nullDevice)]
        bodies := [{ bytes := report }, { bytes := [1, 2, 3] }] }
    let argv (output : String) := ["-i", "a", "-o", output].map fun argument =>
      Utf8.encode argument.toList
    let lost := program Store.files {} (argv "n") store
    let torn := program Store.files { logSetting := some (Utf8.encode "\u3000ab=debug".toList) }
      (argv "b") store
    store.Sound ∧ ¬store.SameFile [97] [110] ∧ ¬store.SameFile [97] [98] ∧
      (Extraction.run (.whole report) {}).sink.received = Utf8.encode "A,7\r\n".toList ∧
      (lost.1.Announces [110] ∧ lost.2.contents? [110] = some []) ∧
      store.openInput [97] = .ok (.file 0) ∧ (store.createOutput [98]).1 = .ok (.file 1) ∧
      torn.1.Fails ∧ torn.2.contents? [98] = some [1, 2, 3] := by
  intro report store argv lost torn
  have apart {output : Path} (other : ¬store.Names output 0) : ¬store.SameFile [97] output := by
    rintro ⟨number, input, isOutput⟩
    cases input
    exact other isOutput
  refine ⟨by decide, apart nofun, apart nofun, by decide, ⟨⟨?_, ?_⟩, ?_⟩, rfl, rfl, ⟨?_, ?_⟩, ?_⟩
  · rfl
  · rfl
  · rfl
  · rfl
  · exact Nat.succ_ne_zero 100
  · rfl

end ClassSizes.CommandLine
