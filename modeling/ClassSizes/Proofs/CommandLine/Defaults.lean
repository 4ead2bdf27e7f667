import ClassSizes.Proofs.CommandLine.Precedence

/-!
# Where defaults stay

Loading fills in what a document omits before it takes the paths that are still relative from the
directory of the document, and by then nothing tells the paths that the document states from the
others.  So a default stays what it is if it is absolute, or if the directory of the document is the
empty path; any other default moves below that directory (`Store.loadConfig_keeps_default_iff`).
The defaults of a program whose place nobody knows are of that kind.
-/

namespace ClassSizes

namespace Config

variable {directory base : Path} {field : Field}

theorem not_isAbsolute_fileName (field : Field) : ¬Path.isAbsolute field.fileName = true := by
  cases field <;> decide

/-- A default begins at the root if the directory of the program does. -/
theorem isAbsolute_path_default (directory : Path) (field : Field) :
    Path.isAbsolute ((default directory).path field) = Path.isAbsolute directory := by
  rw [path_default]
  exact Path.isAbsolute_join_of_relative (not_isAbsolute_fileName field)

theorem resolve_eq_self_iff {path : Path} :
    resolve base path = path ↔ Path.isAbsolute path = true ∨ base = [] := by
  unfold resolve
  split
  case isTrue absolute => exact iff_of_true rfl (.inl absolute)
  case isFalse => exact Path.join_eq_self_iff

theorem resolve_path_default_eq_iff :
    resolve base ((default directory).path field) = (default directory).path field ↔
      Path.isAbsolute directory = true ∨ base = [] := by
  rw [resolve_eq_self_iff, isAbsolute_path_default]

theorem resolve_path_default_of_relative (relative : ¬Path.isAbsolute directory = true) :
    resolve base ((default directory).path field) =
      Path.join base ((default directory).path field) := by
  rw [← isAbsolute_path_default directory field] at relative
  exact if_neg relative

end Config

namespace Store

theorem readText_of_contents {store : Store} {place : Path} {document : Text}
    (contents : store.contents? place = some (Utf8.encode document)) :
    (files.readText place store).1 = .ok document := by
  have read := store.textRead place
  generalize (files.readText place store).1 = outcome at read ⊢
  cases read with
  | refused unreadable => exact absurd contents (unreadable document)
  | text others =>
      rw [Utf8.encode_injective (Option.some.inj (others.symm.trans contents))]

/-- A valid document is loaded whatever the directory of the program is, and what it says does not
depend on that directory. -/
theorem exists_loadConfig {store : Store} {place : Path} {document : Text}
    {statements : List Toml.Statement}
    (contents : store.contents? place = some (Utf8.encode document))
    (states : Settings.States document statements) :
    ∃ settings base, Path.parent? place = some base ∧
      (∀ field, Settings.Says statements field (Settings.path settings field)) ∧
      ∀ directory, files.loadConfig directory place store =
        (.ok ((settings.fillFrom (.default directory)).resolveFrom place), store) := by
  rcases Settings.exists_ofDocument states with ⟨settings, read, said⟩
  rcases exists_parent?_of_contents? contents with ⟨base, isParent⟩
  refine ⟨settings, base, isParent, said, fun directory => ?_⟩
  rw [loadConfig_files_eq, readText_of_contents contents]
  simp only [Except.bind, Config.ofDocument, read]
  rfl

/-- A valid document is always loaded, and no file is changed.  A path that the document states goes
where it says, from the directory of the document on.  A path that it omits keeps the value of the
default configuration if and only if the directory of the program is absolute or that of the
document is empty; otherwise the default, too, is taken from the directory of the document. -/
theorem loadConfig_keeps_default_iff (store : Store) (directory : Path) {place : Path}
    {document : Text} {statements : List Toml.Statement}
    (contents : store.contents? place = some (Utf8.encode document))
    (states : Settings.States document statements) :
    ∃ base config, Path.parent? place = some base ∧
      files.loadConfig directory place store = (.ok config, store) ∧
      ∀ field : Config.Field,
        (∀ text : Text, .pair [field.key] (.string text) ∈ Toml.aboveHeaders statements →
          config.path field =
            if Path.isAbsolute (Utf8.encode text) then Utf8.encode text
            else Path.join base (Utf8.encode text)) ∧
        ((∀ text : Text, .pair [field.key] (.string text) ∉ Toml.aboveHeaders statements) →
          (config.path field = (Config.default directory).path field ↔
            Path.isAbsolute directory = true ∨ base = []) ∧
          (¬Path.isAbsolute directory = true →
            config.path field = Path.join base ((Config.default directory).path field))) := by
  rcases exists_loadConfig contents states with ⟨settings, base, isParent, said, loaded⟩
  refine ⟨base, _, isParent, loaded directory, fun field => ?_⟩
  -- What is resolved is what the document says about the field, and only then its default.
  rw [Config.path_resolveFrom isParent, Settings.path_fillFrom]
  constructor
  · intro text stated
    rw [(said field).1 text stated]
    rfl
  · intro omitted
    rw [(said field).2 omitted]
    exact ⟨Config.resolve_path_default_eq_iff, Config.resolve_path_default_of_relative⟩

/-- A document in a directory below the current one that states one path of two. -/
theorem loadConfig_keeps_default_iff_one_path_omitted :
    let document := "output_path = 'o'\n".toList
    let statements := [.pair [Settings.outputKey] (.string ['o'])]
    let store : Store :=
      { names := [([[115]], .directory), ([[115], [99]], .file 0)]
        bodies := [{ bytes := Utf8.encode document }] }
    let directory := Config.programDirectory (some [47, 112, 47, 120])
    store.contents? [115, 47, 99] = some (Utf8.encode document) ∧
      Settings.States document statements ∧
      files.loadConfig directory [115, 47, 99] store =
        (.ok ⟨(Config.default directory).input, [115, 47, 111]⟩, store) := by
  intro document statements store directory
  have contents : store.contents? [115, 47, 99] = some (Utf8.encode document) := by rfl
  have states : Settings.States document statements := by
    refine ⟨by rfl, _, by rfl, ?_⟩
    rintro (_ | _) item present
    · contradiction
    · exact ⟨['o'], (Option.some.inj present).symm⟩
  have omitted (text : Text) :
      .pair [Config.Field.input.key] (.string text) ∉ Toml.aboveHeaders statements := by
    have apart : Config.Field.input.key ≠ Settings.outputKey := by decide
    simp [Toml.aboveHeaders, statements, Toml.Statement.isPair, apart]
  obtain ⟨base, config, isParent, loaded, settled⟩ :=
    loadConfig_keeps_default_iff store directory contents states
  have parent : Path.parent? [115, 47, 99] = some [115] := by decide
  cases parent.symm.trans isParent
  have input := ((settled .input).2 omitted).1.mpr (.inl rfl)
  have output := (settled .output).1 ['o'] (.head _)
  have found : config = ⟨(Config.default directory).input, [115, 47, 111]⟩ :=
    congrArg₂ Config.mk input output
  exact ⟨contents, states, by rw [loaded, found]⟩

/-- The defaults of a program whose place nobody knows, moved below the directory of a document that
says nothing. -/
theorem defaults_moved_below_document :
    let store : Store :=
      { names := [([[115]], .directory), ([[115], [99]], .file 0)], bodies := [{}] }
    let directory := Config.programDirectory none
    store.contents? [115, 47, 99] = some (Utf8.encode []) ∧ Settings.States [] [] ∧
      ∃ config, files.loadConfig directory [115, 47, 99] store = (.ok config, store) ∧
        ∀ field : Config.Field,
          config.path field = [115, 47] ++ (Config.default directory).path field ∧
            config.path field ≠ (Config.default directory).path field := by
  intro store directory
  refine ⟨rfl, ⟨rfl, [], rfl, nofun⟩, _, rfl, ?_⟩
  rintro (_ | _) <;> exact ⟨by decide, by decide⟩

end Store

end ClassSizes
