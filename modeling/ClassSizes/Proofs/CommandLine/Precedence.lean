import ClassSizes.CommandLine.Program
import ClassSizes.Proofs.CommandLine.Arguments
import ClassSizes.Proofs.Files.Path
import ClassSizes.Proofs.Toml.TopLevel

/-!
# Where paths come from

A path of a configuration comes from its option, else from the document, else from the directory of
the program (`Config.Field.Obeys`).  The program merges the document with the defaults before it
takes what is still relative from the directory of the document, and looks at the options last.  The
defaults are absolute and so are left alone, and every path that can be read has a directory, so
that a document that is loaded always has one.
-/

namespace ClassSizes

open CommandLine (Flag Arguments)

/-! ## The two fields -/

namespace Config

/-- The paths of a configuration. -/
inductive Field where
  | input
  | output
  deriving DecidableEq, Repr

/-- The option that gives a path. -/
def Field.flag : Field → Flag
  | input => .input
  | output => .output

/-- The key that a path has in a document. -/
def Field.key : Field → Text
  | input => Settings.inputKey
  | output => Settings.outputKey

/-- The name of a file in the directory of the program. -/
def Field.fileName : Field → Path
  | input => defaultInput
  | output => defaultOutput

/-- The path of a field. -/
def path (config : Config) : Field → Path
  | .input => config.input
  | .output => config.output

@[simp]
theorem path_default (directory : Path) (field : Field) :
    (default directory).path field = Path.join directory field.fileName := by
  cases field <;> rfl

theorem path_resolveFrom {document base : Path} (isParent : Path.parent? document = some base)
    (config : Config) (field : Field) :
    (config.resolveFrom document).path field = resolve base (config.path field) := by
  rw [resolveFrom, isParent]
  cases field <;> rfl

@[simp]
theorem path_override (arguments : Arguments) (config : Config) (field : Field) :
    (arguments.override config).path field =
      (arguments.get? field.flag).getD (config.path field) := by
  cases field <;> rfl

end Config

namespace Settings

/-- What a document says about a field. -/
def path (settings : Settings) : Config.Field → Option Path
  | .input => settings.input
  | .output => settings.output

@[simp]
theorem path_fillFrom (settings : Settings) (config : Config) (field : Config.Field) :
    (settings.fillFrom config).path field = (settings.path field).getD (config.path field) := by
  cases field <;> rfl

/-! ## Documents -/

/-- The statements of a document that is valid: it has a tree, and at the top level the keys of both
paths stand for strings if they are there. -/
def States (document : Text) (statements : List Toml.Statement) : Prop :=
  Toml.statements? document = some statements ∧
    ∃ entries, Toml.entriesOf? statements = some entries ∧
      ∀ (field : Config.Field) (item : Toml.Item), entries.item? field.key = some item →
        ∃ text, item = .string text

/-- A document says what its pair with the key of a field says, above all headers. -/
def Says (statements : List Toml.Statement) (field : Config.Field) (said : Option Path) : Prop :=
  (∀ text : Text, .pair [field.key] (.string text) ∈ Toml.aboveHeaders statements →
    said = some (Utf8.encode text)) ∧
  ((∀ text : Text, .pair [field.key] (.string text) ∉ Toml.aboveHeaders statements) → said = none)

/-- A key is read if it is not there or stands for a string. -/
inductive PathRead (entries : Toml.Entries) (key : Text) : Except Failure (Option Path) → Prop
  | absent : entries.item? key = none → PathRead entries key (.ok none)
  | string {text : Text} : entries.item? key = some (.string text) →
      PathRead entries key (.ok (some (Utf8.encode text)))
  | other {item : Toml.Item} : entries.item? key = some item → (∀ text, item ≠ .string text) →
      PathRead entries key (.error .config)

theorem pathRead (entries : Toml.Entries) (key : Text) :
    PathRead entries key (path? entries key) := by
  unfold path?
  split
  · next absent => exact .absent absent
  · next present => exact .string present
  · next notString present => exact .other present notString

/-- What a valid document says about a field. -/
theorem exists_said {statements : List Toml.Statement} {entries : Toml.Entries}
    (grown : Toml.entriesOf? statements = some entries) (field : Config.Field)
    (strings : ∀ item, entries.item? field.key = some item → ∃ text, item = .string text) :
    ∃ said, path? entries field.key = .ok said ∧ Says statements field said := by
  have read := pathRead entries field.key
  generalize path? entries field.key = outcome at read ⊢
  cases read with
  | absent absent =>
      refine ⟨none, rfl, fun text member => ?_, fun _ => rfl⟩
      have present := (Toml.string_entriesOf?_iff grown).mpr member
      rw [absent] at present
      contradiction
  | @string text present =>
      refine ⟨_, rfl, fun other member => ?_, fun unsaid => ?_⟩
      · have same := (Toml.string_entriesOf?_iff grown).mpr member
        rw [present] at same
        cases same
        rfl
      · exact absurd ((Toml.string_entriesOf?_iff grown).mp present) (unsaid text)
  | other present notString =>
      rcases strings _ present with ⟨text, rfl⟩
      exact absurd rfl (notString text)

theorem ofEntries_of_read {entries : Toml.Entries} {input output : Option Path}
    (inputRead : path? entries inputKey = .ok input)
    (outputRead : path? entries outputKey = .ok output) :
    ofEntries entries = .ok ⟨input, output⟩ := by
  rw [ofEntries, inputRead, outputRead]
  rfl

theorem ofEntries_of_refused {entries : Toml.Entries} {field : Config.Field}
    (refused : path? entries field.key = .error .config) :
    ofEntries entries = .error .config := by
  cases field with
  | input =>
      rw [ofEntries, show path? entries inputKey = _ from refused]
      rfl
  | output =>
      rw [ofEntries, show path? entries outputKey = _ from refused]
      have read := pathRead entries inputKey
      generalize path? entries inputKey = outcome at read ⊢
      cases read <;> rfl

/-- A valid document is read. -/
theorem exists_ofDocument {document : Text} {statements : List Toml.Statement}
    (states : States document statements) :
    ∃ settings, ofDocument document = .ok settings ∧
      ∀ field, Says statements field (settings.path field) := by
  rcases states with ⟨read, entries, grown, strings⟩
  rcases exists_said grown .input (strings .input) with ⟨input, inputRead, saysInput⟩
  rcases exists_said grown .output (strings .output) with ⟨output, outputRead, saysOutput⟩
  have parsed : Toml.parse? document = some entries := Option.bind_eq_some_iff.mpr ⟨_, read, grown⟩
  refine ⟨⟨input, output⟩, ?_, ?_⟩
  · rw [ofDocument, parsed]
    exact ofEntries_of_read inputRead outputRead
  · rintro (_ | _)
    · exact saysInput
    · exact saysOutput

/-- A document that is not valid is refused. -/
theorem ofDocument_of_not_states {document : Text}
    (invalid : ∀ statements, ¬States document statements) :
    ofDocument document = .error .config := by
  unfold ofDocument
  cases parsed : Toml.parse? document with
  | none => rfl
  | some entries =>
      rcases Option.bind_eq_some_iff.mp parsed with ⟨statements, read, grown⟩
      obtain ⟨field, refused⟩ : ∃ field : Config.Field,
          path? entries field.key = .error .config := by
        by_contra accepted
        refine invalid statements ⟨read, entries, grown, fun field item present => ?_⟩
        have read := pathRead entries field.key
        generalize isRead : path? entries field.key = outcome at read
        cases read with
        | absent absent => cases absent.symm.trans present
        | @string text string =>
            cases string.symm.trans present
            exact ⟨text, rfl⟩
        | other => exact absurd ⟨field, isRead⟩ accepted
      exact ofEntries_of_refused refused

end Settings

/-! ## Loading a document -/

namespace Store

/-- A file is read as the text that its bytes encode; otherwise the file is to blame. -/
inductive TextRead (store : Store) (path : Path) : Except Failure Text → Prop
  | text {document : Text} : store.contents? path = some (Utf8.encode document) →
      TextRead store path (.ok document)
  | refused {fault : Fault} :
      (∀ document : Text, store.contents? path ≠ some (Utf8.encode document)) →
      TextRead store path (.error (.file path fault))

theorem readText_files_eq (store : Store) (path : Path) :
    files.readText path store =
      (((store.openInput path).bind fun entry => (store.source entry).readText).mapError
        (.file path), store) := by
  simp only [FileAccess.readText, files, bind, StateT.bind]
  cases store.openInput path with
  | error fault => rfl
  | ok entry =>
      dsimp only [bind, StateT.bind, Except.bind]
      cases (store.source entry).readText <;> rfl

theorem textRead (store : Store) (path : Path) :
    TextRead store path (files.readText path store).1 := by
  rw [readText_files_eq]
  cases opened : store.openInput path with
  | error fault =>
      refine .refused fun document => ?_
      simp [contents?, opened]
  | ok entry =>
      have contents : store.contents? path = (store.source entry).readAll.toOption := by
        simp only [contents?, opened]
      dsimp only [Except.bind, Source.readText]
      cases read : (store.source entry).readAll with
      | error fault =>
          refine .refused fun document => ?_
          rw [contents, read]
          rintro ⟨⟩
      | ok bytes =>
          rw [read] at contents
          dsimp only
          cases decoded : Utf8.decode? bytes with
          | none =>
              refine .refused fun document same => ?_
              cases contents.symm.trans same
              rw [Utf8.decode?_eq_some_iff.mpr rfl] at decoded
              contradiction
          | some document =>
              refine .text ?_
              rw [contents, Utf8.decode?_eq_some_iff.mp decoded]
              rfl

/-- A configuration is loaded from the text that is read. -/
theorem loadConfig_files_eq (store : Store) (directory path : Path) :
    files.loadConfig directory path store =
      ((files.readText path store).1.bind fun document =>
        (Config.ofDocument directory document).map (·.resolveFrom path), store) := by
  have read := readText_files_eq store path
  simp only [FileAccess.loadConfig, bind, StateT.bind, read]
  cases ((store.openInput path).bind fun entry => (store.source entry).readText) <;> rfl

end Store

namespace CommandLine

theorem resolveConfig_files_eq (store : Store) (directory : Path) (arguments : Arguments) :
    resolveConfig Store.files directory arguments store =
      ((match arguments.config with
        | some path => (Store.files.loadConfig directory path store).1
        | none => .ok (Config.default directory)).map arguments.override, store) := by
  simp only [resolveConfig, baseConfig, bind, StateT.bind]
  cases arguments.config with
  | none => rfl
  | some path =>
      dsimp only
      rw [Store.loadConfig_files_eq]
      rfl

end CommandLine

/-! ## The sources of a path -/

namespace Config

/-- The path of a field by its own sources: its option as it is; without one, what the document says
about it, taken from the directory of the document unless it begins at the root; without either,
the file of that name in the directory of the program. -/
structure Field.Obeys (field : Field) (options : List (Flag × Path))
    (document : Option (Path × List Toml.Statement)) (directory path : Path) : Prop where
  given : ∀ value, (field.flag, value) ∈ options → path = value
  stated : (∀ value, (field.flag, value) ∉ options) →
    ∀ (place : Path) (statements : List Toml.Statement) (text : Text),
      document = some (place, statements) →
      .pair [field.key] (.string text) ∈ Toml.aboveHeaders statements →
      ∃ base, Path.parent? place = some base ∧
        path =
          if Path.isAbsolute (Utf8.encode text) then Utf8.encode text
          else Path.join base (Utf8.encode text)
  default : (∀ value, (field.flag, value) ∉ options) →
    (∀ (place : Path) (statements : List Toml.Statement) (text : Text),
      document = some (place, statements) →
      .pair [field.key] (.string text) ∉ Toml.aboveHeaders statements) →
    path = Path.join directory field.fileName

variable {field : Field} {options : List (Flag × Path)} {directory : Path}

/-- The sources of a field settle its path. -/
theorem Field.Obeys.unique {document : Option (Path × List Toml.Statement)} {first second : Path}
    (one : field.Obeys options document directory first)
    (other : field.Obeys options document directory second) : first = second := by
  by_cases given : ∃ value, (field.flag, value) ∈ options
  · rcases given with ⟨value, given⟩
    rw [one.given value given, other.given value given]
  · have free : ∀ value, (field.flag, value) ∉ options := not_exists.mp given
    by_cases stated : ∃ (place : Path) (statements : List Toml.Statement) (text : Text),
        document = some (place, statements) ∧
        .pair [field.key] (.string text) ∈ Toml.aboveHeaders statements
    · rcases stated with ⟨place, statements, text, rfl, stated⟩
      rcases one.stated free place statements text rfl stated with ⟨base, isParent, rfl⟩
      rcases other.stated free place statements text rfl stated with ⟨_, same, rfl⟩
      cases isParent.symm.trans same
      rfl
    · have unsaid : ∀ (place : Path) (statements : List Toml.Statement) (text : Text),
          document = some (place, statements) →
          .pair [field.key] (.string text) ∉ Toml.aboveHeaders statements :=
        fun place statements text isDocument member =>
          stated ⟨place, statements, text, isDocument, member⟩
      rw [one.default free unsaid, other.default free unsaid]

theorem isAbsolute_resolve {base : Path} (absolute : Path.isAbsolute base = true) (path : Path) :
    Path.isAbsolute (resolve base path) = true := by
  unfold resolve
  split
  · assumption
  · exact Path.isAbsolute_join absolute

variable {arguments : Arguments}
  (same : ∀ flag value, arguments.get? flag = some value ↔ (flag, value) ∈ options)

include same

theorem get?_eq_none (free : ∀ value, (field.flag, value) ∉ options) :
    arguments.get? field.flag = none :=
  Option.eq_none_iff_forall_ne_some.mpr fun value given => free value ((same _ _).mp given)

theorem obeys_of_default :
    field.Obeys options none directory ((arguments.override (.default directory)).path field) where
  given value given := by
    rw [path_override, (same _ _).mpr given]
    rfl
  stated _ _ _ _ := nofun
  default free _ := by
    rw [path_override, get?_eq_none same free, path_default]
    rfl

/-- The order in which the program merges the sources of a field does not show: the defaults are
absolute, and so it makes no difference that they are taken from the directory of the document. -/
theorem obeys_of_says (absolute : Path.isAbsolute directory = true) {place base : Path}
    (isParent : Path.parent? place = some base) {statements : List Toml.Statement}
    {settings : Settings} (said : Settings.Says statements field (settings.path field)) :
    field.Obeys options (some (place, statements)) directory
      ((arguments.override ((settings.fillFrom (.default directory)).resolveFrom place)).path
        field) where
  given value given := by
    rw [path_override, (same _ _).mpr given]
    rfl
  stated free _ _ text isDocument member := by
    cases isDocument
    refine ⟨base, isParent, ?_⟩
    rw [path_override, get?_eq_none same free, path_resolveFrom isParent,
      Settings.path_fillFrom, said.1 text member]
    rfl
  default free unsaid := by
    rw [path_override, get?_eq_none same free, path_resolveFrom isParent, Settings.path_fillFrom,
      said.2 fun text => unsaid place statements text rfl, path_default]
    exact if_pos (Path.isAbsolute_join absolute)

theorem isAbsolute_of_resolved {place base : Path} (isParent : Path.parent? place = some base)
    (absolute : Path.isAbsolute place = true) (free : ∀ value, (field.flag, value) ∉ options)
    (config : Config) :
    Path.isAbsolute ((arguments.override (config.resolveFrom place)).path field) = true := by
  rw [path_override, get?_eq_none same free, path_resolveFrom isParent]
  exact isAbsolute_resolve (Path.isAbsolute_of_parent? absolute isParent) _

end Config

namespace CommandLine

/-- Every argument vector that is accepted gives a list of options, and each path of the
configuration is the one that its own sources settle.  With a document that is valid the
configuration is found; a document that cannot be read as text is to blame for the failure, and one
that is not valid fails as a configuration, whatever options are given.  Paths that no option gives
are absolute if the path of the document is.  No file is changed. -/
theorem resolveConfig_precedence (store : Store) {directory : Path}
    (absolute : Path.isAbsolute directory = true) {argv : List Bytes} {arguments : Arguments}
    (accepted : parse argv = .ok (.run arguments)) :
    ∃ options, Spells argv options ∧ (options.map Prod.fst).Nodup ∧
      (∀ flag value, arguments.get? flag = some value ↔ (flag, value) ∈ options) ∧
      ∃ outcome, resolveConfig Store.files directory arguments store = (outcome, store) ∧
        ((∀ place, (Flag.config, place) ∉ options) →
          ∃ config, outcome = .ok config ∧
            ∀ (field : Config.Field) (path : Path),
              field.Obeys options none directory path ↔ path = config.path field) ∧
        ∀ place, (Flag.config, place) ∈ options →
          (∀ document statements, store.contents? place = some (Utf8.encode document) →
            Settings.States document statements →
            ∃ config, outcome = .ok config ∧
              (∀ (field : Config.Field) (path : Path),
                field.Obeys options (some (place, statements)) directory path ↔
                  path = config.path field) ∧
              (Path.isAbsolute place = true →
                ∀ field : Config.Field, (∀ value, (field.flag, value) ∉ options) →
                  Path.isAbsolute (config.path field) = true)) ∧
          (∀ document, store.contents? place = some (Utf8.encode document) →
            (∀ statements, ¬Settings.States document statements) → outcome = .error .config) ∧
          ((∀ document, store.contents? place ≠ some (Utf8.encode document)) →
            ∃ fault, outcome = .error (.file place fault)) := by
  rcases parse_eq_run_iff.mp accepted with ⟨options, spells, distinct, _, same⟩
  refine ⟨options, spells, distinct, same, _, resolveConfig_files_eq store directory arguments,
    ?_, ?_⟩
  · intro undocumented
    have noDocument : arguments.config = none :=
      Option.eq_none_iff_forall_ne_some.mpr fun place given =>
        undocumented place ((same .config place).mp given)
    rw [noDocument]
    refine ⟨_, rfl, fun field path => ⟨?_, ?_⟩⟩
    · exact fun obeys => obeys.unique (Config.obeys_of_default same)
    · rintro rfl
      exact Config.obeys_of_default same
  · intro place documented
    have isDocument : arguments.config = some place := (same .config place).mpr documented
    have read := store.textRead place
    rw [isDocument]
    dsimp only
    rw [Store.loadConfig_files_eq]
    generalize (Store.files.readText place store).1 = outcome at read ⊢
    cases read with
    | refused unreadable =>
        refine ⟨?_, ?_, ?_⟩
        · exact fun document _ contents => absurd contents (unreadable document)
        · exact fun document contents => absurd contents (unreadable document)
        · exact fun _ => ⟨_, rfl⟩
    | @text document contents =>
        have sameText {other : Text} (others : store.contents? place = some (Utf8.encode other)) :
            document = other :=
          Utf8.encode_injective (Option.some.inj (contents.symm.trans others))
        refine ⟨?_, ?_, ?_⟩
        · intro other statements others states
          obtain rfl := sameText others
          rcases Settings.exists_ofDocument states with ⟨settings, read, said⟩
          rcases Store.exists_parent?_of_contents? contents with ⟨base, isParent⟩
          refine ⟨arguments.override
            ((settings.fillFrom (.default directory)).resolveFrom place), ?_, ?_, ?_⟩
          · simp only [Except.bind, Config.ofDocument, read]
            rfl
          · have obeys (field : Config.Field) :=
              Config.obeys_of_says same absolute isParent (said field)
            intro field path
            constructor
            · exact fun obeysToo => obeysToo.unique (obeys field)
            · rintro rfl
              exact obeys field
          · exact fun placeAbsolute field free =>
              Config.isAbsolute_of_resolved same isParent placeAbsolute free _
        · intro other others invalid
          obtain rfl := sameText others
          simp only [Except.bind, Config.ofDocument, Settings.ofDocument_of_not_states invalid]
          rfl
        · exact fun unreadable => absurd contents (unreadable document)

/-- A document with a key at the top level and again in a table. -/
theorem resolveConfig_precedence_nested_key :
    let document := "input_path = 'i'\n[n]\ninput_path = 'x'\n".toList
    let store : Store :=
      { names := [([[100]], .directory), ([[100], [99]], .file 0)]
        bodies := [{ bytes := Utf8.encode document }] }
    let argv := ["--output=o", "-c", "/d/c"].map fun argument => Utf8.encode argument.toList
    let arguments : Arguments := { output := some [111], config := some [47, 100, 47, 99] }
    Path.isAbsolute [47, 112] = true ∧ parse argv = .ok (.run arguments) ∧
      (resolveConfig Store.files [47, 112] arguments store).1 =
        .ok ⟨[47, 100, 47, 105], [111]⟩ := by
  intro document store argv arguments
  have accepted : parse argv = .ok (.run arguments) := by decide
  have contents : store.contents? [47, 100, 47, 99] = some (Utf8.encode document) := by rfl
  have states : Settings.States document
      [.pair [Settings.inputKey] (.string ['i']), .table [['n']],
        .pair [Settings.inputKey] (.string ['x'])] := by
    refine ⟨by rfl, _, by rfl, ?_⟩
    rintro (_ | _) item present
    · exact ⟨['i'], (Option.some.inj present).symm⟩
    · contradiction
  obtain ⟨options, _, _, same, outcome, resolved, _, documented⟩ :=
    @resolveConfig_precedence store [47, 112] rfl argv arguments accepted
  obtain ⟨config, rfl, settled, _⟩ :=
    (documented [47, 100, 47, 99] ((same .config _).mp rfl)).1 document _ contents states
  have obeysInput := (settled .input _).mpr rfl
  have obeysOutput := (settled .output _).mpr rfl
  have free : ∀ value, (Flag.input, value) ∉ options := fun value given =>
    nomatch (same .input value).mpr given
  obtain ⟨base, isParent, input⟩ := obeysInput.stated free _ _ ['i'] rfl (.head _)
  have output := obeysOutput.given [111] ((same .output _).mp rfl)
  have parent : Path.parent? [47, 100, 47, 99] = some [47, 100] := by decide
  cases parent.symm.trans isParent
  have found : config = ⟨[47, 100, 47, 105], [111]⟩ := by
    rcases config with ⟨inputPath, outputPath⟩
    obtain rfl : inputPath = _ := input
    obtain rfl : outputPath = _ := output
    rfl
  exact ⟨rfl, accepted, by rw [resolved, found]⟩

end CommandLine

end ClassSizes
