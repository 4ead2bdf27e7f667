import ClassSizes.CommandLine.Arguments
import ClassSizes.Proofs.Text.Strict
import Mathlib.Data.List.TakeWhile

/-!
# The argument vectors that are accepted

An argument vector spells a list of options if it gives them one after the other, each in one of the
forms that there are (`Spells`).  The reader takes exactly the vectors that spell options of
different kinds with values that are not empty, and what it makes of them does not depend on their
order or form (`parse_eq_run_iff`).
-/

namespace ClassSizes.CommandLine

open Reading (dash equals settleOne)

/-! ## How options are spelled -/

namespace Flag

/-- An option with two dashes. -/
def long (flag : Flag) : Bytes :=
  dash :: dash :: Utf8.encode flag.longName.toList

/-- An option with one dash. -/
def short (flag : Flag) : Bytes :=
  dash :: Utf8.encodeChar flag.shortName

theorem ofLong?_eq_some_iff {name : Text} {flag : Flag} :
    ofLong? name = some flag ↔ name = flag.longName.toList := by
  constructor
  · intro found
    have same := List.find?_some found
    simpa [eq_comm] using same
  · rintro rfl
    cases flag <;> decide

theorem ofShort?_eq_some_iff {name : Char} {flag : Flag} :
    ofShort? name = some flag ↔ name = flag.shortName := by
  constructor
  · intro found
    have same := List.find?_some found
    simpa [eq_comm] using same
  · rintro rfl
    cases flag <;> decide

end Flag

/-- An argument that is no option: it does not begin with a dash, or it is nothing but a dash. -/
def IsPlain (argument : Bytes) : Prop :=
  argument.head? ≠ some dash ∨ argument = [dash]

/-- An argument that gives an option and its value. -/
inductive Attaches (flag : Flag) (value : Path) (argument : Bytes) : Prop
  | long : argument = flag.long ++ equals :: value → Attaches flag value argument
  | short : value ≠ [] → value.head? ≠ some equals → argument = flag.short ++ value →
      Attaches flag value argument
  | shortEquals : argument = flag.short ++ equals :: value → Attaches flag value argument

/-- An argument vector that gives options and their values in order; it may end in two dashes. -/
inductive Spells : List Bytes → List (Flag × Path) → Prop
  | nothing : Spells [] []
  | mark : Spells [[dash, dash]] []
  | apart {flag : Flag} {value : Path} {argument : Bytes} {argv : List Bytes}
      {options : List (Flag × Path)} :
      argument = flag.long ∨ argument = flag.short → IsPlain value → Spells argv options →
      Spells (argument :: value :: argv) ((flag, value) :: options)
  | attached {flag : Flag} {value : Path} {argument : Bytes} {argv : List Bytes}
      {options : List (Flag × Path)} :
      Attaches flag value argument → Spells argv options →
      Spells (argument :: argv) ((flag, value) :: options)

namespace Reading

variable {reading next : Reading} {flag : Flag} {value argument : Bytes}

/-! ## What one argument does -/

theorem settleOne_eq_ok_iff {settled given : Arguments} :
    settleOne settled flag (some value) = .ok given ↔
      settled.get? flag = none ∧ value ≠ [] ∧ given = settled.set value flag := by
  unfold settleOne
  cases settled.get? flag with
  | some old => simp
  | none =>
      by_cases empty : value = []
      · simp [empty]
      · simp [empty, eq_comm]

theorem expect_eq_more_iff :
    reading.expect flag = .more next ↔
      ∃ settled, reading.settle = .ok settled ∧ next = { settled, pending := some (flag, none) } := by
  unfold expect
  cases reading.settle with
  | error error => simp
  | ok settled => simp [eq_comm]

theorem attach_eq_more_iff :
    reading.attach flag value = .more next ↔
      ∃ settled given, reading.settle = .ok settled ∧
        settleOne settled flag (some value) = .ok given ∧ next = { settled := given } := by
  unfold attach
  cases reading.settle with
  | error error => simp
  | ok settled =>
      cases given : settleOne settled flag (some value) with
      | error error => simp [given]
      | ok arguments => simp [given, eq_comm]

theorem takePlain_eq_more_iff :
    reading.takePlain argument = .more next ↔
      ∃ flag, reading.pending = some (flag, none) ∧
        next = { reading with pending := some (flag, some argument) } := by
  unfold takePlain
  split
  · next flag isPending => simp [isPending, eq_comm]
  · next notPending =>
      simp only [reduceCtorEq, false_iff, not_exists, not_and]
      exact fun flag isPending => absurd isPending (notPending flag)

theorem requestHelp_ne_more : reading.requestHelp ≠ .more next := by
  unfold requestHelp
  split <;> nofun

/-- An argument is cut at its first equals sign. -/
theorem splitEquals_append {name : Bytes} (noEquals : equals ∉ name) (rest : Bytes) :
    splitEquals (name ++ equals :: rest) = (name, some rest) := by
  have passed : ∀ byte ∈ name, (byte != equals) = true := fun byte member =>
    bne_iff_ne.mpr fun same => noEquals (same ▸ member)
  rw [splitEquals, List.dropWhile_append_of_pos passed, List.takeWhile_append_of_pos passed]
  simp

theorem splitEquals_of_not_mem (noEquals : equals ∉ argument) :
    splitEquals argument = (argument, none) := by
  have passed : ∀ byte ∈ argument, (byte != equals) = true := fun byte member =>
    bne_iff_ne.mpr fun same => noEquals (same ▸ member)
  rw [splitEquals, List.dropWhile_eq_nil_iff.mpr passed]

/-- What is cut off begins with the equals sign. -/
theorem eq_of_splitEquals {name : Bytes} (cut : splitEquals argument = (name, some value)) :
    argument = name ++ equals :: value := by
  have joined := List.takeWhile_append_dropWhile (p := (· != equals)) (l := argument)
  unfold splitEquals at cut
  split at cut
  · cases cut
  · next first rest behind =>
      cases cut
      have isEquals : first = equals := by
        have stops := List.head?_dropWhile_not (· != equals) argument
        rw [behind] at stops
        simpa using stops
      rw [behind, isEquals] at joined
      exact joined.symm

theorem eq_of_splitEquals_none {name : Bytes} (whole : splitEquals argument = (name, none)) :
    argument = name := by
  unfold splitEquals at whole
  split at whole <;> cases whole
  rfl

theorem equals_not_mem_longName (flag : Flag) :
    equals ∉ Utf8.encode flag.longName.toList := by
  cases flag <;> decide

/-- An argument after its two dashes: the name of an option, alone or with an equals sign and a
value. -/
theorem takeLong_eq_more_iff {body : Bytes} :
    reading.takeLong body = .more next ↔
      ∃ flag, body = Utf8.encode flag.longName.toList ∧ reading.expect flag = .more next ∨
        ∃ value, body = Utf8.encode flag.longName.toList ++ equals :: value ∧
          reading.attach flag value = .more next := by
  constructor
  · intro taken
    unfold takeLong at taken
    rcases cut : splitEquals body with ⟨name, value⟩
    simp only [cut] at taken
    split at taken
    · cases value with
      | none => exact absurd taken requestHelp_ne_more
      | some value => contradiction
    · cases named : Utf8.decode? name >>= Flag.ofLong? with
      | none => simp [named] at taken
      | some flag =>
          rcases Option.bind_eq_some_iff.mp named with ⟨text, decoded, isFlag⟩
          obtain rfl := Flag.ofLong?_eq_some_iff.mp isFlag
          obtain rfl := Utf8.decode?_eq_some_iff.mp decoded
          rw [named] at taken
          cases value with
          | none => exact ⟨flag, .inl ⟨eq_of_splitEquals_none cut, taken⟩⟩
          | some value => exact ⟨flag, .inr ⟨value, eq_of_splitEquals cut, taken⟩⟩
  · rintro ⟨flag, taken⟩
    have decoded : Utf8.decode? (Utf8.encode flag.longName.toList) = some flag.longName.toList :=
      Utf8.decode?_eq_some_iff.mpr rfl
    have notHelp : flag.longName.toList ≠ ['h', 'e', 'l', 'p'] := by cases flag <;> decide
    have isFlag : Flag.ofLong? flag.longName.toList = some flag :=
      Flag.ofLong?_eq_some_iff.mpr rfl
    rcases taken with ⟨rfl, expected⟩ | ⟨value, rfl, attached⟩
    · simpa [takeLong, splitEquals_of_not_mem (equals_not_mem_longName flag), decoded, notHelp,
        isFlag] using expected
    · simpa [takeLong, splitEquals_append (equals_not_mem_longName flag), decoded, notHelp,
        isFlag] using attached

/-- An argument after its one dash: the letter of an option, alone or with a value behind it. -/
theorem takeShort_eq_more_iff {body : Bytes} :
    reading.takeShort body = .more next ↔
      ∃ flag, body = Utf8.encodeChar flag.shortName ∧ reading.expect flag = .more next ∨
        ∃ value, (body = Utf8.encodeChar flag.shortName ++ equals :: value ∨
            value ≠ [] ∧ value.head? ≠ some equals ∧
              body = Utf8.encodeChar flag.shortName ++ value) ∧
          reading.attach flag value = .more next := by
  constructor
  · intro taken
    unfold takeShort at taken
    split at taken
    · next name later found =>
        rcases Utf8.exists_of_items_eq_cons found with ⟨rest, rfl, _⟩
        simp only [List.drop_left] at taken
        split at taken
        · exact absurd taken requestHelp_ne_more
        · cases named : Flag.ofShort? name with
          | none => simp [named] at taken
          | some flag =>
              obtain rfl := Flag.ofShort?_eq_some_iff.mp named
              rw [named] at taken
              cases rest with
              | nil => exact ⟨flag, .inl ⟨List.append_nil _, taken⟩⟩
              | cons first rest =>
                  by_cases isEquals : first = equals
                  · subst isEquals
                    exact ⟨flag, .inr ⟨rest, .inl rfl, by simpa using taken⟩⟩
                  · refine ⟨flag, .inr ⟨first :: rest, .inr ⟨nofun, ?_, rfl⟩, ?_⟩⟩
                    · simpa using isEquals
                    · simpa [isEquals] using taken
    · contradiction
  · rintro ⟨flag, taken⟩
    have found (rest : Bytes) : Utf8.items (Utf8.encodeChar flag.shortName ++ rest) =
        .scalar flag.shortName :: Utf8.items rest :=
      Utf8.itemsFrom_encodeChar_append flag.shortName rest
    have notHelp : flag.shortName ≠ 'h' := by cases flag <;> decide
    have isFlag : Flag.ofShort? flag.shortName = some flag := Flag.ofShort?_eq_some_iff.mpr rfl
    rcases taken with ⟨rfl, expected⟩ | ⟨value, rfl | ⟨some, unequal, rfl⟩, attached⟩
    · have alone := found []
      rw [List.append_nil] at alone
      simpa [takeShort, alone, notHelp, isFlag] using expected
    · simpa [takeShort, found, notHelp, isFlag] using attached
    · rcases List.exists_cons_of_ne_nil some with ⟨first, rest, rfl⟩
      have other : first ≠ equals := by simpa using unequal
      simpa [takeShort, found, notHelp, isFlag, other] using attached

theorem take_long {body : Bytes} (named : body ≠ []) :
    reading.take (dash :: dash :: body) = reading.takeLong body := by
  simp [take, named]

theorem take_short {body : Bytes} (named : body ≠ []) (single : body.head? ≠ some dash) :
    reading.take (dash :: body) = reading.takeShort body := by
  rcases List.exists_cons_of_ne_nil named with ⟨first, rest, rfl⟩
  have other : ¬dash = first := by simpa [eq_comm] using single
  simp [take, Ne.symm other, other]

theorem take_plain (plain : IsPlain argument) :
    reading.take argument = reading.takePlain argument := by
  rcases plain with noDash | rfl
  · cases argument with
    | nil => rfl
    | cons first rest =>
        have other : ¬dash = first := by simpa [eq_comm] using noDash
        simp [take, Ne.symm other, other]
  · rfl

theorem take_long_append (flag : Flag) (rest : Bytes) :
    reading.take (flag.long ++ rest) =
      reading.takeLong (Utf8.encode flag.longName.toList ++ rest) := by
  apply take_long
  cases flag <;> nofun

theorem take_short_append (flag : Flag) (rest : Bytes) :
    reading.take (flag.short ++ rest) =
      reading.takeShort (Utf8.encodeChar flag.shortName ++ rest) := by
  apply take_short
  · cases flag <;> nofun
  · cases flag <;> exact fun same => absurd (Option.some.inj same) (by decide)

/-- The four forms of an argument. -/
theorem form (argument : Bytes) :
    argument = [dash, dash] ∨
      (∃ body, argument = dash :: dash :: body ∧ body ≠ []) ∨
      (∃ body, argument = dash :: body ∧ body ≠ [] ∧ body.head? ≠ some dash) ∨
      IsPlain argument := by
  rcases argument with _ | ⟨first, rest⟩
  · exact .inr (.inr (.inr (.inl nofun)))
  by_cases isDash : first = dash
  · subst isDash
    rcases rest with _ | ⟨second, body⟩
    · exact .inr (.inr (.inr (.inr rfl)))
    by_cases isDash : second = dash
    · subst isDash
      rcases body with _ | ⟨third, body⟩
      · exact .inl rfl
      · exact .inr (.inl ⟨_, rfl, nofun⟩)
    · exact .inr (.inr (.inl ⟨_, rfl, nofun, by simpa using isDash⟩))
  · exact .inr (.inr (.inr (.inl (by simpa using isDash))))

/-- An argument begins an option, gives one together with its value, or is the value of the option
that came before it. -/
theorem take_eq_more_iff :
    reading.take argument = .more next ↔
      (∃ flag, (argument = flag.long ∨ argument = flag.short) ∧
        reading.expect flag = .more next) ∨
      (∃ flag value, Attaches flag value argument ∧ reading.attach flag value = .more next) ∨
      IsPlain argument ∧ reading.takePlain argument = .more next := by
  constructor
  · intro taken
    rcases form argument with rfl | ⟨body, rfl, named⟩ | ⟨body, rfl, named, single⟩ | plain
    · contradiction
    · rw [take_long named] at taken
      rcases takeLong_eq_more_iff.mp taken with ⟨flag, ⟨rfl, expected⟩ | ⟨value, rfl, attached⟩⟩
      · exact .inl ⟨flag, .inl rfl, expected⟩
      · exact .inr (.inl ⟨flag, value, .long rfl, attached⟩)
    · rw [take_short named single] at taken
      rcases takeShort_eq_more_iff.mp taken with
        ⟨flag, ⟨rfl, expected⟩ | ⟨value, rfl | ⟨some, unequal, rfl⟩, attached⟩⟩
      · exact .inl ⟨flag, .inr rfl, expected⟩
      · exact .inr (.inl ⟨flag, value, .shortEquals rfl, attached⟩)
      · exact .inr (.inl ⟨flag, value, .short some unequal rfl, attached⟩)
    · rw [take_plain plain] at taken
      exact .inr (.inr ⟨plain, taken⟩)
  · rintro (⟨flag, rfl | rfl, expected⟩ | ⟨flag, value, attaches, attached⟩ | ⟨plain, taken⟩)
    · rw [← List.append_nil flag.long, take_long_append, List.append_nil]
      exact takeLong_eq_more_iff.mpr ⟨flag, .inl ⟨rfl, expected⟩⟩
    · rw [← List.append_nil flag.short, take_short_append, List.append_nil]
      exact takeShort_eq_more_iff.mpr ⟨flag, .inl ⟨rfl, expected⟩⟩
    · cases attaches with
      | long same =>
          rw [same, take_long_append]
          exact takeLong_eq_more_iff.mpr ⟨flag, .inr ⟨value, rfl, attached⟩⟩
      | short some unequal same =>
          rw [same, take_short_append]
          exact takeShort_eq_more_iff.mpr
            ⟨flag, .inr ⟨value, .inr ⟨some, unequal, rfl⟩, attached⟩⟩
      | shortEquals same =>
          rw [same, take_short_append]
          exact takeShort_eq_more_iff.mpr ⟨flag, .inr ⟨value, .inl rfl, attached⟩⟩
    · rw [take_plain plain, taken]

/-! ## Nothing comes after two dashes -/

theorem expect_ne_onlyPlain : reading.expect flag ≠ .onlyPlain next := by
  unfold expect
  split <;> nofun

theorem attach_ne_onlyPlain : reading.attach flag value ≠ .onlyPlain next := by
  unfold attach
  split
  · nofun
  · split <;> nofun

theorem requestHelp_ne_onlyPlain : reading.requestHelp ≠ .onlyPlain next := by
  unfold requestHelp
  split <;> nofun

theorem takeLong_ne_onlyPlain {body : Bytes} : reading.takeLong body ≠ .onlyPlain next := by
  unfold takeLong
  dsimp only
  split
  · split
    · exact requestHelp_ne_onlyPlain
    · nofun
  · split
    · exact attach_ne_onlyPlain
    · exact expect_ne_onlyPlain
    · nofun

theorem takeShort_ne_onlyPlain {body : Bytes} : reading.takeShort body ≠ .onlyPlain next := by
  unfold takeShort
  split
  · dsimp only
    split
    · exact requestHelp_ne_onlyPlain
    · split
      · exact expect_ne_onlyPlain
      · exact attach_ne_onlyPlain
      · nofun
  · nofun

theorem eq_of_take_eq_onlyPlain (taken : reading.take argument = .onlyPlain next) :
    argument = [dash, dash] := by
  rcases form argument with rfl | ⟨body, rfl, named⟩ | ⟨body, rfl, named, single⟩ | plain
  · rfl
  · rw [take_long named] at taken
    exact absurd taken takeLong_ne_onlyPlain
  · rw [take_short named single] at taken
    exact absurd taken takeShort_ne_onlyPlain
  · rw [take_plain plain, takePlain] at taken
    split at taken <;> contradiction

/-! ## What all arguments do -/

theorem finish_eq_run_iff {arguments : Arguments} :
    reading.finish = .ok (.run arguments) ↔ reading.settle = .ok arguments := by
  unfold finish
  split <;> simp_all

theorem takeAll_cons_eq_run_iff {arguments : Arguments} {argv : List Bytes} :
    reading.takeAll (argument :: argv) = .ok (.run arguments) ↔
      (∃ next, reading.take argument = .more next ∧ next.takeAll argv = .ok (.run arguments)) ∨
      argument = [dash, dash] ∧ argv = [] ∧ reading.settle = .ok arguments := by
  by_cases mark : argument = [dash, dash]
  · have taken : reading.take argument = .onlyPlain reading := if_pos mark
    rw [takeAll, taken]
    cases argv <;> simp [mark, finish_eq_run_iff]
  · rw [takeAll]
    cases taken : reading.take argument with
    | onlyPlain next => exact absurd (eq_of_take_eq_onlyPlain taken) mark
    | more | help | wrong => simp [mark]

/-- Options are settled one after the other: each for the first time, with a value that is not
empty. -/
inductive Settles (arguments : Arguments) : Arguments → List (Flag × Path) → Prop
  | nothing : Settles arguments arguments []
  | next {settled : Arguments} {flag : Flag} {value : Path} {options : List (Flag × Path)} :
      settled.get? flag = none → value ≠ [] → Settles arguments (settled.set value flag) options →
      Settles arguments settled ((flag, value) :: options)

/-- The arguments that a reading still takes: options after those that are settled, or first the
value of the option that is pending. -/
inductive Completes (arguments : Arguments) (reading : Reading) : List Bytes → Prop
  | settled {settled : Arguments} {argv : List Bytes} {options : List (Flag × Path)} :
      reading.settle = .ok settled → Spells argv options → Settles arguments settled options →
      Completes arguments reading argv
  | value {flag : Flag} {value : Path} {argv : List Bytes} {options : List (Flag × Path)} :
      reading.pending = some (flag, none) → IsPlain value → Spells argv options →
      Settles arguments reading.settled ((flag, value) :: options) →
      Completes arguments reading (value :: argv)

/-- An argument that is taken goes in front of those that the next reading takes. -/
theorem Completes.cons {arguments : Arguments} {argv : List Bytes}
    (completes : Completes arguments next argv) (taken : reading.take argument = .more next) :
    Completes arguments reading (argument :: argv) := by
  rcases take_eq_more_iff.mp taken with
    ⟨flag, begins, expected⟩ | ⟨flag, value, attaches, attached⟩ | ⟨plain, taken⟩
  · rcases expect_eq_more_iff.mp expected with ⟨settled, isSettled, rfl⟩
    cases completes with
    | settled unsettled => contradiction
    | value isPending plain spells settles =>
        cases isPending
        exact .settled isSettled (.apart begins plain spells) settles
  · rcases attach_eq_more_iff.mp attached with ⟨settled, given, isSettled, gives, rfl⟩
    rcases settleOne_eq_ok_iff.mp gives with ⟨fresh, nonempty, rfl⟩
    cases completes with
    | settled same spells settles =>
        cases same
        exact .settled isSettled (.attached attaches spells) (.next fresh nonempty settles)
    | value isPending => contradiction
  · rcases takePlain_eq_more_iff.mp taken with ⟨flag, isPending, rfl⟩
    cases completes with
    | settled isSettled spells settles =>
        rcases settleOne_eq_ok_iff.mp isSettled with ⟨fresh, nonempty, rfl⟩
        exact .value isPending plain spells (.next fresh nonempty settles)
    | value other => cases other

/-- The first of the arguments that a reading still takes is taken, or ends the options. -/
theorem Completes.uncons {arguments : Arguments} {argv : List Bytes}
    (completes : Completes arguments reading (argument :: argv)) :
    (∃ next, reading.take argument = .more next ∧ Completes arguments next argv) ∨
      argument = [dash, dash] ∧ argv = [] ∧ reading.settle = .ok arguments := by
  rcases completes with ⟨isSettled, spells, settles⟩ | ⟨isPending, plain, spells, settles⟩
  · cases spells with
    | mark =>
        cases settles
        exact .inr ⟨rfl, rfl, isSettled⟩
    | @apart flag _ _ _ _ begins plain spells =>
        have expected : reading.expect flag = _ := expect_eq_more_iff.mpr ⟨_, isSettled, rfl⟩
        exact .inl ⟨_, take_eq_more_iff.mpr (.inl ⟨flag, begins, expected⟩),
          .value rfl plain spells settles⟩
    | @attached flag value _ _ _ attaches spells =>
        cases settles with
        | next fresh nonempty settles =>
            have gives := settleOne_eq_ok_iff.mpr ⟨fresh, nonempty, rfl⟩
            have attached := attach_eq_more_iff.mpr ⟨_, _, isSettled, gives, rfl⟩
            exact .inl ⟨_, take_eq_more_iff.mpr (.inr (.inl ⟨flag, value, attaches, attached⟩)),
              .settled rfl spells settles⟩
  · cases settles with
    | next fresh nonempty settles =>
        have gives := settleOne_eq_ok_iff.mpr ⟨fresh, nonempty, rfl⟩
        have taken : reading.takePlain argument = _ :=
          takePlain_eq_more_iff.mpr ⟨_, isPending, rfl⟩
        exact .inl ⟨_, take_eq_more_iff.mpr (.inr (.inr ⟨plain, taken⟩)),
          .settled gives spells settles⟩

/-- All arguments together ask for a run exactly if the reading still takes them. -/
theorem takeAll_eq_run_iff {arguments : Arguments} {argv : List Bytes} :
    reading.takeAll argv = .ok (.run arguments) ↔ Completes arguments reading argv := by
  induction argv generalizing reading with
  | nil =>
      rw [takeAll, finish_eq_run_iff]
      constructor
      · exact fun settled => .settled settled .nothing .nothing
      · rintro (⟨isSettled, ⟨⟩, ⟨⟩⟩ | _)
        exact isSettled
  | cons argument argv ih =>
      rw [takeAll_cons_eq_run_iff]
      constructor
      · rintro (⟨next, taken, later⟩ | ⟨rfl, rfl, settled⟩)
        · exact (ih.mp later).cons taken
        · exact .settled settled .mark .nothing
      · intro completes
        rcases completes.uncons with ⟨next, taken, later⟩ | mark
        · exact .inl ⟨next, taken, ih.mpr later⟩
        · exact .inr mark

end Reading

/-! ## What the options are -/

namespace Arguments

@[grind =]
theorem get?_set (arguments : Arguments) (value : Path) (flag other : Flag) :
    (arguments.set value flag).get? other =
      if other = flag then some value else arguments.get? other := by
  cases flag <;> cases other <;> rfl

theorem ext_get? {first second : Arguments} (same : ∀ flag, first.get? flag = second.get? flag) :
    first = second := by
  cases first
  cases second
  simpa [get?] using And.intro (same .input) (And.intro (same .output) (same .config))

end Arguments

theorem Reading.settles_cons_iff {arguments settled : Arguments} {flag : Flag} {value : Path}
    {options : List (Flag × Path)} :
    Settles arguments settled ((flag, value) :: options) ↔
      settled.get? flag = none ∧ value ≠ [] ∧
        Settles arguments (settled.set value flag) options := by
  constructor
  · rintro (_ | ⟨fresh, nonempty, settles⟩)
    exact ⟨fresh, nonempty, settles⟩
  · rintro ⟨fresh, nonempty, settles⟩
    exact .next fresh nonempty settles

/-- Options that are settled are all different, new and not empty, and have their values ever
after. -/
theorem Reading.settles_iff {arguments settled : Arguments} {options : List (Flag × Path)} :
    Settles arguments settled options ↔
      (options.map Prod.fst).Nodup ∧
      (∀ option ∈ options, settled.get? option.1 = none ∧ option.2 ≠ []) ∧
      ∀ flag value, arguments.get? flag = some value ↔
        settled.get? flag = some value ∨ (flag, value) ∈ options := by
  induction options generalizing settled with
  | nil =>
      constructor
      · rintro ⟨⟩
        simp
      · rintro ⟨_, _, same⟩
        obtain rfl : arguments = settled :=
          Arguments.ext_get? fun flag => Option.ext fun value => by simpa using same flag value
        exact .nothing
  | cons option options ih =>
      rcases option with ⟨flag, value⟩
      rw [settles_cons_iff, ih]
      constructor
      · rintro ⟨fresh, nonempty, distinct, others, same⟩
        have apart : ∀ other ∈ options, other.1 ≠ flag ∧ settled.get? other.1 = none := by grind
        refine ⟨?_, ?_, ?_⟩
        · simpa using ⟨fun value member => (apart (flag, value) member).1 rfl, distinct⟩
        · grind
        · grind
      · rintro ⟨distinct, others, same⟩
        have apart : ∀ other ∈ options, other.1 ≠ flag := by grind
        obtain ⟨⟨fresh, nonempty⟩, others⟩ := List.forall_mem_cons.mp others
        refine ⟨fresh, nonempty, (List.nodup_cons.mp distinct).2, ?_, ?_⟩
        · grind
        · grind

/-- The argument vectors that ask for a run are those that spell options of different kinds with
values that are not empty, and those are the values that the run is given. -/
theorem parse_eq_run_iff {argv : List Bytes} {arguments : Arguments} :
    parse argv = .ok (.run arguments) ↔
      ∃ options, Spells argv options ∧ (options.map Prod.fst).Nodup ∧
        (∀ option ∈ options, option.2 ≠ []) ∧
        ∀ flag value, arguments.get? flag = some value ↔ (flag, value) ∈ options := by
  have unset (flag : Flag) : ({} : Arguments).get? flag = none := by cases flag <;> rfl
  rw [parse, Reading.takeAll_eq_run_iff]
  constructor
  · rintro (⟨isSettled, spells, settles⟩ | ⟨isPending, _⟩)
    · cases isSettled
      rcases Reading.settles_iff.mp settles with ⟨distinct, others, same⟩
      refine ⟨_, spells, distinct, fun option member => (others option member).2, ?_⟩
      simpa [unset] using same
    · contradiction
  · rintro ⟨options, spells, distinct, nonempty, same⟩
    refine .settled rfl spells (Reading.settles_iff.mpr ⟨distinct, ?_, ?_⟩)
    · exact fun option member => ⟨unset option.1, nonempty option member⟩
    · simpa [unset] using same

end ClassSizes.CommandLine
