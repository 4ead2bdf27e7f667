import ClassSizes.Proofs.Text.Strict
import Mathlib.Data.List.Infix
import Mathlib.Data.Nat.Find

/-!
# What lossy decoding drops

Lossy decoding drops maximal subparts and nothing else: where no character begins, it drops the
longest beginning that could have gone on to one, or a single byte if there is none.  The automaton
says nothing while it reads such a beginning, and conversely everything that it reads in silence is
the beginning of an encoding (`cutShort_iff`), because a state inside a character can always be
completed.

Noise therefore never reaches a byte that begins something new.  A byte string may be cut in front
of any byte that does not continue a character and behind any ASCII byte, and its ASCII bytes are
those of the decoded text.
-/

namespace ClassSizes.Utf8

/-! ## One more byte -/

theorem itemsUntil_concat (state : State) (bytes : Bytes) (byte : UInt8) :
    itemsUntil state (bytes ++ [byte]) =
      itemsUntil state bytes ++ (step (stateAfter state bytes) byte).1 := by
  induction bytes generalizing state with
  | nil => exact List.append_nil _
  | cons first rest ih => simp only [List.cons_append, itemsUntil, stateAfter, ih, List.append_assoc]

theorem stateAfter_concat (state : State) (bytes : Bytes) (byte : UInt8) :
    stateAfter state (bytes ++ [byte]) = (step (stateAfter state bytes) byte).2 := by
  induction bytes generalizing state with
  | nil => rfl
  | cons first rest ih => exact ih _

/-! ## Beginnings of characters -/

/-- Bytes that begin the encoding of a character and are not all of it. -/
def CutShort (bytes : Bytes) : Prop :=
  bytes ≠ [] ∧ ∃ character rest, rest ≠ [] ∧ encodeChar character = bytes ++ rest

/-- The range of the next byte is never empty, and at least one byte is due. -/
def State.Open : State → Prop
  | .start => True
  | .inside _ due low high => 1 ≤ due ∧ low ≤ high ∧ high ≤ 0xBF

theorem open_start : State.Open .start :=
  trivial

theorem open_of_lead {byte : UInt8} {state : State} (leads : lead byte = some state) :
    state.Open := by
  simp only [lead] at leads
  -- One case for each range of leading bytes that the encoding tells apart.
  split_ifs at leads <;> cases leads
  all_goals exact ⟨by omega, by omega, by omega⟩

theorem open_begin (byte : UInt8) : (begin byte).2.Open := by
  unfold begin
  split
  · trivial
  · cases leads : lead byte with
    | none => trivial
    | some state => exact open_of_lead leads

theorem open_step (state : State) (byte : UInt8) : (step state byte).2.Open := by
  cases state with
  | start => exact open_begin byte
  | inside bits due low high =>
      simp only [step]
      split
      · split
        · trivial
        · exact ⟨by omega, by omega, by omega⟩
      · exact open_begin byte

theorem State.Open.stateAfter {state : State} (isOpen : state.Open) (bytes : Bytes) :
    (Utf8.stateAfter state bytes).Open := by
  induction bytes generalizing state with
  | nil => exact isOpen
  | cons byte rest ih => exact ih (open_step state byte)

/-- The lowest bytes that are due complete the character under way. -/
theorem exists_completion {bits due low high : Nat} (isOpen : (State.inside bits due low high).Open) :
    ∃ rest character, rest ≠ [] ∧
      itemsFrom (.inside bits due low high) rest = [.scalar character] := by
  induction due generalizing bits low high with
  | zero => exact absurd isOpen.1 (Nat.not_succ_le_zero 0)
  | succ due ih =>
      obtain ⟨_, range, small⟩ := isOpen
      have lowest : (UInt8.ofNat low).toNat = low := toNat_ofNat (by omega)
      have within : low ≤ (UInt8.ofNat low).toNat ∧ (UInt8.ofNat low).toNat ≤ high := by
        rw [lowest]
        exact ⟨Nat.le_refl low, range⟩
      cases due with
      | zero =>
          refine ⟨[UInt8.ofNat low], Char.ofNat (bits * 64 + (UInt8.ofNat low).toNat % 64),
            List.cons_ne_nil _ _, ?_⟩
          simp only [itemsFrom_cons, step, if_pos within, Nat.zero_add, Nat.le_refl, if_true]
          rfl
      | succ due =>
          have stillOpen : State.Open
              (.inside (bits * 64 + (UInt8.ofNat low).toNat % 64) (due + 1) 0x80 0xBF) :=
            ⟨Nat.le_add_left 1 due, by decide, Nat.le_refl _⟩
          obtain ⟨rest, character, _, completed⟩ := ih stillOpen
          refine ⟨UInt8.ofNat low :: rest, character, List.cons_ne_nil _ _, ?_⟩
          simp only [itemsFrom_cons, step, if_pos within, if_neg (show ¬due + 1 + 1 ≤ 1 by omega)]
          exact completed

/-- More bytes are always read as something. -/
theorem itemsFrom_ne_nil {bytes : Bytes} (state : State) (nonempty : bytes ≠ []) :
    itemsFrom state bytes ≠ [] := by
  cases state with
  | start => exact fun nothing => nonempty (eq_nil_of_items_eq_nil nothing)
  | inside bits due low high => exact itemsFrom_inside_ne_nil bits due low high bytes

/-- Bytes that are read in silence leave the decoder inside a character. -/
theorem exists_inside_of_silent {bytes : Bytes} (nonempty : bytes ≠ [])
    (silent : itemsUntil .start bytes = []) :
    ∃ bits due low high, stateAfter .start bytes = .inside bits due low high := by
  cases after : stateAfter .start bytes with
  | start =>
      have whole := itemsFrom_append .start bytes []
      rw [List.append_nil, silent, after] at whole
      exact absurd whole (itemsFrom_ne_nil .start nonempty)
  | inside bits due low high => exact ⟨bits, due, low, high, rfl⟩

/-- The beginnings of characters are the bytes that the decoder reads in silence. -/
theorem cutShort_iff {bytes : Bytes} :
    CutShort bytes ↔ bytes ≠ [] ∧ itemsUntil .start bytes = [] := by
  constructor
  · rintro ⟨nonempty, character, rest, more, encoded⟩
    have read : items (bytes ++ rest) = [.scalar character] := by
      rw [← encoded]
      simpa using items_encode [character]
    rw [items, itemsFrom_append] at read
    rcases List.append_eq_singleton_iff.mp read with ⟨silent, _⟩ | ⟨_, nothing⟩
    · exact ⟨nonempty, silent⟩
    · exact absurd nothing (itemsFrom_ne_nil _ more)
  · rintro ⟨nonempty, silent⟩
    obtain ⟨bits, due, low, high, after⟩ := exists_inside_of_silent nonempty silent
    have isOpen : (stateAfter .start bytes).Open := open_start.stateAfter bytes
    rw [after] at isOpen
    obtain ⟨rest, character, more, completed⟩ := exists_completion isOpen
    have read : items (bytes ++ rest) = [.scalar character] := by
      rw [items, itemsFrom_append, silent, after, completed]
      rfl
    obtain ⟨others, joined, nothing⟩ := exists_of_items_eq_cons read
    rw [eq_nil_of_items_eq_nil nothing, List.append_nil] at joined
    exact ⟨nonempty, character, rest, more, joined.symm⟩

instance (bytes : Bytes) : Decidable (CutShort bytes) :=
  decidable_of_iff _ cutShort_iff.symm

/-! ## Noise -/

/-- How many bytes are dropped together at the front of bytes where no character begins: those of
the longest beginning that could have gone on to a character, or one if there is none. -/
inductive NoiseLength (bytes : Bytes) : Nat → Prop
  | cutShort {cut : Bytes} : cut <+: bytes → CutShort cut →
      (∀ other, other <+: bytes → CutShort other → other.length ≤ cut.length) →
      NoiseLength bytes cut.length
  | single : (∀ other, other <+: bytes → ¬CutShort other) → NoiseLength bytes 1

theorem NoiseLength.pos {bytes : Bytes} {count : Nat} (length : NoiseLength bytes count) :
    0 < count := by
  cases length with
  | cutShort _ short _ => exact List.length_pos_iff.mpr short.1
  | single _ => exact Nat.one_pos

theorem NoiseLength.unique {bytes : Bytes} {count other : Nat} (length : NoiseLength bytes count)
    (again : NoiseLength bytes other) : count = other := by
  cases length with
  | cutShort begins short longest =>
      cases again with
      | cutShort beginsAgain shortAgain longestAgain =>
          exact Nat.le_antisymm (longestAgain _ begins short) (longest _ beginsAgain shortAgain)
      | single noCut => exact absurd short (noCut _ begins)
  | single noCut =>
      cases again with
      | cutShort begins short _ => exact absurd short (noCut _ begins)
      | single _ => rfl

theorem exists_noiseLength (bytes : Bytes) : ∃ count, NoiseLength bytes count := by
  by_cases some_cut : ∃ cut, cut <+: bytes ∧ CutShort cut
  · let greatest := Nat.findGreatest (fun count => CutShort (bytes.take count)) bytes.length
    have taken {cut : Bytes} (begins : cut <+: bytes) (short : CutShort cut) :
        CutShort (bytes.take cut.length) := by
      rwa [← List.prefix_iff_eq_take.mp begins]
    have short : CutShort (bytes.take greatest) := by
      obtain ⟨cut, begins, short⟩ := some_cut
      exact Nat.findGreatest_spec (P := fun count => CutShort (bytes.take count))
        begins.length_le (taken begins short)
    refine ⟨_, .cutShort (List.take_prefix greatest bytes) short fun other begins shorter => ?_⟩
    rw [List.length_take, Nat.min_eq_left (Nat.findGreatest_le bytes.length)]
    exact Nat.le_findGreatest begins.length_le (taken begins shorter)
  · exact ⟨1, .single fun other begins short => some_cut ⟨other, begins, short⟩⟩

/-- There is noise at the front exactly where no character begins. -/
theorem exists_noise_iff {bytes : Bytes} :
    (∃ later, items bytes = .noise :: later) ↔
      bytes ≠ [] ∧ ∀ text, encode text <+: bytes → text = [] := by
  constructor
  · rintro ⟨later, noise⟩
    constructor
    · rintro rfl
      contradiction
    · rintro text ⟨rest, rfl⟩
      rw [items, itemsFrom_encode_append] at noise
      cases text with
      | nil => rfl
      | cons character text => simp at noise
  · rintro ⟨nonempty, noCharacter⟩
    cases found : items bytes with
    | nil => exact absurd (eq_nil_of_items_eq_nil found) nonempty
    | cons item later =>
        cases item with
        | noise => exact ⟨later, rfl⟩
        | scalar character =>
            obtain ⟨rest, rfl, _⟩ := exists_of_items_eq_cons found
            have begins : encode [character] <+: encodeChar character ++ rest := by
              rw [encode_cons, encode_nil, List.append_nil]
              exact List.prefix_append _ rest
            exact absurd (noCharacter _ begins) (List.cons_ne_nil character [])

/-- Noise that the next byte brings out of a character under way leaves that byte to be read from
the start. -/
theorem items_of_itemsFrom_inside {bits due low high : Nat} {rest : Bytes} {later : List Item}
    (noise : itemsFrom (.inside bits due low high) rest = .noise :: later)
    (speaks : ∀ byte ∈ rest.head?, (step (.inside bits due low high) byte).1 ≠ []) :
    items rest = later := by
  cases rest with
  | nil => exact (List.cons.inj noise).2
  | cons byte rest =>
      have said := speaks byte rfl
      rw [itemsFrom_cons, step] at noise
      rw [step] at said
      by_cases within : low ≤ byte.toNat ∧ byte.toNat ≤ high
      · rw [if_pos within] at said noise
        by_cases last : due ≤ 1
        · simp [last] at noise
        · rw [if_neg last] at said
          exact absurd rfl said
      · rw [if_neg within] at noise
        exact (List.cons.inj noise).2

/-- Noise that one byte makes between characters is that byte. -/
theorem items_of_items_cons {byte : UInt8} {rest : Bytes} {later : List Item}
    (noise : items (byte :: rest) = .noise :: later) (speaks : (begin byte).1 ≠ []) :
    items rest = later := by
  rw [items, itemsFrom_cons, step] at noise
  unfold begin at noise speaks
  by_cases ascii : byte.toNat < 0x80
  · simp [ascii] at noise
  · rw [if_neg ascii] at noise speaks
    cases leads : lead byte with
    | none =>
        rw [leads] at noise
        exact (List.cons.inj noise).2
    | some state =>
        rw [leads] at speaks
        exact absurd rfl speaks

/-- A piece of noise is as long as it can be, and what follows it is read from the start. -/
theorem items_drop_of_noiseLength {bytes : Bytes} {later : List Item}
    (noise : items bytes = .noise :: later) {count : Nat} (length : NoiseLength bytes count) :
    items (bytes.drop count) = later := by
  cases length with
  | @cutShort cut begins short longest =>
      obtain ⟨rest, rfl⟩ := begins
      obtain ⟨nonempty, silent⟩ := cutShort_iff.mp short
      obtain ⟨bits, due, low, high, after⟩ := exists_inside_of_silent nonempty silent
      rw [items, itemsFrom_append, silent, after, List.nil_append] at noise
      rw [List.drop_left]
      apply items_of_itemsFrom_inside noise
      intro byte next stillSilent
      obtain ⟨rest, rfl⟩ := List.head?_eq_some_iff.mp next
      -- The beginning could have been longer by this byte.
      have longer : CutShort (cut ++ [byte]) := by
        rw [cutShort_iff, itemsUntil_concat, silent, after, stillSilent]
        exact ⟨by simp, rfl⟩
      have bound := longest _ ⟨rest, by simp⟩ longer
      rw [List.length_append] at bound
      exact absurd bound (Nat.not_succ_le_self cut.length)
  | single noCut =>
      cases bytes with
      | nil => contradiction
      | cons byte rest =>
          apply items_of_items_cons noise
          intro silent
          have short : CutShort [byte] := by
            rw [cutShort_iff]
            exact ⟨List.cons_ne_nil byte [], (List.append_nil _).trans silent⟩
          exact noCut [byte] ⟨rest, rfl⟩ short

/-! ## Decoding -/

@[simp]
theorem decode_encode (text : Text) : decode (encode text) = .borrowed text := by
  rw [decode, decode?_eq_some_iff.mpr rfl]

theorem decode_of_ne_encode {bytes : Bytes} (noText : ∀ text, bytes ≠ encode text) :
    decode bytes = .owned (decodeLossy bytes) := by
  have refused : decode? bytes = none := by
    rw [Option.eq_none_iff_forall_ne_some]
    intro text decoded
    exact noText text (decode?_eq_some_iff.mp decoded)
  rw [decode, refused]

theorem decodeLossy_encode_append (text : Text) (rest : Bytes) :
    decodeLossy (encode text ++ rest) = text ++ decodeLossy rest := by
  rw [decodeLossy, items, itemsFrom_encode_append, List.filterMap_append, List.filterMap_map]
  exact congrArg (· ++ decodeLossy rest) List.filterMap_some

/-- Where no character begins, one piece of noise is dropped. -/
theorem decodeLossy_drop_of_noiseLength {bytes : Bytes} (nonempty : bytes ≠ [])
    (noCharacter : ∀ text, encode text <+: bytes → text = []) {count : Nat}
    (length : NoiseLength bytes count) : decodeLossy bytes = decodeLossy (bytes.drop count) := by
  obtain ⟨later, noise⟩ := exists_noise_iff.mpr ⟨nonempty, noCharacter⟩
  rw [decodeLossy, decodeLossy, noise, items_drop_of_noiseLength noise length]
  rfl

/-- Continuation bytes between characters continue nothing. -/
theorem decodeLossy_of_continuations {bytes : Bytes}
    (continuing : ∀ byte ∈ bytes, 0x80 ≤ byte.toNat ∧ byte.toNat ≤ 0xBF) :
    decodeLossy bytes = [] := by
  induction bytes with
  | nil => rfl
  | cons byte rest ih =>
      have bounds := continuing byte List.mem_cons_self
      have leads : lead byte = none := by
        simp only [lead]
        rw [if_neg (by omega), if_neg (by omega), if_neg (by omega), if_neg (by omega),
          if_neg (by omega), if_neg (by omega), if_neg (by omega)]
      have stray : begin byte = ([.noise], .start) := by
        rw [begin, if_neg (Nat.not_lt.mpr bounds.1), leads]
      rw [decodeLossy, items, itemsFrom_cons, step, stray, List.singleton_append,
        List.filterMap_cons_none rfl]
      exact ih fun other member => continuing other (List.mem_cons_of_mem _ member)

/-- A byte and the continuation bytes behind it are dropped together if no character begins with
them. -/
theorem decodeLossy_of_no_character {first : UInt8} {follow : Bytes}
    (continuing : ∀ byte ∈ follow, 0x80 ≤ byte.toNat ∧ byte.toNat ≤ 0xBF)
    (noCharacter : ∀ text, encode text <+: first :: follow → text = []) :
    decodeLossy (first :: follow) = [] := by
  obtain ⟨count, length⟩ := exists_noiseLength (first :: follow)
  obtain ⟨more, rfl⟩ := Nat.exists_eq_succ_of_ne_zero (Nat.ne_of_gt length.pos)
  rw [decodeLossy_drop_of_noiseLength (List.cons_ne_nil _ _) noCharacter length,
    List.drop_succ_cons]
  exact decodeLossy_of_continuations fun byte member =>
    continuing byte (List.mem_of_mem_drop member)

/-- Only the encoding of a text is decoded without a copy, and then dropping noise would make the
same text.  Decoding passes over a text at the front.  Where no character begins, it drops the
longest beginning that could have gone on to one, or a single byte if there is none.

A byte and the continuation bytes behind it from which no character begins are therefore dropped,
and what follows is kept: stray continuation bytes, characters that are torn, overlong forms,
surrogates, and values above `U+10FFFF`. -/
theorem decode_drops_maximal_subparts (bytes : Bytes) :
    (∀ text, bytes = encode text → decode bytes = .borrowed text ∧ decodeLossy bytes = text) ∧
      ((∀ text, bytes ≠ encode text) → decode bytes = .owned (decodeLossy bytes)) ∧
      (∀ text rest, (decode (encode text ++ rest)).text = text ++ (decode rest).text) ∧
      (bytes ≠ [] → (∀ text, encode text <+: bytes → text = []) →
        ∃ count, NoiseLength bytes count ∧ (∀ other, NoiseLength bytes other → other = count) ∧
          (decode bytes).text = (decode (bytes.drop count)).text) ∧
      (∀ first follow rest, (∀ byte ∈ follow, 0x80 ≤ byte.toNat ∧ byte.toNat ≤ 0xBF) →
        (∀ text, encode text <+: first :: follow → text = []) → BeginsAfresh rest →
        (decode (first :: follow ++ rest)).text = (decode rest).text) := by
  refine ⟨?_, decode_of_ne_encode, ?_, ?_, ?_⟩
  · rintro text rfl
    exact ⟨decode_encode text, decodeLossy_encode text⟩
  · intro text rest
    rw [text_decode, text_decode, decodeLossy_encode_append]
  · intro nonempty noCharacter
    obtain ⟨count, length⟩ := exists_noiseLength bytes
    refine ⟨count, length, fun other again => again.unique length, ?_⟩
    rw [text_decode, text_decode]
    exact decodeLossy_drop_of_noiseLength nonempty noCharacter length
  · intro first follow rest continuing noCharacter afresh
    rw [text_decode, text_decode, decodeLossy_append afresh,
      decodeLossy_of_no_character continuing noCharacter, List.nil_append]

/-- A character that is torn behind its third byte, in front of a letter, and an overlong form of
`NUL`. -/
theorem decode_drops_maximal_subparts_torn_character :
    let torn : Bytes := [0xF0, 0x9F, 0x92, 0x41]
    torn ≠ [] ∧ (∀ text, encode text <+: torn → text = []) ∧ NoiseLength torn 3 ∧
      (decode torn).text = (decode [0x41]).text ∧
      [0x41] = encode ['A'] ∧ decode [0x41] = .borrowed ['A'] ∧
      (∀ text, torn ≠ encode text) ∧ decode torn = .owned ['A'] ∧
      (∀ byte ∈ ([0x80, 0x80] : Bytes), 0x80 ≤ byte.toNat ∧ byte.toNat ≤ 0xBF) ∧
      (∀ text, encode text <+: [0xE0, 0x80, 0x80] → text = []) ∧ BeginsAfresh torn ∧
      (decode (0xE0 :: [0x80, 0x80] ++ torn)).text = (decode torn).text := by
  intro torn
  have noise : items torn = [.noise, .scalar 'A'] := by decide
  obtain ⟨nonempty, noCharacter⟩ := exists_noise_iff.mp ⟨_, noise⟩
  have longest : ∀ other ∈ torn.inits, CutShort other → other.length ≤ 3 := by decide
  have begins : [0xF0, 0x9F, 0x92] <+: torn := by decide
  have length : NoiseLength torn 3 :=
    .cutShort begins (by decide) fun other begins =>
      longest other ((List.mem_inits _ _).mpr begins)
  have noText : ∀ text, torn ≠ encode text := by
    intro text whole
    have invalid := isValid_encode text
    rw [← whole] at invalid
    contradiction
  have continuing : ∀ byte ∈ ([0x80, 0x80] : Bytes), 0x80 ≤ byte.toNat ∧ byte.toNat ≤ 0xBF := by
    simp
  have overlong : items [0xE0, 0x80, 0x80] = [.noise, .noise, .noise] := by decide
  have noOverlong := (exists_noise_iff.mp ⟨_, overlong⟩).2
  have afresh : BeginsAfresh torn := by
    rintro byte ⟨⟩
    exact Or.inr (by decide)
  obtain ⟨borrowed, _⟩ := (decode_drops_maximal_subparts [0x41]).1 ['A'] (by decide)
  obtain ⟨_, owned, _, dropped, vanish⟩ := decode_drops_maximal_subparts torn
  obtain ⟨count, _, unique, same⟩ := dropped nonempty noCharacter
  obtain rfl : 3 = count := unique 3 length
  exact ⟨nonempty, noCharacter, length, same, by decide, borrowed, noText, owned noText,
    continuing, noOverlong, afresh, vanish 0xE0 _ torn continuing noOverlong afresh⟩

/-! ## Cuts -/

/-- An ASCII byte leaves the decoder between characters, whatever it has read before. -/
theorem step_of_ascii {state : State} (sound : state.Sound) {byte : UInt8}
    (ascii : byte.toNat < 0x80) : (step state byte).2 = .start := by
  have begun : (begin byte).2 = .start := by simp [begin, ascii]
  cases state with
  | start => exact begun
  | inside bits due low high =>
      have outside : ¬(low ≤ byte.toNat ∧ byte.toNat ≤ high) := by
        have lowBound := sound.1
        omega
      rw [step, if_neg outside]
      exact begun

/-- Bytes that end in ASCII leave the decoder between characters. -/
theorem stateAfter_of_ascii {bytes : Bytes}
    (ascii : ∀ byte ∈ bytes.getLast?, byte.toNat < 0x80) : stateAfter .start bytes = .start := by
  rcases List.eq_nil_or_concat' bytes with rfl | ⟨body, byte, rfl⟩
  · rfl
  · rw [stateAfter_concat]
    exact step_of_ascii (sound_start.stateAfter body) (ascii byte (by simp))

/-- Noise never reaches across a cut in front of a byte that does not continue a character, nor
across one behind an ASCII byte; and decoding keeps the ASCII bytes, all of them and in order. -/
theorem decodeLossy_safe_cut (first second : Bytes) :
    (BeginsAfresh second ∨ (∀ byte ∈ first.getLast?, byte.toNat < 0x80) →
        decodeLossy (first ++ second) = decodeLossy first ++ decodeLossy second) ∧
      (encode (decodeLossy first)).filter (·.toNat < 0x80) = first.filter (·.toNat < 0x80) := by
  constructor
  · rintro (afresh | ascii)
    · exact decodeLossy_append afresh
    · have whole := itemsFrom_append .start first []
      rw [List.append_nil, stateAfter_of_ascii ascii, itemsFrom_nil, finish, List.append_nil]
        at whole
      rw [decodeLossy, items, itemsFrom_append, stateAfter_of_ascii ascii, ← whole,
        List.filterMap_append]
      rfl
  · rw [← asciiOf_decodeLossy (encode (decodeLossy first)), decodeLossy_encode,
      asciiOf_decodeLossy]

/-- A cut between a torn character and a line end, and one between a line end and a byte that
would have continued the character. -/
theorem decodeLossy_safe_cut_torn_character :
    let torn : Bytes := [0x61, 0xE2, 0x82]
    let ended : Bytes := [0xE2, 0x0A]
    let stray : Bytes := [0x82, 0xAC, 0x62]
    BeginsAfresh ended ∧ decodeLossy (torn ++ ended) = decodeLossy torn ++ decodeLossy ended ∧
      (∀ byte ∈ ended.getLast?, byte.toNat < 0x80) ∧
      decodeLossy (ended ++ stray) = decodeLossy ended ++ decodeLossy stray ∧
      decodeLossy (torn ++ stray) ≠ decodeLossy torn ++ decodeLossy stray := by
  intro torn ended stray
  have afresh : BeginsAfresh ended := by
    rintro byte ⟨⟩
    exact Or.inr (by decide)
  have ascii : ∀ byte ∈ ended.getLast?, byte.toNat < 0x80 := by
    rintro byte ⟨⟩
    decide
  exact ⟨afresh, (decodeLossy_safe_cut torn ended).1 (Or.inl afresh), ascii,
    (decodeLossy_safe_cut ended stray).1 (Or.inr ascii), by decide⟩

end ClassSizes.Utf8
