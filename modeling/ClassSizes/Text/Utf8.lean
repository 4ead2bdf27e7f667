/-!
# UTF-8 as an automaton on bytes

Between two bytes a decoder knows either that it stands between characters, or which bits of the
character under way it has read, how many continuation bytes are due, and the range from which the
next one must come.  That range is the whole difficulty of UTF-8: it is narrower after the leading
bytes `E0`, `ED`, `F0` and `F4`, which is what keeps out overlong forms, surrogates and values
above `U+10FFFF`.

A byte outside the range ends the character under way as *noise* and is then read again as if it
stood between characters.  Noise is therefore always a maximal subpart: a prefix of some encoding
that was cut short, or one byte that begins no character.  Every reading of bytes in this library
(strict, lossy, or for display) is a view of the one list of items that the automaton emits.
-/

namespace ClassSizes

/-- A raw byte string. -/
abbrev Bytes := List UInt8

/-- Text, as the list of its Unicode scalar values. -/
abbrev Text := List Char

namespace Utf8

/-- What the decoder has found: a character, or a maximal run of bytes that belongs to none. -/
inductive Item where
  | scalar (character : Char)
  | noise
  deriving DecidableEq, Repr

/-- What the decoder knows between two bytes. -/
inductive State where
  /-- The decoder stands between characters. -/
  | start
  /-- `due` more bytes complete the character; the next one lies between `low` and `high`. -/
  | inside (bits due low high : Nat)
  deriving DecidableEq, Repr

/-- The state after a byte that begins a longer character, if the byte does so. -/
def lead (byte : UInt8) : Option State :=
  let value := byte.toNat
  if 0xC2 ≤ value ∧ value ≤ 0xDF then some (.inside (value - 0xC0) 1 0x80 0xBF)
  else if value = 0xE0 then some (.inside 0 2 0xA0 0xBF)
  else if value = 0xED then some (.inside 0xD 2 0x80 0x9F)
  else if 0xE1 ≤ value ∧ value ≤ 0xEF then some (.inside (value - 0xE0) 2 0x80 0xBF)
  else if value = 0xF0 then some (.inside 0 3 0x90 0xBF)
  else if 0xF1 ≤ value ∧ value ≤ 0xF3 then some (.inside (value - 0xF0) 3 0x80 0xBF)
  else if value = 0xF4 then some (.inside 4 3 0x80 0x8F)
  else none

/-- Read a byte between characters. -/
def begin (byte : UInt8) : List Item × State :=
  if byte.toNat < 0x80 then ([.scalar (Char.ofNat byte.toNat)], .start)
  else
    match lead byte with
    | some state => ([], state)
    | none => ([.noise], .start)

/-- Read one byte.  A byte that does not continue the character under way makes noise of it and
is read as the beginning of the next one. -/
def step : State → UInt8 → List Item × State
  | .start, byte => begin byte
  | .inside bits due low high, byte =>
    if low ≤ byte.toNat ∧ byte.toNat ≤ high then
      let value := bits * 64 + byte.toNat % 64
      if due ≤ 1 then ([.scalar (Char.ofNat value)], .start)
      else ([], .inside value (due - 1) 0x80 0xBF)
    else (.noise :: (begin byte).1, (begin byte).2)

/-- What the end of the input makes of a state: a character under way is noise. -/
def finish : State → List Item
  | .start => []
  | .inside .. => [.noise]

/-- The items found from a state on. -/
def itemsFrom : State → Bytes → List Item
  | state, [] => finish state
  | state, byte :: rest => (step state byte).1 ++ itemsFrom (step state byte).2 rest

/-- The items of a byte string. -/
def items (bytes : Bytes) : List Item :=
  itemsFrom .start bytes

/-- The character of an item, if it is one. -/
def Item.scalar? : Item → Option Char
  | .scalar character => some character
  | .noise => none

/-- The character that displays an item: noise shows as the replacement character. -/
def Item.shown : Item → Char
  | .scalar character => character
  | .noise => '\uFFFD'

/-- Whether a byte string is the encoding of a text. -/
def isValid (bytes : Bytes) : Bool :=
  (items bytes).all (·.scalar?.isSome)

/-- The text of a byte string with all noise dropped. -/
def decodeLossy (bytes : Bytes) : Text :=
  (items bytes).filterMap Item.scalar?

/-- The text of a byte string, if it is valid. -/
def decode? (bytes : Bytes) : Option Text :=
  if isValid bytes then some (decodeLossy bytes) else none

/-- A text that has been decoded: the bytes as they are, if they encode it, or else a new text. -/
inductive Decoded where
  | borrowed (text : Text)
  | owned (text : Text)
  deriving DecidableEq, Repr

/-- What has been decoded, however it is kept. -/
def Decoded.text : Decoded → Text
  | .borrowed text => text
  | .owned text => text

/-- Decode a byte string.  Only a byte string that is not valid has its characters copied. -/
def decode (bytes : Bytes) : Decoded :=
  match decode? bytes with
  | some text => .borrowed text
  | none => .owned (decodeLossy bytes)

/-- The text that displays a byte string: every piece of noise shows as one `U+FFFD`. -/
def display (bytes : Bytes) : Text :=
  (items bytes).map Item.shown

/-- The encoding of one character. -/
def encodeChar (character : Char) : Bytes :=
  let value := character.toNat
  let continuation (shift : Nat) : UInt8 := UInt8.ofNat (0x80 + value / shift % 64)
  if value < 0x80 then [UInt8.ofNat value]
  else if value < 0x800 then [UInt8.ofNat (0xC0 + value / 64), continuation 1]
  else if value < 0x10000 then [UInt8.ofNat (0xE0 + value / 4096), continuation 64, continuation 1]
  else
    [UInt8.ofNat (0xF0 + value / 262144), continuation 4096, continuation 64, continuation 1]

/-- The encoding of a text. -/
def encode (text : Text) : Bytes :=
  text.flatMap encodeChar

/-- The length in bytes of the longest valid beginning of a byte string. -/
def validLength (bytes : Bytes) : Nat :=
  (encode ((items bytes).takeWhile (·.scalar?.isSome) |>.filterMap Item.scalar?)).length

@[simp] theorem itemsFrom_nil (state : State) : itemsFrom state [] = finish state := rfl

@[simp] theorem itemsFrom_cons (state : State) (byte : UInt8) (rest : Bytes) :
    itemsFrom state (byte :: rest) = (step state byte).1 ++ itemsFrom (step state byte).2 rest :=
  rfl

@[simp] theorem decodeLossy_nil : decodeLossy [] = [] := rfl

@[simp] theorem text_decode (bytes : Bytes) : (decode bytes).text = decodeLossy bytes := by
  unfold decode decode?
  cases isValid bytes <;> rfl

@[simp] theorem encode_nil : encode [] = [] := rfl

@[simp] theorem encode_cons (character : Char) (rest : Text) :
    encode (character :: rest) = encodeChar character ++ encode rest := by
  simp [encode]

@[simp] theorem encode_append (first second : Text) :
    encode (first ++ second) = encode first ++ encode second := by
  simp [encode]

end Utf8

end ClassSizes
