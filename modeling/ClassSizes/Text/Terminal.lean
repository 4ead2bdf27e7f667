import ClassSizes.Text.Utf8

/-!
# Control sequences

A text that is shown on something else than a terminal loses its control sequences and its control
characters; line ends, tabs and blanks stay.  A sequence begins with an escape character, and the
characters after it decide how far it reaches: one more character, a *control sequence* up to its
final letter, a *device string* or any other string up to its terminator.

White space inside a control sequence shows, and what follows it is shown as well until the next
control character.  There the sequence goes on as if it had never been left.
-/

namespace ClassSizes

namespace Terminal

/-- Where the reading of a text stands. -/
inductive Mode where
  /-- Outside of all sequences. -/
  | ground
  /-- After an escape character. -/
  | escape
  /-- After an escape character and characters that ask for one more. -/
  | escapeMore
  /-- At the beginning of a control sequence. -/
  | control
  /-- In the parameters of a control sequence. -/
  | controlParameters
  /-- After the parameters of a control sequence. -/
  | controlMore
  /-- In a control sequence that makes no sense. -/
  | controlVoid
  /-- At the beginning of a device string. -/
  | device
  /-- In the parameters of a device string. -/
  | deviceParameters
  /-- After the parameters of a device string. -/
  | deviceMore
  /-- In the body of a device string, or in any other string that is passed over. -/
  | body
  /-- In a command to the operating system, which a bell ends. -/
  | command
  deriving DecidableEq, Repr

/-- The mode after an escape character and one more character. -/
def afterEscape (value : Nat) : Mode :=
  if value < 0x20 ∨ 0x7F ≤ value then .escape
  else if value < 0x30 then .escapeMore
  else if value = 0x50 then .device
  else if value = 0x58 ∨ value = 0x5E ∨ value = 0x5F then .body
  else if value = 0x5B then .control
  else if value = 0x5D then .command
  else .ground

/-- The mode after a character in a control sequence: `parameter` comes after the characters of
parameters and `special` after the signs that may stand only in front of them. -/
def afterControl (mode parameter special : Mode) (value : Nat) : Mode :=
  if value < 0x20 ∨ 0x7F ≤ value then mode
  else if value < 0x30 then .controlMore
  else if value < 0x3C then parameter
  else if value < 0x40 then special
  else .ground

/-- The mode after a character at the front of a device string. -/
def afterDevice (mode parameter special : Mode) (value : Nat) : Mode :=
  if value < 0x20 ∨ 0x7F ≤ value then mode
  else if value < 0x30 then .deviceMore
  else if value < 0x3C then parameter
  else if value < 0x40 then special
  else .body

/-- Whether the encoding of a character holds the byte that ends strings. -/
def endsString (character : Char) : Bool :=
  (Utf8.encodeChar character).contains 0x9C

/-- The mode after a character. -/
def next (mode : Mode) (character : Char) : Mode :=
  let value := character.toNat
  if value = 0x18 ∨ value = 0x1A then .ground
  else if value = 0x1B then .escape
  else
    match mode with
    | .ground => .ground
    | .escape => afterEscape value
    | .escapeMore => if 0x30 ≤ value ∧ value < 0x7F then .ground else mode
    | .control => afterControl mode .controlParameters .controlParameters value
    | .controlParameters => afterControl mode .controlParameters .controlVoid value
    | .controlMore => afterControl mode .controlVoid .controlVoid value
    | .controlVoid => if 0x40 ≤ value ∧ value < 0x7F then .ground else mode
    | .device => afterDevice mode .deviceParameters .deviceParameters value
    | .deviceParameters => afterDevice mode .deviceParameters .body value
    | .deviceMore => afterDevice mode .body .body value
    | .body => if endsString character then .ground else mode
    | .command => if value = 0x07 then .ground else mode

/-- Whether a character is one of the control characters that show. -/
def isLayout (character : Char) : Bool :=
  ['\t', '\n', '\x0c', '\r'].contains character

/-- Whether a character shows outside of all sequences. -/
def isPlain (character : Char) : Bool :=
  isLayout character || (0x20 ≤ character.toNat && character.toNat != 0x7F)

/-- Whether a character shows in a mode. -/
def shows : Mode → Char → Bool
  | .ground, character => isPlain character
  | .escape, character | .escapeMore, character | .control, character
  | .controlParameters, character | .controlMore, character | .controlVoid, character =>
    isLayout character
  | _, _ => false

/-- What shows of a text, from a mode on; `shown` says whether the character before did. -/
def visibleFrom (shown : Bool) (mode : Mode) : Text → Text
  | [] => []
  | character :: rest =>
    let visible := if shown then isPlain character else shows mode character
    if visible then
      character :: visibleFrom true (if character.toNat < 0x80 then mode else .ground) rest
    else visibleFrom false (next mode character) rest

/-- What shows of a text. -/
def visible (text : Text) : Text :=
  visibleFrom false .ground text

end Terminal

end ClassSizes
