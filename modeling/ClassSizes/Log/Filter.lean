import ClassSizes.Decimal.Basic
import ClassSizes.Log.Event
import ClassSizes.Log.Pattern
import ClassSizes.Text.Alphanumeric
import ClassSizes.Text.Blank
import ClassSizes.Text.Sublist

/-!
# Log filters

A filter is a list of directives with commas between them.  A directive has up to four parts,
`target[span{field}]=level`: it speaks of the events whose target begins with `target` and which
carry all the named fields, and lets pass those that matter at least as much as `level`.  A
directive that names a span, or gives a field a value, speaks of no event outside a span, and this
program has no spans.  The value of a field is a number or a pattern.

Of all directives that speak of an event the most specific decides: the one with the longest
target, then the one with the most fields; a later directive takes the place of an earlier one that
is just as specific.  An event of which no directive speaks does not pass.
-/

namespace ClassSizes

namespace Log

/-- How far a directive lets events pass: up to a level, or none at all. -/
abbrev Threshold := Option Level

/-- The rank of the last level that passes. -/
def Threshold.rank : Threshold → Nat
  | some level => level.rank
  | none => 0

/-- The lower-case form of an ASCII letter. -/
def lowerCase (text : Text) : Text :=
  text.map Char.toLower

/-- The threshold of a number. -/
def thresholdOfNumber? : Nat → Option Threshold
  | 0 => some none
  | 1 => some (some .error)
  | 2 => some (some .warn)
  | 3 => some (some .info)
  | 4 => some (some .debug)
  | 5 => some (some .trace)
  | _ => none

/-- The value of an unsigned numeral, with at most one plus sign in front. -/
def numeral? (text : Text) : Option Nat :=
  let digits := match text with
    | '+' :: rest => rest
    | _ => text
  if digits ≠ [] ∧ digits.all Char.isDigit then some (valueOfDigits 10 digits) else none

/-- The threshold that a name or number stands for; the empty name stands for errors. -/
def threshold? (text : Text) : Option Threshold :=
  match numeral? text >>= thresholdOfNumber? with
  | some threshold => some threshold
  | none =>
    match String.ofList (lowerCase text) with
    | "" => some (some .error)
    | "error" => some (some .error)
    | "warn" => some (some .warn)
    | "info" => some (some .info)
    | "debug" => some (some .debug)
    | "trace" => some (some .trace)
    | "off" => some none
    | _ => none

/-- Whether a text is a decimal number without a sign, with digits on at least one side of its
point. -/
def isUnsigned (text : Text) : Bool :=
  let whole := text.takeWhile Char.isDigit
  let rest := text.dropWhile Char.isDigit
  let (fraction, rest) := match rest with
    | '.' :: rest => (rest.takeWhile Char.isDigit, rest.dropWhile Char.isDigit)
    | _ => ([], rest)
  let exponent := match rest with
    | 'e' :: '+' :: digits | 'e' :: '-' :: digits | 'E' :: '+' :: digits | 'E' :: '-' :: digits =>
      digits != [] && digits.all Char.isDigit
    | 'e' :: digits | 'E' :: digits => digits != [] && digits.all Char.isDigit
    | rest => rest == []
  (whole != [] || fraction != []) && exponent

/-- Whether a text is a number, an infinity or a value that is no number. -/
def isNumber (text : Text) : Bool :=
  let body := match text with
    | '+' :: rest | '-' :: rest => rest
    | _ => text
  ["inf", "infinity", "nan"].contains (String.ofList (lowerCase body)) || isUnsigned body

/-- Whether a field can be read: the value after its equals sign, if it has one, is a number or a
pattern.  A second equals sign ends the value. -/
def isField (field : Text) : Bool :=
  match cutAt '=' field with
  | _ :: value :: _ => isNumber value || Pattern.isWellFormed value
  | _ => true

/-- What is wrong with a filter. -/
inductive Defect where
  /-- It cannot be read. -/
  | malformed
  /-- A part of it begins or ends inside a character, which nobody recovers from. -/
  | torn
  deriving DecidableEq, Repr

/-- One directive of a filter. -/
structure Directive where
  target : Option Text := none
  /-- The name of a span. -/
  span : Option Text := none
  /-- The fields, each as it is written. -/
  fields : List Text := []
  threshold : Threshold := some .trace
  deriving DecidableEq, Repr

namespace Directive

/-- Where the reading of a directive stands; a part that is under way has the place where it
starts. -/
inductive Part where
  | start
  /-- A target, or a level that stands alone. -/
  | first (origin : Nat)
  /-- After an opening bracket. -/
  | span (origin : Nat)
  /-- After an opening brace. -/
  | field (origin : Nat)
  /-- After a closing brace. -/
  | fieldsEnd
  /-- After a closing bracket. -/
  | spanEnd
  /-- After an equals sign. -/
  | level (origin : Nat)
  deriving DecidableEq, Repr

/-- A directive that is being read. -/
structure Reading where
  directive : Directive := {}
  part : Part := .start

/-- Whether a directive may begin with a character other than a bracket. -/
def beginsTarget (character : Char) : Bool :=
  isAlphanumeric character || character == '-' || character == ':' || character == '_'

/-- Every character of a text with the number of bytes before it, counted from `place`. -/
def placesFrom : Nat → Text → List (Char × Nat)
  | _, [] => []
  | place, character :: rest =>
    (character, place) :: placesFrom (place + (Utf8.encodeChar character).length) rest

/-- The text after so many bytes, unless they end inside a character. -/
def dropBytes? : Nat → Text → Option Text
  | 0, text => some text
  | _ + 1, [] => none
  | count + 1, character :: rest =>
    let size := (Utf8.encodeChar character).length
    if size ≤ count + 1 then dropBytes? (count + 1 - size) rest else none

/-- So many bytes at the front of a text, unless they end inside a character. -/
def takeBytes? : Nat → Text → Option Text
  | 0, _ => some []
  | _ + 1, [] => none
  | count + 1, character :: rest =>
    let size := (Utf8.encodeChar character).length
    if size ≤ count + 1 then (takeBytes? (count + 1 - size) rest).map (character :: ·) else none

/-- The part of a text between two places. -/
def slice (text : Text) (first last : Nat) : Except Defect Text :=
  match dropBytes? first text >>= takeBytes? (last - first) with
  | some part => .ok part
  | none => .error .torn

/-- The part of a text from a place on. -/
def sliceFrom (text : Text) (first : Nat) : Except Defect Text :=
  match dropBytes? first text with
  | some part => .ok part
  | none => .error .torn

/-- Read the character at a place.  Places are counted without the blanks at the front of the
text, but parts are cut from the whole text: blanks in front shift every part to the left. -/
def Reading.take (text : Text) (reading : Reading) : Char × Nat → Except Defect Reading
  | (character, place) =>
    match reading.part with
    | .start =>
      if character = '[' then .ok { reading with part := .span (place + 1) }
      else if beginsTarget character then .ok { reading with part := .first place }
      else .error .malformed
    | .first origin =>
      if character = '=' ∨ character = '[' then
        (slice text origin place).map fun target =>
          { directive := { reading.directive with target := some target }
            part := if character = '=' then .level (place + 1) else .span (place + 1) }
      else .ok reading
    | .span origin =>
      if character = ']' then
        (slice text origin place).map fun name =>
          { directive := { reading.directive with span := some name }, part := .spanEnd }
      else if character = '\x7b' then
        (slice text origin place).map fun name =>
          { directive := { reading.directive with span := if name = [] then none else some name }
            part := .field (place + 1) }
      else .ok reading
    | .field origin =>
      if character ≠ '\x7d' then .ok reading
      else
        match slice text origin place with
        | .error defect => .error defect
        | .ok field =>
          if field ≠ [] ∧ isField field then
            let fields := reading.directive.fields ++ [field]
            .ok { directive := { reading.directive with fields }, part := .fieldsEnd }
          else .error .malformed
    | .fieldsEnd =>
      if character = ']' then .ok { reading with part := .spanEnd } else .error .malformed
    | .spanEnd =>
      if character = '=' then .ok { reading with part := .level (place + 1) }
      else .error .malformed
    | .level _ => .ok reading

/-- The directive that the end of its text completes. -/
def Reading.finish (text : Text) (reading : Reading) : Except Defect Directive :=
  match reading.part with
  | .first origin =>
    (sliceFrom text origin).map fun name =>
      match threshold? name with
      | some threshold => { reading.directive with threshold }
      | none => { reading.directive with target := some name }
  | .level origin =>
    match sliceFrom text origin with
    | .error defect => .error defect
    | .ok [] => .ok reading.directive
    | .ok name =>
      match threshold? name with
      | some threshold => .ok { reading.directive with threshold }
      | none => .error .malformed
  | .spanEnd => .ok reading.directive
  | _ => .error .malformed

/-- A text without the blanks at both ends. -/
def trim (text : Text) : Text :=
  ((text.dropWhile isWhiteSpace).reverse.dropWhile isWhiteSpace).reverse

/-- Read a directive. -/
def ofText (text : Text) : Except Defect Directive :=
  (placesFrom 0 (trim text)).foldlM (Reading.take text) {} >>= Reading.finish text

/-- Whether a directive speaks of events outside all spans. -/
def isStatic (directive : Directive) : Bool :=
  directive.span.isNone && directive.fields.all fun field => !field.contains '='

/-- Whether an event carries a field. -/
def carries (event : Event) (field : Text) : Bool :=
  field == "message".toList || event.fields.any fun (name, _) => name.toList == field

/-- Whether a directive speaks of an event. -/
def concerns (directive : Directive) (event : Event) : Bool :=
  directive.isStatic &&
    directive.target.all (fun target => target.isPrefixOf Event.target.toList) &&
    directive.fields.all (carries event)

/-- How specific a directive is about the events of which it speaks. -/
def weight (directive : Directive) : Nat × Nat :=
  (directive.target.elim 0 (·.length + 1), directive.fields.length)

/-- Whether a directive decides where another one speaks too: it is more specific, or as specific
and with fields that do not come first in the alphabet. -/
def outweighs (later earlier : Directive) : Bool :=
  match compareLex (compareOn (·.1)) (compareOn (·.2)) later.weight earlier.weight with
  | .gt => true
  | .lt => false
  | .eq => !(later.fields < earlier.fields)

end Directive

/-- A filter: its directives, in order. -/
abbrev Filter := List Directive

namespace Filter

/-- Read a filter up to its first defect; directives that are empty are passed over. -/
def ofText (text : Text) : Except Defect Filter :=
  ((cutAt ',' text).filter (· ≠ [])).mapM Directive.ofText

/-- The directive that decides about an event. -/
def decisive? (filter : Filter) (event : Event) : Option Directive :=
  (filter.filter (·.concerns event)).foldl
    (fun best directive =>
      match best with
      | none => some directive
      | some earlier => if directive.outweighs earlier then some directive else best)
    none

/-- Whether an event passes. -/
def passes (filter : Filter) (event : Event) : Bool :=
  match filter.decisive? event with
  | some directive => event.level.rank ≤ directive.threshold.rank
  | none => false

/-- The filter that is used when none is given or the given one cannot be read. -/
def fallback : Filter :=
  [{ threshold := some .warn }]

/-- The filter of a setting that may be missing or unreadable; there is none if a part of it is
torn. -/
def ofSetting? (setting : Option Bytes) : Option Filter :=
  match (setting >>= Utf8.decode?).map ofText with
  | some (.ok filter) => some filter
  | some (.error .torn) => none
  | some (.error .malformed) | none => some fallback

end Filter

end Log

end ClassSizes
