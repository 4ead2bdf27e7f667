import ClassSizes.Decimal.Basic
import ClassSizes.Text.Alphanumeric
import ClassSizes.Text.Blank
import ClassSizes.Text.Reads

/-!
# Patterns of field values

A directive of a log filter may ask for the value of a field by a regular expression.  No event of
this program is ever held against one, so all that matters is which patterns are well formed: a
filter with a pattern that is not cannot be read.

A pattern is a row of characters, escapes, classes in brackets and groups in parentheses, with `|`
between alternatives and `?`, `*` or `+` after what may be repeated.  Two flags bear on what is well
formed:

* with *Unicode*, which is on at first, a pattern speaks of characters, and the borders of words
  cannot be recognised; without it a pattern speaks of bytes, and must not be able to stop inside a
  character;
* in *verbose* patterns, blanks and comments between the parts do not count.

A closing brace ends the field before it can close anything in its pattern, so that an opening one
is never well formed outside of classes.  Parts must not nest too deep: a group, a class, a
repetition, a row of parts and a choice between alternatives all count as one level.
-/

namespace ClassSizes

namespace Log

namespace Pattern

/-- The flags that bear on what is well formed. -/
structure Flags where
  unicode : Bool := true
  verbose : Bool := false
  deriving DecidableEq, Repr

/-- Turn a flag on or off; all other flags have no part in this. -/
def Flags.set (flags : Flags) (name : Char) (on : Bool) : Flags :=
  if name = 'u' then { flags with unicode := on }
  else if name = 'x' then { flags with verbose := on }
  else flags

/-- The names of all flags, and the dash that turns off the flags after it. -/
def flagNames : List Char := ['i', 'm', 's', 'U', 'u', 'R', 'x', '-']

/-- Pass over blanks and comments; `inComment` says whether a comment is under way. -/
def skipNotes (inComment : Bool) : Text → Text
  | [] => []
  | character :: rest =>
    if inComment then skipNotes (character != '\n') rest
    else if isWhiteSpace character then skipNotes false rest
    else if character = '#' then skipNotes true rest
    else character :: rest

/-- Pass over what does not count between two parts. -/
def skip (flags : Flags) (text : Text) : Text :=
  if flags.verbose then skipNotes false text else text

/-- What a single character or escape stands for. -/
inductive Symbol where
  /-- A code point, or a byte if it is written with two hexadecimal digits. -/
  | literal (value : Nat) (byte : Bool)
  /-- The digits, the blanks or the letters of words, or everything else. -/
  | family (negated : Bool)
  /-- A Unicode category. -/
  | category
  /-- The border of a word, or any place that is none. -/
  | border
  /-- The beginning or the end of a line or of the text. -/
  | edge
  /-- Any character. -/
  | dot
  deriving DecidableEq, Repr

/-- Whether a symbol may stand outside of classes. -/
def Symbol.standsAlone (flags : Flags) : Symbol → Bool
  | literal value byte => flags.unicode || !byte || value < 0x80
  | family negated => flags.unicode || !negated
  | category => flags.unicode
  | border => !flags.unicode
  | edge => true
  | dot => flags.unicode

/-- Whether a symbol may stand in a class. -/
def Symbol.standsInClass (flags : Flags) : Symbol → Bool
  | literal value _ => flags.unicode || value < 0x80
  | family negated => flags.unicode || !negated
  | category => flags.unicode
  | _ => false

/-- Read so many hexadecimal digits, `value` being that of the digits before them. -/
def hexDigits? (flags : Flags) : Nat → Nat → Reads Nat
  | 0, value, text => some (value, text)
  | count + 1, value, text =>
    match skip flags text with
    | [] => none
    | character :: rest =>
      match digitOf? 16 character with
      | some digit => hexDigits? flags count (value * 16 + digit) rest
      | none => none

/-- Read the code point that so many hexadecimal digits stand for. -/
def codePoint? (flags : Flags) (count : Nat) (text : Text) : Option (Symbol × Text) :=
  match hexDigits? flags count 0 text with
  | some (value, rest) =>
    if value.isValidChar then some (.literal value (count = 2), rest) else none
  | none => none

/-- The letters of the categories that have a name of one letter. -/
def categoryNames : List Char := ['c', 'l', 'm', 'n', 'p', 's', 'z']

/-- Read the letter of a category. -/
def category? (flags : Flags) (text : Text) : Option (Symbol × Text) :=
  match skip flags text with
  | [] => none
  | character :: rest =>
    if character.toLower ∈ categoryNames then some (.category, rest) else none

/-- Read an escape after its backslash.  What is neither a letter nor a digit stands for itself. -/
def escape? (flags : Flags) : Reads Symbol
  | [] => none
  | character :: rest =>
    match character with
    | 'x' => codePoint? flags 2 rest
    | 'u' => codePoint? flags 4 rest
    | 'U' => codePoint? flags 8 rest
    | 'p' | 'P' => category? flags rest
    | 'd' | 's' | 'w' => some (.family false, rest)
    | 'D' | 'S' | 'W' => some (.family true, rest)
    | 'b' | 'B' | '<' | '>' => some (.border, rest)
    | 'A' | 'z' => some (.edge, rest)
    | 'a' => some (.literal 0x07 false, rest)
    | 't' => some (.literal 0x09 false, rest)
    | 'n' => some (.literal 0x0A false, rest)
    | 'v' => some (.literal 0x0B false, rest)
    | 'f' => some (.literal 0x0C false, rest)
    | 'r' => some (.literal 0x0D false, rest)
    | _ =>
      if character.toNat < 0x80 ∧ ¬character.isAlphanum then
        some (.literal character.toNat false, rest)
      else none

/-- Read a symbol of a class. -/
def member? (flags : Flags) : Reads Symbol
  | [] => none
  | '\\' :: rest => escape? flags rest
  | character :: rest => some (.literal character.toNat false, rest)

/-- Read a symbol outside of classes. -/
def symbol? (flags : Flags) : Reads Symbol
  | '.' :: rest => some (.dot, rest)
  | '^' :: rest => some (.edge, rest)
  | '$' :: rest => some (.edge, rest)
  | text => member? flags text

/-- The character that comes next in the eyes of a dash that wonders whether it makes a range.  It
looks past blanks and the sign of a comment, but not past the comment. -/
def ahead? (flags : Flags) (text : Text) : Option Char :=
  if flags.verbose then
    match text.dropWhile isWhiteSpace with
    | '#' :: rest => (rest.dropWhile isWhiteSpace).head?
    | rest => rest.head?
  else text.head?

/-- Read a symbol of a class, or a range from one to another that does not come before it. -/
def range? (flags : Flags) (text : Text) : Option Text := do
  let (first, rest) ← member? flags text
  let single := if first.standsInClass flags then some (skip flags rest) else none
  match skip flags rest with
  | '-' :: rest =>
    if ahead? flags rest = some ']' ∨ ahead? flags rest = some '-' then single
    else
      let (last, rest) ← member? flags (skip flags rest)
      match first, last with
      | .literal low _, .literal high _ =>
        if low ≤ high ∧ first.standsInClass flags ∧ last.standsInClass flags then some rest
        else none
      | _, _ => none
  | _ => single

/-- The names of the classes of ASCII. -/
def asciiClasses : List String :=
  ["alnum", "alpha", "ascii", "blank", "cntrl", "digit", "graph", "lower", "print", "punct",
    "space", "upper", "word", "xdigit"]

/-- Read the name of a class of ASCII after the bracket that opens it, and say whether the class is
negated. -/
def asciiClass? : Reads Bool
  | ':' :: rest =>
    let (negated, rest) := match rest with
      | '^' :: rest => (true, rest)
      | _ => (false, rest)
    match rest.dropWhile (· != ':') with
    | ':' :: ']' :: after =>
      let name := String.ofList (rest.takeWhile (· != ':'))
      if name ∈ asciiClasses then some (negated, after) else none
    | _ => none
  | _ => none

/-- How many levels some parts take up that stand side by side. -/
def levelsOf : List Nat → Nat
  | [] => 0
  | [levels] => levels
  | levels => levels.foldl max 0 + 1

/-- What has been read of a class. -/
structure ClassReading where
  /-- The levels of the items since the last operator, newest first. -/
  items : List Nat := []
  /-- The levels of all that stands before that operator. -/
  left : Option Nat := none

/-- The levels that a class takes up inside its brackets. -/
def ClassReading.levels (reading : ClassReading) : Nat :=
  match reading.left with
  | none => levelsOf reading.items
  | some left => max left (levelsOf reading.items) + 1

/-- Add an item to a class. -/
def ClassReading.add (reading : ClassReading) (levels : Nat) : ClassReading :=
  { reading with items := levels :: reading.items }

/-- Read an operator between two parts of a class. -/
def ClassReading.operate (reading : ClassReading) : ClassReading where
  left := some reading.levels

/-- Read the dashes at the front of a class, which stand for themselves; `inComment` says whether
a comment is under way. -/
def readDashes (flags : Flags) (inComment : Bool) (reading : ClassReading) :
    Text → ClassReading × Text
  | [] => (reading, [])
  | character :: rest =>
    if inComment then readDashes flags (character != '\n') reading rest
    else if character = '-' then readDashes flags false (reading.add 0) rest
    else if flags.verbose ∧ isWhiteSpace character then readDashes flags false reading rest
    else if flags.verbose ∧ character = '#' then readDashes flags true reading rest
    else (reading, character :: rest)

/-- Read what opens a class after its bracket: a caret negates it, and a closing bracket that comes
first stands for itself. -/
def openClass? (flags : Flags) (text : Text) : Option (ClassReading × Text) :=
  let (negated, text) := match skip flags text with
    | '^' :: rest => (true, skip flags rest)
    | text => (false, text)
  if negated ∧ ¬flags.unicode then none
  else
    match text with
    | ']' :: rest => some ({ items := [0] }, rest)
    | text => some (readDashes flags false {} text)

/-- Read the rest of a class, which may stand in other classes, and say how many levels the
outermost one takes up. -/
def classFrom (flags : Flags) : Nat → ClassReading → List ClassReading → Reads Nat
  | 0, _, _, _ => none
  | fuel + 1, reading, outer, text =>
    match skip flags text with
    | [] => none
    | '[' :: rest =>
      match asciiClass? rest with
      | some (negated, rest) =>
        if negated ∧ ¬flags.unicode then none
        else classFrom flags fuel (reading.add 0) outer rest
      | none =>
        match openClass? flags rest with
        | some (inner, rest) => classFrom flags fuel inner (reading :: outer) rest
        | none => none
    | ']' :: rest =>
      match outer with
      | [] => some (reading.levels + 1, rest)
      | around :: outer => classFrom flags fuel (around.add (reading.levels + 1)) outer rest
    | '&' :: '&' :: rest => classFrom flags fuel reading.operate outer rest
    | '-' :: '-' :: rest => classFrom flags fuel reading.operate outer rest
    | '~' :: '~' :: rest => classFrom flags fuel reading.operate outer rest
    | text =>
      match range? flags text with
      | some rest => classFrom flags fuel (reading.add 0) outer rest
      | none => none

/-- Read a class after the bracket that opens it, and say how many levels it takes up. -/
def class? (flags : Flags) (text : Text) : Option (Nat × Text) :=
  match openClass? flags text with
  | some (reading, rest) => classFrom flags (text.length + 1) reading [] rest
  | none => none

/-- Read flags up to the colon that begins a group, or the parenthesis that makes them hold for the
rest of the group around them; the latter have to be some.  No flag comes twice, and a dash is not
the last of them. -/
def flagsFrom (flags : Flags) (seen : List Char) : Text → Option ((Flags × Bool) × Text)
  | [] => none
  | character :: rest =>
    if character = ':' then
      if seen.head? = some '-' then none else some ((flags, true), rest)
    else if character = ')' then
      if seen = [] ∨ seen.head? = some '-' then none else some ((flags, false), rest)
    else if character ∈ flagNames ∧ character ∉ seen then
      flagsFrom (flags.set character ('-' ∉ seen)) (character :: seen) rest
    else none

/-- Whether a text can be the name of a group. -/
def isGroupName : Text → Bool
  | [] => false
  | first :: rest =>
    (first == '_' || isAlphabetic first) &&
      rest.all fun character => ['_', '.', '[', ']'].contains character || isAlphanumeric character

/-- What has been read of a group, or of a pattern outside its groups. -/
structure Group where
  flags : Flags := {}
  /-- The levels of the parts of the alternative under way, newest first. -/
  parts : List Nat := []
  /-- The levels of the alternatives before it. -/
  alternatives : List Nat := []
  deriving Repr

/-- The levels that a group takes up between its parentheses. -/
def Group.levels (group : Group) : Nat :=
  levelsOf (levelsOf group.parts :: group.alternatives)

/-- Add a part to a group. -/
def Group.add (group : Group) (levels : Nat) : Group :=
  { group with parts := levels :: group.parts }

/-- Begin the next alternative of a group. -/
def Group.choose (group : Group) : Group :=
  { group with parts := [], alternatives := levelsOf group.parts :: group.alternatives }

/-- Repeat the last part of a group, if it has one. -/
def Group.repeat? (group : Group) : Option Group :=
  match group.parts with
  | [] => none
  | last :: parts => some { group with parts := (last + 1) :: parts }

/-- Where the reading of a pattern stands. -/
structure Reading where
  /-- The innermost group that is open. -/
  group : Group := {}
  /-- The groups around it, the innermost first. -/
  outer : List Group := []
  /-- Whether what was read last may be repeated. -/
  repeatable : Bool := false
  /-- The names of groups. -/
  names : List Text := []
  deriving Repr

namespace Reading

/-- Read a part that takes up so many levels. -/
def add (reading : Reading) (levels : Nat) : Reading :=
  { reading with group := reading.group.add levels, repeatable := true }

/-- Begin a group with the given flags. -/
def enter (reading : Reading) (flags : Flags) : Reading :=
  { reading with
    group := { flags }, outer := reading.group :: reading.outer, repeatable := false }

/-- Let flags hold for the rest of the group. -/
def setFlags (reading : Reading) (flags : Flags) : Reading :=
  { reading with group := { reading.group.add 0 with flags }, repeatable := false }

/-- Begin a group with a name that no other group has. -/
def enterNamed? (reading : Reading) (text : Text) : Option (Reading × Text) :=
  let name := text.takeWhile (· != '>')
  match text.dropWhile (· != '>') with
  | [] => none
  | _ :: rest =>
    if isGroupName name ∧ name ∉ reading.names then
      some ({ reading.enter reading.group.flags with names := name :: reading.names }, rest)
    else none

/-- Read what follows an opening parenthesis. -/
def enter? (reading : Reading) (text : Text) : Option (Reading × Text) :=
  match skip reading.group.flags text with
  | '?' :: 'P' :: '<' :: rest => reading.enterNamed? rest
  | '?' :: '<' :: rest => reading.enterNamed? rest
  | '?' :: rest =>
    match flagsFrom reading.group.flags [] rest with
    | some ((flags, true), rest) => some (reading.enter flags, rest)
    | some ((flags, false), rest) => some (reading.setFlags flags, rest)
    | none => none
  | rest => some (reading.enter reading.group.flags, rest)

/-- End the innermost group. -/
def leave? (reading : Reading) : Option Reading :=
  match reading.outer with
  | [] => none
  | around :: outer =>
    let group := around.add (reading.group.levels + 1)
    some { reading with group, outer, repeatable := true }

/-- Repeat what was read last. -/
def repeat? (reading : Reading) : Option Reading :=
  if reading.repeatable then reading.group.repeat?.map fun group => { reading with group }
  else none

/-- Pass over the question mark that follows a sign of repetition: it prefers the fewest copies. -/
def skipPreference : Text → Text
  | '?' :: rest => rest
  | text => text

/-- Read the part of a pattern that begins with a character. -/
def take? (reading : Reading) (character : Char) (rest : Text) : Option (Reading × Text) :=
  match character with
  | '(' => reading.enter? rest
  | ')' => reading.leave?.map (·, rest)
  | '|' => some ({ reading with group := reading.group.choose, repeatable := false }, rest)
  | '[' => (class? reading.group.flags rest).map fun (levels, rest) => (reading.add levels, rest)
  | '?' | '*' | '+' => reading.repeat?.map (·, skipPreference rest)
  | '{' => none
  | _ =>
    match symbol? reading.group.flags (character :: rest) with
    | some (symbol, rest) =>
      if symbol.standsAlone reading.group.flags then some (reading.add 0, rest) else none
    | none => none

/-- How many levels a pattern may take up. -/
def levelLimit : Nat := 250

/-- Read parts up to the end of a pattern, where no group may be open. -/
def finishes : Nat → Reading → Text → Bool
  | 0, _, _ => false
  | fuel + 1, reading, text =>
    match skip reading.group.flags text with
    | [] => reading.outer.isEmpty && reading.group.levels ≤ levelLimit
    | character :: rest =>
      match reading.take? character rest with
      | some (next, rest) => next.finishes fuel rest
      | none => false

end Reading

/-- Whether a text is a pattern. -/
def isWellFormed (text : Text) : Bool :=
  Reading.finishes (text.length + 1) {} text

end Pattern

end Log

end ClassSizes
