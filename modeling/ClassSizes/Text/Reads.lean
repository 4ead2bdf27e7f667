import ClassSizes.Text.Utf8

/-!
# Readers of text

A reader takes what it wants from the front of a text and returns what it has read and the text
that is left, or nothing if the text does not begin with what it reads.
-/

namespace ClassSizes

/-- A reader of the front of a text. -/
abbrev Reads (α : Type) := Text → Option (α × Text)

/-- Read the given characters and nothing else. -/
def literal? (expected text : Text) : Option Text :=
  if expected.isPrefixOf text then some (text.drop expected.length) else none

end ClassSizes
