import ClassSizes.Text.Sublist
import ClassSizes.Text.Utf8

/-!
# Class names in slash form

A class map prints binary names (`java.lang.String`); tables key classes by the slash form
(`java/lang/String`), in which the address that ends the name of a lambda proxy is set off by a
plus sign (`Outer$$Lambda+0x...`).

The slash form is made in two passes.  The first makes slashes of all dots; the second makes `+0x`
of every `/0x`, whether the slash was there before or comes from the first pass.
-/

namespace ClassSizes

namespace ClassName

/-- What stands before the address in the name of a lambda proxy, once dots have become slashes. -/
def address : Text := ['/', '0', 'x']

/-- How the slash form writes it. -/
def plusAddress : Text := ['+', '0', 'x']

/-- What the name of a lambda proxy contains. -/
def lambdaMark : Text := ['$', '$', 'L', 'a', 'm', 'b', 'd', 'a']

/-- The slash form of a class name. -/
def slashForm (name : Text) : Text :=
  replaceAll address plusAddress (replaceAll ['.'] ['/'] name)

/-- Whether a class name is that of a lambda proxy. -/
def isLambda (name : Text) : Bool :=
  occursIn lambdaMark name

end ClassName

end ClassSizes
