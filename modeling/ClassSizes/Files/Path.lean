import ClassSizes.Text.Sublist
import ClassSizes.Text.Utf8

/-!
# Paths

A path is any byte string; only `/` has a meaning in it.  Paths are never normalised: joining
and taking the parent cut and paste bytes and leave `..` and doubled slashes as they are.  The one
exception is the end of a path, where empty components and `.` name nothing: the last component of
`a/b//.` is `b`, and its parent is `a`.
-/

namespace ClassSizes

/-- A path as the raw bytes of its name. -/
abbrev Path := Bytes

namespace Path

/-- The byte that separates the components of a path. -/
def slash : UInt8 := 47

/-- The byte that, alone, names the directory itself. -/
def dot : UInt8 := 46

/-- Whether a path begins at the root. -/
def isAbsolute (path : Path) : Bool :=
  path.head? == some slash

/-- The front of a path that is not one of its components: the slash of the root, or a `.` that
stands for the current directory because nothing comes before it. -/
def anchor (path : Path) : Path :=
  if isAbsolute path then [slash]
  else if path = [dot] ∨ [dot, slash].isPrefixOf path then [dot]
  else []

/-- Whether a component names nothing. -/
def isIdle (component : Bytes) : Bool :=
  component == [] || component == [dot]

/-- Drop the components at the end that name nothing. -/
def dropIdle (components : List Bytes) : List Bytes :=
  (components.reverse.dropWhile isIdle).reverse

/-- The components after the anchor, those at the end that name nothing left out. -/
def components (path : Path) : List Bytes :=
  dropIdle (cutAt slash (path.drop (anchor path).length))

/-- The directory in which a path names an entry.  The root has none and neither has the empty
path; the parent of a single name is the empty path. -/
def parent? (path : Path) : Option Path :=
  if components path = [] then
    if anchor path = [dot] then some [] else none
  else some (anchor path ++ joinWith slash (dropIdle (components path).dropLast))

/-- Look a path up from a base directory.  An absolute path replaces the base; otherwise a slash
is put between the two unless the base is empty or ends in one. -/
def join (base path : Path) : Path :=
  if isAbsolute path then path
  else if base = [] ∨ base.getLast? = some slash then base ++ path
  else base ++ slash :: path

/-- The text that displays a path. -/
def display (path : Path) : String :=
  String.ofList (Utf8.display path)

end Path

end ClassSizes
