import ClassSizes.Files.Access

/-!
# A store of files

A store is a state of a file system as a value: which names exist, what each of them names, and
the contents of the files.  Names and contents are apart, so that two names can have one file.

A file may refuse to be opened for reading, for writing, or for both, and a directory may refuse
new names; every directory can be looked into.  Who asks is not part of a store, so that a refusal
is a fault that is kept beside what refuses.

A path is looked up component by component.  Empty components and `.` stay where they are and
`..` goes up; whatever has something after it has to be a directory, if only a slash.
-/

namespace ClassSizes

/-- The components of a name, from the root down. -/
abbrev Route := List Bytes

/-- What a name names. -/
inductive Entry where
  | directory
  /-- The file with the given number. -/
  | file (number : Nat)
  /-- A device that is always empty and loses what is written to it. -/
  | nullDevice
  deriving DecidableEq, Repr

/-- A file, and how it may be opened. -/
structure FileBody where
  bytes : Bytes := []
  /-- How many bytes may still be written, if there is a limit. -/
  room : Option Nat := none
  /-- Why the file cannot be opened for reading, if it cannot. -/
  unreadable : Option Fault := none
  /-- Why the file cannot be opened for writing, if it cannot, as that of a program that is running
  cannot. -/
  unwritable : Option Fault := none
  deriving DecidableEq, Repr

/-- A file with the bytes that a sink has received, and the room that it has left. -/
def FileBody.written (body : FileBody) (sink : Sink) : FileBody :=
  { body with bytes := sink.received, room := sink.room }

/-- A state of a file system. -/
structure Store where
  /-- What exists below the root. -/
  names : List (Route × Entry) := []
  /-- The files, by number. -/
  bodies : List FileBody := []
  /-- The directories in which nothing can be made, and why. -/
  closed : List (Route × Fault) := []
  /-- The directory from which relative paths are looked up. -/
  current : Route := []
  deriving Repr

namespace Store

/-- How long a component may be. -/
def componentLimit : Nat := 255

/-- How long a path has to stay under. -/
def pathLimit : Nat := 4096

/-- What a route names. -/
def entry? (store : Store) (route : Route) : Option Entry :=
  if route = [] then some .directory else (store.names.find? (·.1 = route)).map (·.2)

/-- What a path leads to: an entry, or a free name in a directory. -/
inductive Target where
  | existing (entry : Entry)
  | free (route : Route)
  deriving DecidableEq, Repr

/-- Follow components from a directory on. -/
def follow (store : Store) : Route → List Bytes → Except Fault Target
  | _, [] => .ok (.existing .directory)
  | here, component :: rest =>
    if component = [] ∨ component = [Path.dot] then store.follow here rest
    else if component = [Path.dot, Path.dot] then store.follow here.dropLast rest
    else if componentLimit < component.length then .error .nameTooLong
    else
      match store.entry? (here ++ [component]) with
      | some .directory => store.follow (here ++ [component]) rest
      | some entry => if rest = [] then .ok (.existing entry) else .error .notDirectory
      | none => if rest = [] then .ok (.free (here ++ [component])) else .error .notFound

/-- The directory from which a path is looked up. -/
def base (store : Store) (path : Path) : Route :=
  if Path.isAbsolute path then [] else store.current

/-- Look up a path. -/
def locate (store : Store) (path : Path) : Except Fault Target :=
  if 0 ∈ path then .error .nulInPath
  else if path = [] then .error .notFound
  else if pathLimit ≤ path.length then .error .nameTooLong
  else store.follow (store.base path) (cutAt Path.slash path)

/-- The file with a number. -/
def body (store : Store) (number : Nat) : FileBody :=
  store.bodies[number]?.getD {}

/-- Put a file in the place of the one with a number. -/
def setBody (store : Store) (number : Nat) (body : FileBody) : Store :=
  { store with bodies := store.bodies.set number body }

/-- Give a name to a new file. -/
def addFile (store : Store) (route : Route) (body : FileBody) : Store :=
  { store with
    names := store.names ++ [(route, .file store.bodies.length)]
    bodies := store.bodies ++ [body] }

/-- Give a name to something that is not a new file. -/
def addName (store : Store) (route : Route) (entry : Entry) : Store :=
  { store with names := store.names ++ [(route, entry)] }

/-- Why an entry cannot be opened for reading, if it cannot.  Directories open too. -/
def readRefusal? (store : Store) : Entry → Option Fault
  | .file number => (store.body number).unreadable
  | .directory | .nullDevice => none

/-- Why nothing can be made in a directory, if nothing can. -/
def closed? (store : Store) (directory : Route) : Option Fault :=
  (store.closed.find? (·.1 = directory)).map (·.2)

/-- Why no file can be opened for writing where a path leads, if none can. -/
def writeRefusal? (store : Store) : Target → Option Fault
  | .existing .directory => some .isDirectory
  | .existing (.file number) => (store.body number).unwritable
  | .existing .nullDevice => none
  | .free route => store.closed? route.dropLast

/-- Open a file for reading. -/
def openInput (store : Store) (path : Path) : Except Fault Entry :=
  match store.locate path with
  | .error fault => .error fault
  | .ok (.free _) => .error .notFound
  | .ok (.existing entry) =>
    match store.readRefusal? entry with
    | some fault => .error fault
    | none => .ok entry

/-- A path without the slashes at its end. -/
def withoutSlashes (path : Path) : Path :=
  (path.reverse.dropWhile (· == Path.slash)).reverse

/-- Look up the path of a file to be written, which must not refuse it.  A path that ends in a slash
can only be that of a directory, whatever is there. -/
def locateOutput (store : Store) (path : Path) : Except Fault Target :=
  if path.getLast? = some Path.slash ∧ withoutSlashes path ≠ [] then
    match store.locate (withoutSlashes path) with
    | .error fault => .error fault
    | .ok _ => .error .isDirectory
  else
    match store.locate path with
    | .error fault => .error fault
    | .ok target =>
      match store.writeRefusal? target with
      | some fault => .error fault
      | none => .ok target

/-- Open a file for writing, making or emptying it. -/
def createOutput (store : Store) (path : Path) : Except Fault Entry × Store :=
  match store.locateOutput path with
  | .error fault => (.error fault, store)
  | .ok (.free route) => (.ok (.file store.bodies.length), store.addFile route {})
  | .ok (.existing (.file number)) =>
    (.ok (.file number), store.setBody number { store.body number with bytes := [] })
  | .ok (.existing entry) => (.ok entry, store)

/-- What reading an open file delivers; a directory fails on the first read. -/
def source (store : Store) : Entry → Source
  | .directory => [.failed .isDirectory]
  | .file number => .whole (store.body number).bytes
  | .nullDevice => []

/-- The sink of an open file that is empty. -/
def sinkOf (body : FileBody) : Sink :=
  { room := body.room, capacity := FileAccess.bufferCapacity }

/-- Let a function write to an open file that is empty. -/
def withSink {α : Type} (store : Store) (entry : Entry) (write : Sink → α × Sink) : α × Store :=
  match entry with
  | .file number =>
    let body := store.body number
    let (result, sink) := write (sinkOf body)
    (result, store.setBody number (body.written sink))
  | _ => ((write (sinkOf {})).1, store)

/-- The files of a store. -/
def files : FileAccess (StateM Store) Entry where
  openInput path := fun store => (store.openInput path, store)
  createOutput path := fun store => store.createOutput path
  source entry := fun store => (store.source entry, store)
  withSink entry write := fun store => store.withSink entry write

/-- Make the directories of a path that do not exist, as far as that is allowed. -/
def makeDirectories (store : Store) (here : Route) : List Bytes → Store
  | [] => store
  | component :: rest =>
    if component = [] ∨ component = [Path.dot] then store.makeDirectories here rest
    else if component = [Path.dot, Path.dot] then store.makeDirectories here.dropLast rest
    else
      let next := here ++ [component]
      match store.entry? next with
      | some _ => store.makeDirectories next rest
      | none =>
        match store.closed? here with
        | some _ => store
        | none => (store.addName next .directory).makeDirectories next rest

/-- Make a directory and the directories above it. -/
def makeDirectory (store : Store) (path : Path) : Store :=
  store.makeDirectories (store.base path) (cutAt Path.slash path)

/-- Write a file, making the directories above it. -/
def putFile (store : Store) (path : Path) (bytes : Bytes) : Store :=
  let ready :=
    match Path.parent? path with
    | some parent => store.makeDirectory parent
    | none => store
  match ready.createOutput path with
  | (.ok (.file number), made) => made.setBody number { made.body number with bytes }
  | (_, made) => made

/-- The file that a path names, whether or not it can be opened. -/
def file? (store : Store) (path : Path) : Option FileBody :=
  match store.locate path with
  | .ok (.existing (.file number)) => some (store.body number)
  | _ => none

/-- The bytes of the file that a path names, whether or not it can be opened. -/
def bytes? (store : Store) (path : Path) : Option Bytes :=
  (store.file? path).map (·.bytes)

/-- What is read at a path, if it can be read to its end. -/
def contents? (store : Store) (path : Path) : Option Bytes :=
  match store.openInput path with
  | .ok entry => (store.source entry).readAll.toOption
  | .error _ => none

/-- The route of a name in a directory, from that directory on. -/
def routeBelow? (directory route : Route) : Option Route :=
  if directory.isPrefixOf route then some (route.drop directory.length) else none

/-- The files below a directory, with their routes from there on. -/
def filesBelow (store : Store) (directory : Route) : List (Route × Bytes) :=
  store.names.filterMap fun (route, entry) =>
    match routeBelow? directory route, entry with
    | some below, .file number => some (below, (store.body number).bytes)
    | _, _ => none

end Store

end ClassSizes
