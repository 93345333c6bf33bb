import ProxyMesh.Command.Machine
import ProxyMesh.File.Path

/-!
# A machine of plain values

Files are held by their absolute paths.  A directory is there if it was made, or if a file or the
working directory is below it.  A path is followed name by name, so that every name but the last has
to be a directory.

* `Workspace`            the files, the working directory and the surroundings;
* `Workspace.locate`     the place that a path leads to;
* `Workspace.read`, `write`, `openStore`   what is done with files;
* the instance `Machine (StateM Workspace)`.
-/

namespace ProxyMesh

/-- what is kept at a path -/
inductive Content where
  | text (text : String)
  | store (store : Database)
  | directory
deriving DecidableEq

structure Workspace where
  /-- an absolute path -/
  directory : String
  /-- contents by absolute path -/
  files : TextMap Content
  now : Nat
  exchange : Exchange

/-- the names from the root on, the innermost first -/
abbrev Location := List String

/-- the absolute path of a location, empty for the root -/
def Location.path (l : Location) : String := String.join (l.reverse.map ("/" ++ ·))

namespace Workspace

/-- the working directory with text files in it, by their paths from there -/
def ofTexts (directory : String) (now : Nat) (exchange : Exchange)
    (texts : List (String × String)) : Workspace where
  directory
  files := .ofList (texts.map fun (name, text) =>
    (Location.path ((pathNames name).reverse ++ (pathNames directory).reverse), .text text))
  now
  exchange

def content? (w : Workspace) (l : Location) : Option Content := (w.files.get? l.path).map (·.2)

def put (w : Workspace) (l : Location) (c : Content) : Workspace :=
  { w with files := w.files.put (l.path, c) }

/-- it was made, something is below it, or it is the working directory -/
def isDirectory (w : Workspace) (l : Location) : Bool :=
  let lead := (l.path ++ "/").toList
  w.content? l == some .directory ||
    ((w.directory ++ "/") :: w.files.records.map (·.1)).any fun path =>
      (Text.stripStart lead path.toList).isSome

/-- where a path begins -/
def start (w : Workspace) (path : String) : Location :=
  if isAbsolute path then [] else (pathNames w.directory).reverse

/-- the directory `name` in a directory -/
def enter (w : Workspace) (l : Location) (name : String) : Except FileError Location :=
  if name.isEmpty || name = "." then .ok l
  else if name = ".." then .ok l.tail
  else if w.isDirectory (name :: l) then .ok (name :: l)
  else if (w.content? (name :: l)).isSome then .error .notDirectory
  else .error .missing

/-- a name in a directory, which need not be there -/
def step (l : Location) (name : String) : Location :=
  if name.isEmpty || name = "." then l else if name = ".." then l.tail else name :: l

/-- the place of the last name, all others entered -/
def follow (w : Workspace) : Location → List String → Except FileError Location
  | l, [] => .ok l
  | l, [last] => .ok (step l last)
  | l, name :: rest =>
    match w.enter l name with
    | .ok l => follow w l rest
    | .error e => .error e

/-- the place that a path leads to; after a slash at its end it must be a directory -/
def locate (w : Workspace) (path : String) : Except FileError Location :=
  if path.isEmpty then .error .missing else w.follow (w.start path) (Text.splitAt '/' path)

/-- the place of a file to be opened, made if there is none; no directory, not even by a slash at its
end -/
def target (w : Workspace) (path : String) : Except FileError Location :=
  let names := (Text.splitAt '/' path).reverse.dropWhile (·.isEmpty)
  let endsInSlash := path.toList.getLast? == some '/'
  if path.isEmpty then .error .missing
  else match w.follow (w.start path) names.reverse with
    | .error e => .error e
    | .ok l => if endsInSlash || w.isDirectory l then .error .isDirectory else .ok l

def isThere (w : Workspace) (path : String) : Bool :=
  match w.locate path with
  | .ok l => w.isDirectory l || (w.content? l).isSome
  | .error _ => false

def readText (w : Workspace) (path : String) : Except FileError String :=
  match w.locate path with
  | .error e => .error e
  | .ok l =>
    match w.content? l with
    | some (.text text) => .ok text
    | some (.store _) => .error .notText
    | some .directory => .error .isDirectory
    | none => .error (if w.isDirectory l then .isDirectory else .missing)

def writeText (w : Workspace) (path text : String) : Except FileError Unit × Workspace :=
  match w.target path with
  | .error e => (.error e, w)
  | .ok l => (.ok (), w.put l (.text text))

/-- directories made along a path where they are missing -/
def makeAlong (w : Workspace) : Location → List String → Except FileError Unit × Workspace
  | _, [] => (.ok (), w)
  | l, name :: rest =>
    match w.enter l name with
    | .ok l => makeAlong w l rest
    | .error .missing => makeAlong (w.put (step l name) .directory) (step l name) rest
    | .error .notDirectory =>
      (.error (if rest.all (·.isEmpty) then .exists else .notDirectory), w)
    | .error e => (.error e, w)

def makeDirectory (w : Workspace) (path : String) : Except FileError Unit × Workspace :=
  w.makeAlong (w.start path) (Text.splitAt '/' path)

/-- the store of a file; one that is not there or has no content holds an empty store -/
def openStore (w : Workspace) (path : String) : Except FileError Database × Workspace :=
  match w.target path with
  | .error e => (.error e, w)
  | .ok l =>
    match w.content? l with
    | some (.store d) => (.ok d, w)
    | some (.text text) =>
      if text.isEmpty then (.ok .empty, w.put l (.store .empty)) else (.error .notStore, w)
    | some .directory => (.error .isDirectory, w)
    | none => (.ok .empty, w.put l (.store .empty))

def saveStore (w : Workspace) (path : String) (d : Database) : Except FileError Unit × Workspace :=
  match w.target path with
  | .error e => (.error e, w)
  | .ok l => (.ok (), w.put l (.store d))

end Workspace

instance : Machine (StateM Workspace) where
  now := fun w => (w.now, w)
  here := fun w => (w.directory, w)
  exchange := fun w => (w.exchange, w)
  isThere path := fun w => (w.isThere path, w)
  readText path := fun w => (w.readText path, w)
  writeText path text := fun w => w.writeText path text
  makeDirectory path := fun w => w.makeDirectory path
  openStore path := fun w => w.openStore path
  saveStore path d := fun w => w.saveStore path d

end ProxyMesh
