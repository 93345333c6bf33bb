import ProxyMesh.Command.Run
import Std.Time.DateTime.Timestamp

/-!
# The program

Commands run on the files of the working directory.  A store is kept in a file of its own, the texts of its
tables as one document, and no request leaves the machine.
-/

namespace ProxyMesh

/-- why the system could not do something with a file -/
def FileError.ofSystem : IO.Error → FileError
  | .noFileOrDirectory .. => .missing
  | .alreadyExists .. => .exists
  | .inappropriateType _ 20 _ => .notDirectory
  | .inappropriateType _ 21 _ => .isDirectory
  | e => .other (toString e)

/-- what the system does with a file, its fault as a value -/
def attempt {α : Type} (action : IO α) : IO (Except FileError α) := do
  match ← action.toBaseIO with
  | .ok a => pure (.ok a)
  | .error e => pure (.error (.ofSystem e))

/-- the text of a file's bytes -/
def readFileText (path : String) : IO (Except FileError String) := do
  match ← attempt (IO.FS.readBinFile path) with
  | .ok bytes => pure ((String.fromUTF8? bytes).elim (.error .notText) .ok)
  | .error e => pure (.error e)

def storeText (d : Database) : String := (Json.ofTextMap (.ofTextMap .str) d).compact

/-- the store that a text describes -/
def storeOf (text : String) : Except FileError Database :=
  if text.isEmpty then .ok .empty
  else (Json.decode (.textMap (.textMap .text)) text).elim (.error .notStore) .ok

def fileIsThere (path : String) : IO Bool := do ((← IO.currentDir) / path).pathExists

def saveStoreFile (path : String) (d : Database) : IO (Except FileError Unit) :=
  attempt (IO.FS.writeFile path (storeText d))

def openStoreFile (path : String) : IO (Except FileError Database) := do
  if ← fileIsThere path then
    pure ((← readFileText path).bind storeOf)
  else
    pure ((← saveStoreFile path .empty).map fun _ => .empty)

instance : Machine IO where
  now := do pure (← Std.Time.Timestamp.now).toSecondsSinceUnixEpoch.val.toNat
  here := do pure (toString (← IO.currentDir))
  exchange := pure (.refused "no network")
  isThere := fileIsThere
  readText := readFileText
  writeText path text := attempt (IO.FS.writeFile path text)
  makeDirectory path := attempt (IO.FS.createDirAll path)
  openStore := openStoreFile
  saveStore := saveStoreFile

end ProxyMesh

open ProxyMesh in
/-- runs the command that the arguments ask for -/
def main (arguments : List String) : IO UInt32 := do
  let answer ← (runProgram arguments : IO Answer)
  IO.print answer.output
  match answer.error with
  | some message => IO.eprintln ("Error: " ++ message)
  | none => pure ()
  pure (UInt32.ofNat answer.code)
