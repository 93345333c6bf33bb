import ProxyMesh.Compile.Directory
import ProxyMesh.Series.Client
import ProxyMesh.Store.Database

/-!
# What commands need of the machine that they run on

* `FileError`   why a file cannot be used;
* `Machine`     files and stores by name, the time, and what becomes of requests to the series.

Commands are written for any machine, so that a machine of plain values can stand for a real one.
-/

namespace ProxyMesh

inductive FileError where
  | missing
  /-- a part of the path is a file -/
  | notDirectory
  | isDirectory
  /-- a file stands where a directory is to be made -/
  | exists
  /-- the bytes are no text -/
  | notText
  /-- the bytes are no store -/
  | notStore
  | other (reason : String)
deriving DecidableEq, Repr

def FileError.message : FileError → String
  | .missing => "No such file or directory (os error 2)"
  | .notDirectory => "Not a directory (os error 20)"
  | .isDirectory => "Is a directory (os error 21)"
  | .exists => "File exists (os error 17)"
  | .notText => "stream did not contain valid UTF-8"
  | .notStore => "invalid data"
  | .other reason => reason

class Machine (m : Type → Type) where
  /-- seconds since 1970 -/
  now : m Nat
  /-- the working directory -/
  here : m String
  exchange : m Exchange
  isThere : String → m Bool
  readText : String → m (Except FileError String)
  /-- a text in the place of what the file held -/
  writeText : String → String → m (Except FileError Unit)
  /-- a directory made, and those around it -/
  makeDirectory : String → m (Except FileError Unit)
  /-- the store of a file; a file that is not there holds an empty one from now on -/
  openStore : String → m (Except FileError Database)
  saveStore : String → Database → m (Except FileError Unit)

/-- work that may fail is done on the same machine -/
instance {m : Type → Type} {ε : Type} [Monad m] [Machine m] : Machine (ExceptT ε m) where
  now := monadLift (Machine.now : m Nat)
  here := monadLift (Machine.here : m String)
  exchange := monadLift (Machine.exchange : m Exchange)
  isThere path := monadLift (Machine.isThere path : m Bool)
  readText path := monadLift (Machine.readText path : m _)
  writeText path text := monadLift (Machine.writeText path text : m _)
  makeDirectory path := monadLift (Machine.makeDirectory path : m _)
  openStore path := monadLift (Machine.openStore path : m _)
  saveStore path d := monadLift (Machine.saveStore path d : m _)

end ProxyMesh
