import ProxyMesh.Command.Arguments
import ProxyMesh.Command.Help
import ProxyMesh.Command.Machine
import ProxyMesh.Command.Summary
import ProxyMesh.Health.Correlator
import ProxyMesh.Json.Printer
import ProxyMesh.Settings.Document
import ProxyMesh.Topology.Documents
import ProxyMesh.Topology.Shapes

/-!
# Commands run

A command reads its settings and its file first and opens the store last, so that a fault in what it
is given leaves no store behind.  What it changes in the store stays changed even if it fails later.

* `Answer`           what is printed, the message of a failure and the code;
* `Command.run`      a command on a machine;
* `runProgram`       the program with its arguments.
-/

namespace ProxyMesh

structure Answer where
  code : Nat
  output : String
  /-- the message of a failure -/
  error : Option String
deriving DecidableEq, Repr

/-- a command that fails, and what it printed before -/
structure Failure where
  message : Option String
  code : Nat := 1
  printed : List String := []
deriving DecidableEq, Repr

def Failure.ofMessage (message : String) : Failure := { message := some message }

def linesOutput (lines : List String) : String := String.join (lines.map (· ++ "\n"))

def Answer.ofLines : Except Failure (List String) → Answer
  | .ok lines => ⟨0, linesOutput lines, none⟩
  | .error f => ⟨f.code, linesOutput f.printed, f.message⟩

/-- help and version are answers, misuse has only a code -/
def Answer.ofEnding : Ending → Answer
  | .misuse => ⟨2, "", none⟩
  | .version command =>
    ⟨0, Help.programName ++ (command.map ("-" ++ ·)).getD "" ++ " 0.1.0\n", none⟩
  | .help topic full => ⟨0, helpText topic full, none⟩

namespace Command

variable {m : Type → Type} [Monad m] [Machine m]

/-- something done on a machine that may fail -/
abbrev Work (m : Type → Type) (α : Type) := ExceptT Failure m α

def fail {α : Type} (message : String) : Work m α := throw (.ofMessage message)

/-- what a machine answers; a fault becomes a failure with words in front -/
def answered {α : Type} (lead : String) (action : Work m (Except FileError α)) : Work m α := do
  match ← action with
  | .ok a => pure a
  | .error e => fail (lead ++ e.message)

def readText (path : String) : Work m String := answered "" (Machine.readText path)

def writeText (path text : String) : Work m Unit := answered "" (Machine.writeText path text)

/-- the usual settings if the file is not there -/
def loadSettings (path : String) : Work m Settings := do
  if ← Machine.isThere path then
    match Settings.read (← readText path) with
    | .ok settings => pure settings
    | .error place => fail place.message
  else pure {}

def openStore (settings : Settings) : Work m Database :=
  answered "cannot open state database: I/O error: " (Machine.openStore settings.store.path)

def saveStore (settings : Settings) (d : Database) : Work m Unit :=
  answered "" (Machine.saveStore settings.store.path d)

/-- all records of a store -/
def loaded (d : Database) (lead : String) : Work m Store :=
  match d.load with
  | .ok store => pure store
  | .error e => fail (lead ++ e.message)

def loadStore (settings : Settings) : Work m Store := do loaded (← openStore settings) ""

/-- the words in front of a fault of the store, in a run over it -/
def storeLead : String := "state store error: "

/-- the store changed by something that may fail; it is kept in either case -/
def withStore {α : Type} (settings : Settings) (change : Store → Except Failure α × Store) :
    Work m α := do
  match (← openStore settings).update change with
  | .error e => fail (storeLead ++ e.message)
  | .ok (answer, d) =>
    saveStore settings d
    match answer with
    | .ok a => pure a
    | .error f => throw f

def runInit (config root : String) : Work m (List String) := do
  if ← Machine.isThere config then fail (config ++ " already exists")
  let here ← Machine.here
  writeText config (Settings.rootedAt (absolutePath here root)).document
  pure [doneMark ++ "Generated " ++ config]

def runImport (config file : String) : Work m (List String) := do
  let settings ← loadSettings config
  let text ← readText file
  match Json.decode Snapshot.decoder text with
  | none => fail (((Json.firstFault? Shapes.snapshot text).map (·.message)).getD "not a snapshot")
  | some snapshot =>
    saveStore settings ((← openStore settings).importSnapshot snapshot)
    pure snapshot.summary

def runExport (config : String) (out : Option String) : Work m (List String) := do
  let settings ← loadSettings config
  let text := (← loadStore settings).exportSnapshot.toJson.pretty
  match out with
  | none => pure [text]
  | some path =>
    writeText path text
    pure [doneMark ++ "Exported " ++ path]

/-- the artifacts of a directory that are there -/
def readDirectory (directory : String) : Work m Directory := do
  let mut found : Directory := .empty
  for name in [configFile, supervisorFile, filesFile] do
    match ← Machine.readText (joinPath directory name) with
    | .ok text => found := found.putTexts [(name, text)]
    | .error _ => pure ()
  pure found

/-- the artifacts written unless they are there; true if they had to be -/
def writeArtifacts (a : Artifacts) (directory : String) : Work m Bool := do
  if a.isCurrent (← readDirectory directory) then pure false
  else
    let lead := "I/O error: "
    answered lead (Machine.makeDirectory directory)
    for (name, text) in a.writes do
      answered lead (Machine.writeText (joinPath directory name) text)
    pure true

/-- a digest that cannot be shortened stops the program without a message -/
def compileFailure : CompileError → Failure
  | .brokenDigest _ => { message := none, code := 101 }
  | e => { message := some e.message }

def runCompile (config : String) (node : Id) (out : Option String) : Work m (List String) := do
  let settings ← loadSettings config
  let now ← Machine.now
  let a ← withStore settings fun store =>
    let (answer, store) := ProxyMesh.compile store (.ofSettings settings.compiler) node now
    (answer.mapError compileFailure, store)
  match out with
  | none => pure [a.configText]
  | some directory => pure (a.summary (← writeArtifacts a directory) directory)

def resolveOn (config tag : String) (node : Id) : Work m (List String) := do
  let settings ← loadSettings config
  pure (resolvedLines node (resolveTag (← loadStore settings) node tag))

def runDecodeTag (config tag : String) (node : Option Id) : Work m (List String) :=
  match TagRef.decode? tag, node with
  | none, _ => fail ("not a relay outbound tag: " ++ tag)
  | some reference, none => pure [reference.label]
  | some reference, some node =>
    tryCatch (do pure (reference.label :: (← resolveOn config tag node)))
      fun f => throw { f with printed := reference.label :: f.printed }

/-- a run over the counters of periods -/
def runAccounting (config job : String)
    (run : Accountant → Store → Nat → Except AccountingError BatchReport × Store) :
    Work m (List String) := do
  let settings ← loadSettings config
  let now ← Machine.now
  let exchange ← Machine.exchange
  let accountant : Accountant := {
    settings := settings.accounting
    reader := fun q => (querySums settings.series exchange q).1 }
  let report ← withStore settings fun store =>
    let (answer, store) := run accountant store now
    (answer.mapError (.ofMessage ·.message), store)
  pure (report.summary job)

def runIngestTraffic (config : String) (node : Id) (file : String) : Work m (List String) := do
  let settings ← loadSettings config
  let text ← readText file
  let exchange ← Machine.exchange
  let writer : SeriesWriter := fun _ points => (writePoints settings.series exchange points).1
  let summary ← withStore settings fun store =>
    let (answer, metering) := Metering.ingestText writer node ⟨store, []⟩ text
    (answer.mapError fun e => .ofMessage (AccountingError.ofSeries e).message, metering.store)
  pure summary.summary

def runHealthLog (config : String) (node : Id) (file : String) : Work m (List String) := do
  let settings ← loadSettings config
  let log ← readText file
  let now ← Machine.now
  let exchange ← Machine.exchange
  let store ← loaded (← openStore settings) storeLead
  let (points, _) := (Correlator.fresh settings.health.deadThreshold).correlate store node now log
  match (writePoints settings.series exchange points).1 with
  | .ok () => pure [doneMark ++ toString points.length ++ " health points written"]
  | .error e => fail ("time-series error: " ++ e.message)

/-- the lines that a command prints -/
def run (config : String) : Command → Work m (List String)
  | .init root => runInit config root
  | .importFile file => runImport config file
  | .exportTo out => runExport config out
  | .compile node out => runCompile config node out
  | .decodeTag tag node => runDecodeTag config tag node
  | .sync => runAccounting config "sync" Accountant.sync
  | .forward => runAccounting config "forward" Accountant.forward
  | .ingestTraffic node file => runIngestTraffic config node file
  | .healthLog node file => runHealthLog config node file

end Command

/-- the program with its arguments -/
def runProgram {m : Type → Type} [Monad m] [Machine m] (arguments : List String) : m Answer :=
  match Invocation.read arguments with
  | .ok i => do pure (Answer.ofLines (← (i.command.run i.settings : Command.Work m _).run))
  | .error e => pure (.ofEnding e)

end ProxyMesh
