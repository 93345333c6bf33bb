import ProxyMesh.Text.Naturals
import ProxyMesh.Topology.Records

/-!
# What may be asked for on the command line

* `Command`       a thing to do;
* `Invocation`    a command and the file that its settings are in;
* `Flag`, `Operand`   the arguments that a command takes;
* `Form`          how a command is asked for, `forms` all of them.
-/

namespace ProxyMesh

inductive Command where
  /-- the settings of a site below `root` written -/
  | init (root : String)
  | importFile (file : String)
  | exportTo (out : Option String)
  | compile (node : Id) (out : Option String)
  | decodeTag (tag : String) (node : Option Id)
  | sync
  | forward
  | ingestTraffic (node : Id) (file : String)
  | healthLog (node : Id) (file : String)
deriving DecidableEq, Repr

structure Invocation where
  settings : String
  command : Command
deriving DecidableEq, Repr

/-- what an argument stands for -/
inductive ArgumentKind where
  | path
  | node
  | text
deriving DecidableEq, Repr

/-- the argument can be used: a path is not empty, a node is a number of 64 bits -/
def ArgumentKind.admits (kind : ArgumentKind) (value : String) : Bool :=
  match kind with
  | .path => !value.isEmpty
  | .node => (Text.readUnsigned value.toList).isSome
  | .text => true

/-- an option that takes a value, as in `-n 1` or `--node 1` -/
structure Flag where
  short : Char
  long : String
  kind : ArgumentKind
  required : Bool := false
  /-- the value that counts when there is none -/
  usual : Option String := none
  about : String := ""
deriving DecidableEq, Repr

structure Operand where
  name : String
  kind : ArgumentKind
deriving DecidableEq, Repr

/-- the arguments of a command -/
structure Given where
  /-- values by the long names of their options -/
  values : List (String × String)
  operand : Option String
deriving DecidableEq, Repr

namespace Given

def value? (g : Given) (flag : String) : Option String := g.values.lookup flag

def node? (g : Given) : Option Id :=
  (g.value? "node").bind fun value => Text.readUnsigned value.toList

end Given

structure Form where
  name : String
  about : String
  /-- further paragraphs of its description -/
  details : List String := []
  flags : List Flag := []
  operand : Option Operand := none
  /-- the command that arguments ask for -/
  command : Given → Option Command

def settingsFlag : Flag where
  short := 'c'
  long := "config"
  kind := .path
  usual := some "relay.toml"
  about := "Path to relay.toml. Defaults apply when the file does not exist"

def nodeFlag : Flag where
  short := 'n'
  long := "node"
  kind := .node
  required := true

def outFlag : Flag where
  short := 'o'
  long := "out"
  kind := .path

def rootFlag : Flag where
  short := 'p'
  long := "path"
  kind := .path
  usual := some "."
  about := "Directory holding the store and compiled artifacts"

def fileOperand : Operand := ⟨"FILE", .path⟩

def forms : List Form := [
  { name := "init"
    about := "Write a relay.toml scaffold"
    flags := [rootFlag]
    command := fun g => some (.init ((g.value? rootFlag.long).getD ".")) },
  { name := "import"
    about := "Upsert a topology snapshot (JSON) into the store"
    operand := some fileOperand
    command := fun g => g.operand.map .importFile },
  { name := "export"
    about := "Dump the store as a topology snapshot (JSON)"
    flags := [{ outFlag with about := "Output file (default: stdout)" }]
    command := fun g => some (.exportTo (g.value? outFlag.long)) },
  { name := "compile"
    about := "Compile the runtime config of one node"
    details := [
      "Without --out, prints the config document. With --out, writes config.json, supervisor.conf and " ++
        "files.json into that directory."]
    flags := [nodeFlag, outFlag]
    command := fun g => g.node?.map fun node => .compile node (g.value? outFlag.long) },
  { name := "decode-tag"
    about := "Decode an outbound tag; with --node, resolve it against the store"
    flags := [{ nodeFlag with required := false }]
    operand := some ⟨"TAG", .text⟩
    command := fun g => g.operand.map fun tag => .decodeTag tag g.node? },
  { name := "sync"
    about := "Run one usage sync batch"
    command := fun _ => some .sync },
  { name := "forward"
    about := "Run one flow point forward batch"
    command := fun _ => some .forward },
  { name := "ingest-traffic"
    about := "Ingest runtime traffic reports (one JSON report per line)"
    flags := [nodeFlag]
    operand := some fileOperand
    command := fun g => do pure (.ingestTraffic (← g.node?) (← g.operand)) },
  { name := "health-log"
    about := "Correlate runtime probe logs into connection health points"
    flags := [nodeFlag]
    operand := some fileOperand
    command := fun g => do pure (.healthLog (← g.node?) (← g.operand)) }]

end ProxyMesh
