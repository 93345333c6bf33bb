import ProxyMesh.Command.Grammar
import ProxyMesh.Text.Lines

/-!
# Arguments read

Arguments are read from left to right, and the first that decides ends the reading: help and version
when they are met, a fault when it is met, missing arguments at the end.

* `Ending`                a reading that ends without a command;
* `Reading.take`          one more argument;
* `Invocation.read`       the command that all arguments ask for.
-/

namespace ProxyMesh

inductive Ending where
  /-- the arguments make no sense -/
  | misuse
  /-- of a command, or of the program itself -/
  | version (command : Option String)
  /-- the words of a help text in full or in short -/
  | help (topic : Option String) (full : Bool)
deriving DecidableEq, Repr

/-- the arguments read so far -/
structure Reading where
  values : List (String × String)
  operands : List String
  /-- an option whose value comes next -/
  awaiting : Option Flag
  /-- all that comes is an operand -/
  ended : Bool
deriving DecidableEq, Repr

namespace Reading

def initial : Reading := ⟨[], [], none, false⟩

/-- an option with its value; each may be given once -/
def give (r : Reading) (flag : Flag) (value : String) : Except Ending Reading :=
  if (r.values.lookup flag.long).isSome || !flag.kind.admits value then .error .misuse
  else .ok { r with values := r.values ++ [(flag.long, value)], awaiting := none }

/-- an operand, if there is a place for it -/
def place (r : Reading) (places : List Operand) (value : String) : Except Ending Reading :=
  match places[r.operands.length]? with
  | some o =>
    if o.kind.admits value then .ok { r with operands := r.operands ++ [value] } else .error .misuse
  | none => .error .misuse

/-- the options of a command -/
structure Scene where
  /-- the command, none for the program itself -/
  topic : Option String
  flags : List Flag
  places : List Operand

/-- an option in words, with what stands after its equals sign -/
def takeLong (scene : Scene) (r : Reading) (word : List Char) : Except Ending Reading :=
  let (name, value) := match Text.cutAt ['='] word with
    | some (name, value) => (String.ofList name, some (String.ofList value))
    | none => (String.ofList word, none)
  match scene.flags.find? (·.long == name), value with
  | some flag, some value => r.give flag value
  | some flag, none => .ok { r with awaiting := some flag }
  | none, none =>
    if name = "help" then .error (.help scene.topic true)
    else if name = "version" then .error (.version scene.topic)
    else .error .misuse
  | none, some _ => .error .misuse

/-- an option of one letter, with what stands directly after it -/
def takeShort (scene : Scene) (r : Reading) (letter : Char) (rest : List Char) :
    Except Ending Reading :=
  match scene.flags.find? (·.short == letter), rest with
  | some flag, [] => .ok { r with awaiting := some flag }
  | some flag, '=' :: value => r.give flag (String.ofList value)
  | some flag, value => r.give flag (String.ofList value)
  | none, _ =>
    if letter = 'h' then .error (.help scene.topic false)
    else if letter = 'V' then .error (.version scene.topic)
    else .error .misuse

/-- one more argument; only a lone dash is not an option although it begins with one -/
def take (scene : Scene) (r : Reading) (argument : String) : Except Ending Reading :=
  match r.ended, r.awaiting, argument.toList with
  | true, _, _ => r.place scene.places argument
  | false, some _, '-' :: _ :: _ => .error .misuse
  | false, some flag, _ => r.give flag argument
  | false, none, ['-', '-'] => .ok { r with ended := true }
  | false, none, '-' :: '-' :: word => takeLong scene r word
  | false, none, '-' :: letter :: rest => takeShort scene r letter rest
  | false, none, _ => r.place scene.places argument

/-- everything that must be given is -/
def isComplete (scene : Scene) (r : Reading) : Bool :=
  r.awaiting.isNone && r.operands.length == scene.places.length &&
    scene.flags.all fun flag => !flag.required || (r.values.lookup flag.long).isSome

end Reading

open Reading (Scene)

def Form.scene (form : Form) : Scene := ⟨some form.name, settingsFlag :: form.flags, form.operand.toList⟩

/-- the program itself takes the file of the settings -/
def programScene : Scene := ⟨none, [settingsFlag], []⟩

/-- a command with its arguments; the file of the settings may also be named before it -/
def readForm (form : Form) (before : Reading) (arguments : List String) :
    Except Ending Invocation := do
  let r ← arguments.foldlM (Reading.take form.scene) .initial
  if !r.isComplete form.scene then throw .misuse
  match form.command ⟨r.values, r.operands.head?⟩ with
  | some command =>
    let named := (r.values.lookup settingsFlag.long).or (before.values.lookup settingsFlag.long)
    pure ⟨named.getD (settingsFlag.usual.getD ""), command⟩
  | none => throw .misuse

def helpTopic : String := "help"

/-- the help that is asked for by name -/
def readHelp : List String → Ending
  | [] => .help none true
  | [topic] =>
    if topic = helpTopic || forms.any (·.name == topic) then .help (some topic) true else .misuse
  | _ => .misuse

/-- the program's own arguments up to the name of a command -/
def readProgram (r : Reading) : List String → Except Ending Invocation
  | [] => .error .misuse
  | argument :: rest =>
    let isName := r.awaiting.isNone && !r.ended
    match forms.find? (fun form => isName && form.name == argument) with
    | some form => readForm form r rest
    | none =>
      if isName && argument == helpTopic then .error (readHelp rest)
      else match r.take programScene argument with
        | .ok r => readProgram r rest
        | .error e => .error e

def Invocation.read (arguments : List String) : Except Ending Invocation :=
  readProgram .initial arguments

end ProxyMesh
