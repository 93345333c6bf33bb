import ProxyMesh.Template.Parser
import ProxyMesh.Json.Printer
import ProxyMesh.Text.Naturals

/-!
# Templates rendered

* `Frame`      a scope: its value, the variables of its loop and the names that it gives;
* `resolve`    the value at a path;
* `callHelper` the result of a helper that writes a value;
* `render`     the text of a template, given the values that it may use.

A value that is not there stops the rendering: `missing`, with the path as it is written.  Everything
else that goes wrong is `broken`.
-/

namespace ProxyMesh.Template

inductive Failure where
  | missing (path : Option String)
  | broken
deriving DecidableEq, Repr

/-- a scope of values -/
structure Frame where
  value : Json
  loopVars : List (String × Json)
  names : List (String × Json)

/-! ## values -/

mutual
/-- a value as it is written into a text -/
def valueText : Json → String
  | .null => ""
  | .bool b => if b then "true" else "false"
  | .int n => toString n
  | .real x => Layout.json.text x
  | .str s => s
  | .arr items => "[" ++ itemsText items ++ "]"
  | .obj _ => "[object]"
def itemsText : List Json → String
  | [] => ""
  | [last] => valueText last
  | item :: rest => valueText item ++ ", " ++ itemsText rest
end

/-- what a condition takes for true -/
def isTruthy (includeZero : Bool) : Json → Bool
  | .null => false
  | .bool b => b
  | .int n => includeZero || n != 0
  | .real x => if includeZero then !x.isNaN else x.isNormal
  | .str s => !s.isEmpty
  | .arr items => !items.isEmpty
  | .obj fields => !fields.isEmpty

/-- the same value; of two zeros the sign does not count -/
def isEqual : Json → Json → Bool
  | .real x, .real y => !x.isNaN && !y.isNaN && (x == y || (x.isZero && y.isZero))
  | a, b => a == b

/-- one name further into a value that may not be there -/
def into (name : String) : Option Json → Except Failure (Option Json)
  | some (.arr items) =>
    match Text.readUnsigned name.toList with
    | some i => .ok items[i.toNat]?
    | none => .error .broken
  | some (.obj fields) => .ok (Json.field? name (.obj fields))
  | _ => .ok none

def navigate (steps : List Step) (start : Json) : Except Failure (Option Json) :=
  steps.foldlM (fun value step =>
    match step with
    | .name name => into name value
    | _ => .ok value) (some start)

/-- the value that a scope gives to a name, the innermost scope first -/
def givenName? (frames : List Frame) (name : String) : Option Json :=
  frames.findSome? fun f => (f.names.find? (·.1 == name)).map (·.2)

def isUp (s : Step) : Bool := s == .up

/-- the value at a path, `none` if it is not there -/
def resolve (root : Json) (frames : List Frame) : Path → Except Failure (Option Json)
  | .loopVar level name _ =>
    .ok ((frames[level]?).bind fun f => (f.loopVars.find? (·.1 == name)).map (·.2))
  | .steps steps _ =>
    let ups := (steps.takeWhile isUp).length
    let rest := steps.drop ups
    let scope := (frames[ups]?).or frames.head?
    match rest with
    | .root :: names => navigate names root
    | .name first :: names =>
      match givenName? frames first with
      | some value => navigate names value
      | none => navigate rest ((scope.map (·.value)).getD root)
    | _ => navigate rest ((scope.map (·.value)).getD root)

/-! ## helpers -/

/-- what a helper is given: the path, if it was one, and the value, if it is there -/
structure Argument where
  path : Option String
  value : Option Json

def Argument.orNull (a : Argument) : Json := a.value.getD .null

/-- the argument in a place, which has to be there -/
def argument (arguments : List Argument) (i : Nat) : Except Failure Argument :=
  match arguments[i]? with
  | some a => .ok a
  | none => .error .broken

/-- the value of an argument, which has to be there -/
def given (arguments : List Argument) (i : Nat) : Except Failure Json :=
  match (arguments[i]?).bind (·.value) with
  | some v => .ok v
  | none => .error .broken

def givenInt (arguments : List Argument) (i : Nat) : Except Failure Int := do
  match (← given arguments i).int64? with
  | some n => pure n
  | none => .error .broken

/-- an item of a list or a field of an object -/
def lookupIn (collection index : Json) : Option Json :=
  match collection with
  | .arr items => index.nat?.bind (items[·]?)
  | .obj fields =>
    match index with
    | .str name => Json.field? name (.obj fields)
    | _ => none
  | _ => none

def size : Json → Nat
  | .arr items => items.length
  | .obj fields => fields.length
  | .str s => s.utf8ByteSize
  | _ => 0

/-- the placeholder for the path of a dependent file -/
def pathPlaceholder (name : String) : String := "*#path:" ++ name ++ "#*"

def compareWith (test : Int → Int → Bool) (arguments : List Argument) : Except Failure Json := do
  pure (.bool (test (← givenInt arguments 0) (← givenInt arguments 1)))

def joinWith (test : Json → Json → Bool) (arguments : List Argument) : Except Failure Json := do
  pure (.bool (test (← given arguments 0) (← given arguments 1)))

/-- helpers whose result is a value -/
def valueHelper? : String → Option (List Argument → Except Failure Json)
  | "lookup" => some fun arguments => do
    let collection ← argument arguments 0
    let index ← argument arguments 1
    match lookupIn collection.orNull index.orNull with
    | some v => pure v
    | none => .error (.missing none)
  | "eq" => some (joinWith isEqual)
  | "ne" => some (joinWith fun a b => !isEqual a b)
  | "gt" => some (compareWith fun a b => b < a)
  | "gte" => some (compareWith fun a b => b ≤ a)
  | "lt" => some (compareWith fun a b => a < b)
  | "lte" => some (compareWith fun a b => a ≤ b)
  | "and" => some (joinWith fun a b => isTruthy false a && isTruthy false b)
  | "or" => some (joinWith fun a b => isTruthy false a || isTruthy false b)
  | "not" => some fun arguments => do pure (.bool (!isTruthy false (← given arguments 0)))
  | "len" => some fun arguments => do pure (.ofNat (size (← given arguments 0)))
  | "json" => some fun arguments => do pure (.str (← given arguments 0).compact)
  | "dep_path" => some fun arguments => do
    match ← given arguments 0 with
    | .str name => pure (.str (pathPlaceholder name))
    | _ => .error .broken
  | _ => none

/-- helpers that open blocks -/
def blockHelpers : List String := ["if", "unless", "each", "with", "raw", "log"]

def isHelper (name : String) : Bool := (valueHelper? name).isSome || blockHelpers.contains name

/-- the result of a helper outside a block; those that open blocks write nothing -/
def callHelper (name : String) (arguments : List Argument) : Except Failure Json :=
  match valueHelper? name with
  | some f => f arguments
  | none =>
    if name = "with" then do
      let a ← argument arguments 0
      if isTruthy false a.orNull then pure (.str "") else .error (.missing a.path)
    else if name = "if" || name = "unless" || name = "each" then do
      let _ ← argument arguments 0
      pure (.str "")
    else if blockHelpers.contains name then .ok (.str "")
    else .error .broken

mutual
/-- the argument that an operand stands for -/
def evaluate (root : Json) (frames : List Frame) : Operand → Except Failure Argument
  | .literal value => .ok ⟨none, some value⟩
  | .path path => do pure ⟨some path.text, ← resolve root frames path⟩
  | .call name arguments options => do
    let arguments ← evaluateAll root frames arguments
    let _ ← evaluateOptions root frames options
    pure ⟨none, some (← callHelper name arguments)⟩
def evaluateAll (root : Json) (frames : List Frame) :
    List Operand → Except Failure (List Argument)
  | [] => .ok []
  | operand :: rest => do
    let a ← evaluate root frames operand
    pure (a :: (← evaluateAll root frames rest))
def evaluateOptions (root : Json) (frames : List Frame) :
    List (String × Operand) → Except Failure (List (String × Argument))
  | [] => .ok []
  | (name, operand) :: rest => do
    let a ← evaluate root frames operand
    pure ((name, a) :: (← evaluateOptions root frames rest))
end

/-! ## elements -/

/-- the items that a loop goes through, with the key of each -/
def loopItems : Json → List (Option String × Json)
  | .arr items => items.map (none, ·)
  | .obj fields => fields.map fun (name, value) => (some name, value)
  | _ => []

def isLoop : Json → Bool
  | .arr _ => true
  | .obj _ => true
  | _ => false

/-- the scope of one round of a loop -/
def loopFrame (names : List String) (count i : Nat) (key : Option String) (value : Json) : Frame where
  value := value
  loopVars :=
    [("first", .bool (i == 0)), ("last", .bool (i + 1 == count)), ("index", .ofNat i)] ++
      (key.map fun k => ("key", Json.str k)).toList
  names :=
    match names with
    | [item] => [(item, value)]
    | [item, index] => [(index, (key.map Json.str).getD (.ofNat i)), (item, value)]
    | _ => []

/-- what a tag with nothing but a value writes -/
def writeValue (root : Json) (frames : List Frame) (operand : Operand) : Except Failure String := do
  let a ← evaluate root frames operand
  let name := match operand with
    | .path path => path.text
    | _ => valueText a.orNull
  if isHelper name then return valueText (← callHelper name [])
  match a.value with
  | some v => pure (valueText v)
  | none => .error (.missing a.path)

mutual
def renderElement (root : Json) (frames : List Frame) : Element → Except Failure String
  | .text s => .ok s
  | .value operand => writeValue root frames operand
  | .call head => do
    let arguments ← evaluateAll root frames head.arguments
    let _ ← evaluateOptions root frames head.options
    pure (valueText (← callHelper head.name arguments))
  | .block head names body inverse => do
    let arguments ← evaluateAll root frames head.arguments
    let options ← evaluateOptions root frames head.options
    if head.name = "if" || head.name = "unless" then
      let a ← argument arguments 0
      let includeZero := (options.reverse.lookup "includeZero").bind (·.value) == some (.bool true)
      if isTruthy includeZero a.orNull == (head.name == "if") then renderAll root frames body
      else renderInverse root frames (.ok "") inverse
    else if head.name = "with" then
      let a ← argument arguments 0
      if isTruthy false a.orNull then
        let given := match names with
          | [name] => [(name, a.orNull)]
          | _ => []
        renderAll root (⟨a.orNull, [], given⟩ :: frames) body
      else renderInverse root frames (.error (.missing a.path)) inverse
    else if head.name = "each" then
      let a ← argument arguments 0
      let items := loopItems a.orNull
      if isLoop a.orNull && (!items.isEmpty || inverse.isNone) then
        items.zipIdx.foldlM (fun text ((key, value), i) => do
          pure (text ++ (← renderAll root (loopFrame names items.length i key value :: frames) body)))
          ""
      else renderInverse root frames (.error (.missing a.path)) inverse
    else if head.name = "raw" then renderAll root frames body
    else pure (valueText (← callHelper head.name arguments))
def renderAll (root : Json) (frames : List Frame) : List Element → Except Failure String
  | [] => .ok ""
  | e :: rest => do
    let text ← renderElement root frames e
    pure (text ++ (← renderAll root frames rest))
/-- the part after `else`, or `otherwise` where there is none -/
def renderInverse (root : Json) (frames : List Frame) (otherwise : Except Failure String) :
    Option (List Element) → Except Failure String
  | some body => renderAll root frames body
  | none => otherwise
end

/-- the text of a template -/
def render (template : String) (values : Json) : Except Failure String :=
  match parse template with
  | none => .error .broken
  | some elements => renderAll values [⟨values, [], []⟩] elements

end ProxyMesh.Template
