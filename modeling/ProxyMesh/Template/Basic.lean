import ProxyMesh.Json.Basic

/-!
# Templates

A template is text with tags in double braces.  A tag writes a value, calls a helper, or opens a block
that a helper writes or leaves out.

* `Path`      the place of a value: a variable of a loop, or steps from a scope;
* `Operand`   a value given to a helper: a literal, a path, or the result of a helper;
* `Head`      a helper with what it is given;
* `Element`   a piece of a template.
-/

namespace ProxyMesh.Template

/-- a step of a path -/
inductive Step where
  | root
  | up
  | name (name : String)
deriving DecidableEq, Repr

/-- the place of a value, and the path as it is written -/
inductive Path where
  | loopVar (level : Nat) (name text : String)
  | steps (steps : List Step) (text : String)
deriving DecidableEq, Repr

def Path.text : Path → String
  | .loopVar _ _ text => text
  | .steps _ text => text

inductive Operand where
  | literal (value : Json)
  | path (path : Path)
  | call (name : String) (arguments : List Operand) (options : List (String × Operand))

/-- a helper with its arguments and named options -/
structure Head where
  name : String
  arguments : List Operand
  options : List (String × Operand)

inductive Element where
  | text (text : String)
  | value (operand : Operand)
  | call (head : Head)
  | block (head : Head) (names : List String) (body : List Element) (inverse : Option (List Element))

end ProxyMesh.Template
