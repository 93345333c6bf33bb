import ProxyMesh.Json.Check
import ProxyMesh.Text.Lines

/-!
# The objects of a rendered text

* `parseObjects`   one object, objects with commas between, or a list of objects; commas at the end do
                   not count, and a blank text has none.
-/

namespace ProxyMesh

inductive ObjectsError where
  | notJson (fault : Option Json.Fault)
  | notObject (value : Json)
deriving DecidableEq

namespace ObjectsError

/-- what is said about a value that is no object -/
def foundText (v : Json) : String := "expected objects, found " ++ v.compact

def message : ObjectsError → String
  | .notJson fault => (fault.map Json.Fault.message).getD "not JSON"
  | .notObject v => foundText v

end ObjectsError

/-- a text without blanks at its ends and without commas at its end -/
def bareText (s : List Char) : List Char := Text.dropEndWhile (· = ',') (Text.trimChars s)

/-- the text as a list -/
def asList (s : List Char) : String :=
  match s with
  | '[' :: _ => String.ofList s
  | _ => String.ofList ('[' :: (s ++ [']']))

/-- the items, if all of them are objects -/
def onlyObjects (items : List Json) : Except ObjectsError (List Json) :=
  match items.find? (!·.isObject) with
  | some bad => .error (.notObject bad)
  | none => .ok items

def parseObjects (text : String) : Except ObjectsError (List Json) :=
  let bare := bareText text.toList
  if bare.isEmpty then .ok []
  else match Json.parse (asList bare) with
    | some (.arr items) => onlyObjects items
    | _ => .error (.notJson (Json.firstFault? .anything (asList bare)))

end ProxyMesh
