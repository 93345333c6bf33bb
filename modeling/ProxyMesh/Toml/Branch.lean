import ProxyMesh.Toml.Basic

/-!
# Tables under construction

A table is made by a header, on the way to a header, or by a dotted key.  A header may take over only
a table that was made on the way; dotted keys may add only to tables that dotted keys made.

* `Branch`             a value, a table or a list of tables;
* `Entries.open?`      a header `[path]`;
* `Entries.append?`    a header `[[path]]`;
* `Entries.insert?`    a key with its value below the last header.
-/

namespace ProxyMesh.Toml

inductive Origin where
  | header
  | path
  | dotted
deriving DecidableEq, Repr

inductive Branch where
  | leaf (value : Toml)
  | table (origin : Origin) (entries : List (String × Branch))
  | tables (items : List (List (String × Branch)))

abbrev Entries := List (String × Branch)

mutual
/-- the value of a finished branch -/
def Branch.value : Branch → Toml
  | .leaf v => v
  | .table _ entries => .table (entryValues entries)
  | .tables items => .list (tableValues items)
def entryValues : List (String × Branch) → List (String × Toml)
  | [] => []
  | (name, b) :: rest => (name, b.value) :: entryValues rest
def tableValues : List (List (String × Branch)) → List Toml
  | [] => []
  | entries :: rest => .table (entryValues entries) :: tableValues rest
end

namespace Entries

/-- the entry of this name exchanged -/
def replace (es : Entries) (name : String) (b : Branch) : Entries :=
  es.map fun (k, old) => (k, if k = name then b else old)

/-- the table at the end of a path changed; tables that are missing are made as `make` says -/
def change (make : Origin) (f : Origin → Entries → Option Entries) :
    List String → Origin → Entries → Option Entries
  | [], origin, es => f origin es
  | name :: rest, _, es =>
    match es.lookup name with
    | none => (change make f rest make []).map fun inner => es ++ [(name, .table make inner)]
    | some (.leaf _) => none
    | some (.table origin inner) =>
      if make = .dotted && origin = .header then none
      else (change make f rest origin inner).map fun inner =>
        es.replace name (.table origin inner)
    | some (.tables items) =>
      match items.getLast? with
      | none => none
      | some last => (change make f rest .header last).map fun last =>
        es.replace name (.tables (items.dropLast ++ [last]))

/-- a table made or taken over by its header -/
def openTable (name : String) (es : Entries) : Option Entries :=
  match es.lookup name with
  | none => some (es ++ [(name, .table .header [])])
  | some (.table .path inner) => some (es.replace name (.table .header inner))
  | some _ => none

/-- one more table in a list of tables -/
def appendTable (name : String) (es : Entries) : Option Entries :=
  match es.lookup name with
  | none => some (es ++ [(name, .tables [[]])])
  | some (.tables items) => some (es.replace name (.tables (items ++ [[]])))
  | some _ => none

/-- a value under a new name; a dotted key must end in a table that dotted keys made, and a plain one
must not -/
def addLeaf (isDotted : Bool) (name : String) (v : Toml) (origin : Origin) (es : Entries) :
    Option Entries :=
  if (origin == .dotted) != isDotted || (es.lookup name).isSome then none
  else some (es ++ [(name, .leaf v)])

/-- the last name of a path and those before it -/
def splitPath (path : List String) : Option (List String × String) :=
  path.getLast?.map (path.dropLast, ·)

def open? (es : Entries) (path : List String) : Option Entries := do
  let (parents, name) ← splitPath path
  change .path (fun _ => openTable name) parents .header es

def append? (es : Entries) (path : List String) : Option Entries := do
  let (parents, name) ← splitPath path
  change .path (fun _ => appendTable name) parents .header es

/-- a key, dotted or not, in the table at `table` -/
def insert? (es : Entries) (table key : List String) (v : Toml) : Option Entries := do
  let (parents, name) ← splitPath key
  change .path (change .dotted (addLeaf (!parents.isEmpty) name v) parents) table .header es

end Entries

end ProxyMesh.Toml
