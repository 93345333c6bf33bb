import ProxyMesh.Text.Lines

/-!
# Paths

* `pathNames`     the names of a path that lead somewhere;
* `joinPath`      a name below a directory;
* `absolutePath`  a path as seen from the root.
-/

namespace ProxyMesh

def isAbsolute (path : String) : Bool := path.toList.head? == some '/'

/-- the names of a path that lead somewhere -/
def pathNames (path : String) : List String :=
  (Text.splitAt '/' path).filter fun name => !name.isEmpty && name != "."

/-- `name` below a directory; an absolute name stands for itself -/
def joinPath (dir name : String) : String :=
  if isAbsolute name || dir.isEmpty then name
  else if dir.toList.getLast? == some '/' then dir ++ name
  else dir ++ "/" ++ name

/-- two slashes in front have a meaning of their own, more than two count as one -/
def rootOf (path : String) : String :=
  match path.toList with
  | '/' :: '/' :: '/' :: _ => "/"
  | '/' :: '/' :: _ => "//"
  | _ => "/"

/-- a path as seen from the root, without names that lead nowhere -/
def absolutePath (here path : String) : String :=
  let names := "/".intercalate (pathNames path)
  if isAbsolute path then rootOf path ++ names
  else if names.isEmpty then here
  else joinPath here names

example : absolutePath "/srv" "./a//../b/" = "/srv/a/../b" := by decide +kernel
example : absolutePath "/srv" "." = "/srv" ∧ absolutePath "/srv" "///x" = "/x" := by
  decide +kernel

end ProxyMesh
