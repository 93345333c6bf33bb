import ProxyMesh.Text.Lines
import ProxyMesh.Text.Quoted
import ProxyMesh.File.Spec

/-!
# Dependent files

A rendered text refers to a named file by the placeholder `*#path:name#*`, which stands for the path at
which the node keeps the file.

* `placeholders`      the kinds and names of all placeholders, in order;
* `dependentNames`    the names of files, each once;
* `substitute`        the text with the paths, and the files that it took.
-/

namespace ProxyMesh

/-- kind and name of the placeholder at the start of a text, and what follows it -/
def readPlaceholder (s : List Char) : Option (String × String × List Char) := do
  let s ← Text.stripStart "*#".toList s
  let kind := s.takeWhile Text.isWord
  let s ← Text.stripStart ":".toList (s.dropWhile Text.isWord)
  let name := s.takeWhile Text.isWord
  let rest ← Text.stripStart "#*".toList (s.dropWhile Text.isWord)
  if kind.isEmpty || name.isEmpty then none
  else pure (String.ofList kind, String.ofList name, rest)

/-- the placeholders of a text, `fuel` characters of it at most -/
def placeholdersAux : Nat → List Char → List (String × String)
  | 0, _ => []
  | _, [] => []
  | fuel + 1, c :: rest =>
    match readPlaceholder (c :: rest) with
    | some (kind, name, rest) => (kind, name) :: placeholdersAux fuel rest
    | none => placeholdersAux fuel rest

def placeholders (text : String) : List (String × String) :=
  placeholdersAux text.toList.length text.toList

/-- the names of the files that a text refers to, in order of first appearance -/
def dependentNames (text : String) : List String :=
  ((placeholders text).filter (·.1 == "path")).foldl
    (fun names p => if names.contains p.2 then names else names ++ [p.2]) []

/-- every occurrence of `pat` replaced, from the left -/
def replaceChars (pat new : List Char) : Nat → List Char → List Char
  | 0, s => s
  | fuel + 1, s =>
    match Text.cutAt pat s with
    | some (before, after) => before ++ new ++ replaceChars pat new fuel after
    | none => s

def replaceAll (pat new text : String) : String :=
  String.ofList (replaceChars pat.toList new.toList text.toList.length text.toList)

inductive DependentError where
  | unknownFile (name : String)
  | unsupportedPlaceholder
deriving DecidableEq, Repr

def DependentError.message : DependentError → String
  | .unknownFile name => "unknown dependent file " ++ Text.quoted name
  | .unsupportedPlaceholder => "unsupported placeholder"

/-- where a node keeps a named file -/
def dependentPath (workDir name content : String) : String :=
  workDir ++ "/files/" ++ name ++ "_" ++ String.ofList ((Sha256.hex content).toList.take 6)

/-- the files of a text, as far as their contents are known -/
def dependentFiles (content : String → Option String) (workDir : String) :
    List String → Except DependentError Unit × List (String × FileSpec)
  | [] => (.ok (), [])
  | name :: rest =>
    match content name with
    | none => (.error (.unknownFile name), [])
    | some text =>
      let file := FileSpec.inline (dependentPath workDir name text) text
      let (done, files) := dependentFiles content workDir rest
      (done, (name, file) :: files)

/-- the text with paths for placeholders; the files that it took are known even if it fails -/
def substitute (content : String → Option String) (workDir text : String) :
    Except DependentError String × List (String × FileSpec) :=
  let (done, files) := dependentFiles content workDir (dependentNames text)
  match done with
  | .error e => (.error e, files)
  | .ok () =>
    let replaced := files.foldl
      (fun text (name, file) => replaceAll ("*#path:" ++ name ++ "#*") file.dest text) text
    (if Text.hasInfix "*#" replaced then .error .unsupportedPlaceholder else .ok replaced, files)

end ProxyMesh
