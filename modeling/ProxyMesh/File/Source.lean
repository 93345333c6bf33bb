import ProxyMesh.Text.Lines

/-!
# Where a program comes from

A source is a download address, a path on the node, or the digest of a blob that the program store
serves.

* `Source.parse`      the source that a URI names;
* `Source.fetchUrl`   the address to download from, if the node has to.
-/

namespace ProxyMesh

inductive Source where
  | http (url : String)
  | path (path : String)
  | blob (hash : String)
deriving DecidableEq, Repr

inductive SourceError where
  | unsupportedScheme (uri : String)
  | invalidUri (uri : String)
deriving DecidableEq, Repr

def SourceError.message : SourceError → String
  | .unsupportedScheme uri => "unsupported source scheme: " ++ uri
  | .invalidUri uri => "invalid source URI: " ++ uri

namespace Source

def isHexDigit (c : Char) : Bool :=
  ('0' ≤ c && c ≤ '9') || ('a' ≤ c && c ≤ 'f') || ('A' ≤ c && c ≤ 'F')

def parse (uri : String) : Except SourceError Source :=
  let after (lead : String) : Option (List Char) := Text.stripStart lead.toList uri.toList
  if (after "https://").isSome || (after "http://").isSome then .ok (.http uri)
  else match after "file://", after "sha256:", after "/" with
    | some rest, _, _ =>
      if rest.isEmpty then .error (.invalidUri uri) else .ok (.path (String.ofList rest))
    | none, some digits, _ =>
      if digits.length < 6 || !digits.all isHexDigit then .error (.invalidUri uri)
      else .ok (.blob (String.ofList (digits.map Char.toLower)))
    | none, none, some _ => .ok (.path uri)
    | none, none, none => .error (.unsupportedScheme uri)

def scheme : Source → String
  | .http _ => "http"
  | .path _ => "file"
  | .blob _ => "sha256"

/-- the address to download from, for a blob below `baseUrl` -/
def fetchUrl (baseUrl : String) : Source → Option String
  | .http u => some u
  | .blob h =>
    some (String.ofList (Text.dropEndWhile (· = '/') baseUrl.toList) ++ "/programs/" ++ h)
  | .path _ => none

end Source

end ProxyMesh
