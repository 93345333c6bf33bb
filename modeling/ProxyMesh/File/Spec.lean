import ProxyMesh.Hash.Sha256
import ProxyMesh.Json.Basic

/-!
# Files that a node needs

* `FileSpec`     a file to download or to write, with the digest of its content;
* `shortHash?`   the first six bytes of a digest, by which installed files are told apart.
-/

namespace ProxyMesh

structure FileSpec where
  dest : String
  url : Option String
  content : Option String
  hash : Option String
  mode : UInt32
deriving DecidableEq, Repr

namespace FileSpec

/-- `rwxr--r--` -/
def defaultMode : UInt32 := 7 * 64 + 4 * 8 + 4

def download (dest url hash : String) : FileSpec := ⟨dest, some url, none, some hash, defaultMode⟩

def inline (dest content : String) : FileSpec :=
  ⟨dest, none, some content, some (Sha256.hex content), defaultMode⟩

/-- the node has to do something to get the file -/
def needsTransfer (f : FileSpec) : Bool := f.url.isSome || f.content.isSome

def toJson (f : FileSpec) : Json := .obj [
  ("dest", .str f.dest), ("url", .ofText f.url), ("content", .ofText f.content),
  ("hash", .ofText f.hash), ("mode", .ofNat f.mode.toNat)]

end FileSpec

/-- the characters of the first `size` bytes; `none` if they end inside a character -/
def takeBytes : Nat → List Char → Option (List Char)
  | 0, _ => some []
  | _ + 1, [] => some []
  | size + 1, c :: rest =>
    if size + 1 < c.utf8Size then none
    else (takeBytes (size + 1 - c.utf8Size) rest).map (c :: ·)
termination_by _ s => s.length

/-- the first six bytes of a digest; `none` if they end inside a character -/
def shortHash? (hash : String) : Option String := (takeBytes 6 hash.toList).map String.ofList

end ProxyMesh
