import ProxyMesh.Hash.Sha256
import ProxyMesh.Topology.Records

/-!
# Derived secrets

* `deriveUuid`      a secret in the form of a random UUID, decided by a seed and identifying parts;
* `reverseDomain`   the domain that both halves of a reverse link share.
-/

namespace ProxyMesh

/-- the text that is hashed: the seed and each part after a colon -/
def secretText (seed : String) (parts : List String) : String :=
  parts.foldl (fun text part => text ++ ":" ++ part) seed

/-- version and variant of a random UUID put into the digest -/
def stampVersion (b : List UInt8) : List UInt8 :=
  (b.modify 6 fun x => (x &&& 0x0f) ||| 0x40).modify 8 fun x => (x &&& 0x3f) ||| 0x80

/-- sixteen bytes as a UUID is written -/
def uuidText (b : List UInt8) : String :=
  let hex (start count : Nat) := String.ofList (((b.drop start).take count).flatMap Sha256.hexByte)
  String.intercalate "-" [hex 0 4, hex 4 2, hex 6 2, hex 8 2, hex 10 6]

def deriveUuid (seed : String) (parts : List String) : String :=
  uuidText (stampVersion ((Sha256.digest (secretText seed parts).toUTF8).take 16))

/-- the text that is hashed for the domain of a reverse link -/
def reverseDomainText (scope : Scope) (binding : Id) (allocation : String) : String :=
  scope.keyText ++ "/" ++ toString binding ++ "/" ++ allocation

def reverseDomain (scope : Scope) (binding : Id) (allocation userDomain : String) : String :=
  String.ofList ((Sha256.hex (reverseDomainText scope binding allocation)).toList.take 12) ++
    ".reverse." ++ userDomain

end ProxyMesh
