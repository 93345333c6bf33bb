import ProxyMesh.Topology.Records
import ProxyMesh.Text.Naturals
import ProxyMesh.Text.Lines

/-!
# Outbound tags

An outbound carries a short tag that names the binding behind it, so that what the runtime reports
by tag can be traced without a lookup table.

    ro_{rule}_{binding}       to_{tunnel}_{binding}
    rb_{rule}_{binding}_{peer}_{allocation}       rp_...  the bridge and the portal of a rule
    tb_{tunnel}_{binding}_{peer}_{allocation}     tp_...  and of a tunnel

The allocation is free text.

* `TagRef.encode`, `TagRef.decode?`   a reference as a tag and back;
* `interconnectTag`                   the outbound that a bridge uses to reach its portal;
* `balancerTag`, `tunnelInboundTag`   the other tags of a document.
-/

namespace ProxyMesh

/-- an end of a reverse link -/
inductive ReverseSide where
  | bridge
  | portal
deriving DecidableEq, Repr

/-- what a tag refers to; `peer` is the node at the other end -/
inductive TagRef where
  | outbound (scope : Scope) (binding : Id)
  | reverse (scope : Scope) (side : ReverseSide) (binding peer : Id) (allocation : String)
deriving DecidableEq, Repr

namespace TagRef

def scope : TagRef → Scope
  | .outbound scope _ => scope
  | .reverse scope .. => scope

def binding : TagRef → Id
  | .outbound _ binding => binding
  | .reverse _ _ binding .. => binding

def isBridge : TagRef → Bool
  | .reverse _ .bridge .. => true
  | _ => false

/-- the two letters in front -/
def outboundMark : Scope → String
  | .rule _ => "ro"
  | .tunnel _ => "to"

def reverseMark : Scope → ReverseSide → String
  | .rule _, .bridge => "rb"
  | .rule _, .portal => "rp"
  | .tunnel _, .bridge => "tb"
  | .tunnel _, .portal => "tp"

def encode : TagRef → String
  | .outbound scope binding =>
    outboundMark scope ++ "_" ++ toString scope.id ++ "_" ++ toString binding
  | .reverse scope side binding peer allocation =>
    reverseMark scope side ++ "_" ++ toString scope.id ++ "_" ++ toString binding ++ "_" ++
      toString peer ++ "_" ++ allocation

/-- digits up to an underscore, and what follows it -/
def readField (s : List Char) : Option (Id × List Char) :=
  match Text.takeDigits s with
  | (digits, '_' :: rest) => (Text.readWord digits).map (·, rest)
  | _ => none

/-- the two ids of an outbound tag -/
def readOutbound (scope : Id → Scope) (s : List Char) : Option TagRef := do
  let (scopeId, s) ← readField s
  let binding ← Text.readWord s
  pure (.outbound (scope scopeId) binding)

/-- the three ids of a reverse tag and the allocation -/
def readReverse (scope : Id → Scope) (side : ReverseSide) (s : List Char) : Option TagRef := do
  let (scopeId, s) ← readField s
  let (binding, s) ← readField s
  let (peer, s) ← readField s
  pure (.reverse (scope scopeId) side binding peer (String.ofList s))

/-- a tag without the mark of an interconnect -/
def decodeChars : List Char → Option TagRef
  | 'r' :: 'o' :: '_' :: s => readOutbound .rule s
  | 't' :: 'o' :: '_' :: s => readOutbound .tunnel s
  | 'r' :: 'b' :: '_' :: s => readReverse .rule .bridge s
  | 'r' :: 'p' :: '_' :: s => readReverse .rule .portal s
  | 't' :: 'b' :: '_' :: s => readReverse .tunnel .bridge s
  | 't' :: 'p' :: '_' :: s => readReverse .tunnel .portal s
  | _ => none

/-- the mark of an interconnect, for bridges only -/
def interconnectMark : String := "ic-"

/-- what a tag refers to; an interconnect refers to its bridge -/
def decode? (tag : String) : Option TagRef :=
  match Text.stripStart interconnectMark.toList tag.toList with
  | some rest => (decodeChars rest).filter isBridge
  | none => decodeChars tag.toList

end TagRef

/-- the interconnect outbound of a bridge -/
def interconnectTag (bridgeTag : String) : String := TagRef.interconnectMark ++ bridgeTag

/-- the balancer `name` of a rule or tunnel -/
def balancerTag (scope : Scope) (name : String) : String :=
  match scope with
  | .rule id => "lb_" ++ toString id ++ "_" ++ name
  | .tunnel id => "tlb_" ++ toString id ++ "_" ++ name

/-- the forwarding inbound on a tunnel's source -/
def tunnelInboundTag (tunnel : Id) : String := "tin_" ++ toString tunnel

end ProxyMesh
