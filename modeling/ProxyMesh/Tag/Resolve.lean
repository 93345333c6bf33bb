import ProxyMesh.Store.Basic
import ProxyMesh.Tag.Basic

/-!
# Tags resolved on a node

* `LinkRole`       what an outbound is, as seen from the node that reports it;
* `resolveTag`     the binding behind a tag and the ends of the link, `none` if the tag says nothing,
                   the binding is gone or the tag does not belong on the node.
-/

namespace ProxyMesh

inductive LinkRole where
  | nodeOutbound
  | reverse
  | reverseInterconn
  | tunnelOutbound
  | tunnelReverse
  | tunnelReverseInterconn
deriving DecidableEq, Repr

namespace LinkRole

def word : LinkRole → String
  | .nodeOutbound => "node_outbound"
  | .reverse => "reverse"
  | .reverseInterconn => "reverse_interconn"
  | .tunnelOutbound => "tunnel_outbound"
  | .tunnelReverse => "tunnel_reverse"
  | .tunnelReverseInterconn => "tunnel_reverse_interconn"

/-- the role of an outbound of a rule or tunnel -/
def ofOutbound : Scope → LinkRole
  | .rule _ => .nodeOutbound
  | .tunnel _ => .tunnelOutbound

/-- the role of an end of a reverse link -/
def ofReverse : Scope → ReverseSide → LinkRole
  | .rule _, .bridge => .reverseInterconn
  | .rule _, .portal => .reverse
  | .tunnel _, .bridge => .tunnelReverseInterconn
  | .tunnel _, .portal => .tunnelReverse

end LinkRole

structure ResolvedTag where
  tag : TagRef
  binding : Binding
  role : LinkRole
  source : Id
  dest : Option Id
deriving DecidableEq, Repr

/-- the ends of the link that a tag stands for on `node` -/
def linkOn (node : Id) (b : Binding) (tag : TagRef) : Option ResolvedTag :=
  match tag, b.portalNodeId with
  | .outbound .., none =>
    if b.nodeId = node then
      some ⟨tag, b, .ofOutbound b.scope, node, b.connector.destNodeId⟩
    else none
  | .reverse _ .bridge _ peer _, some portal =>
    if b.nodeId = node ∧ peer = portal then
      some ⟨tag, b, .ofReverse b.scope .bridge, node, some portal⟩
    else none
  | .reverse _ .portal _ peer _, some portal =>
    if portal = node ∧ peer = b.nodeId then
      some ⟨tag, b, .ofReverse b.scope .portal, node, some b.nodeId⟩
    else none
  | _, _ => none

def resolveTag (s : Store) (node : Id) (text : String) : Option ResolvedTag := do
  let tag ← TagRef.decode? text
  let b ← s.bindings.get? tag.binding
  if b.scope = tag.scope then linkOn node b tag else none

end ProxyMesh
