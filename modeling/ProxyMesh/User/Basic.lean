import ProxyMesh.User.Secret

/-!
# Proxy users

A user is known to the runtime by an e-mail, which is both the routing key and the key under which
its traffic is reported.

* `User.email`       the e-mail within a domain;
* `reverseUser`      the user of one allocation of a reverse link;
* `tunnelUser`       the user by which a tunnel's source reaches its destination;
* `internalSecret`   the secret of a node's own user for a rule.
-/

namespace ProxyMesh

inductive User where
  | period (period profile : Id) (uuid : String)
  | internal (rule node : Id) (uuid : String)
  | reverse (scope : Scope) (binding : Id) (allocation uuid : String)
  | tunnel (tunnel : Id) (uuid : String)
deriving DecidableEq, Repr

namespace User

def email (domain : String) : User → String
  | .period id profile _ =>
    "period" ++ toString id ++ ".profile" ++ toString profile ++ "@" ++ domain
  | .internal rule node _ => "rule" ++ toString rule ++ ".node" ++ toString node ++ "@" ++ domain
  | .reverse (.rule _) binding allocation _ =>
    "reverse" ++ toString binding ++ "." ++ allocation ++ "@" ++ domain
  | .reverse (.tunnel _) binding allocation _ =>
    "treverse" ++ toString binding ++ "." ++ allocation ++ "@" ++ domain
  | .tunnel id _ => "tunnel" ++ toString id ++ "@" ++ domain

def uuid : User → String
  | .period _ _ uuid => uuid
  | .internal _ _ uuid => uuid
  | .reverse _ _ _ uuid => uuid
  | .tunnel _ uuid => uuid

def kind : User → String
  | .period .. => "period"
  | .internal .. => "internal"
  | .reverse .. => "reverse"
  | .tunnel .. => "tunnel"

/-- what a template sees of a user -/
def toJson (domain : String) (u : User) : Json :=
  .ofFields [("email", .str (u.email domain)), ("uuid", .str u.uuid), ("kind", .str u.kind)]

def ofInternal (u : InternalUser) : User := .internal u.ruleId u.nodeId u.proxyUuid

end User

def reverseUser (seed : String) (b : Binding) (allocation : String) : User :=
  .reverse b.scope b.id allocation (deriveUuid seed ["reverse", toString b.id, allocation])

def tunnelUser (t : Tunnel) : User :=
  .tunnel t.id (deriveUuid t.seed ["tunnel", toString t.id])

def internalSecret (seed : String) (rule node : Id) : String :=
  deriveUuid seed ["internal", toString rule, toString node]

end ProxyMesh
