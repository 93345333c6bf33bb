import ProxyMesh.Number.Bounds
import ProxyMesh.Topology.Documents

/-!
# What a plan grants

A plan names its provider by a key.  A strict plan fixes the limits itself, a dynamic one leaves them
to the period.

* `Provider.ofKey?`       the provider of a key;
* `Provider.limits?`      the limits of a period, `none` if its arguments are malformed;
* `expiresAt`             the time after which the period is over, counted from its first use;
* `remaining?`            the bytes left, negative once overrun, `none` beyond 63 bits;
* `isConnectable`         the period may be handed out as a user.
-/

namespace ProxyMesh

/-- what a period may use, and for how long -/
structure Limits where
  totalBytes : Nat
  expirySeconds : Nat
deriving DecidableEq, Repr

def Limits.decoder : Json.Decoder Limits :=
  Json.Decoder.record ["total_usage_limit_bytes", "expiry_seconds"] fun r => do
    pure {
      totalBytes := ← r.required "total_usage_limit_bytes" Json.Decoder.nat
      expirySeconds := ← r.required "expiry_seconds" Json.Decoder.nat }

inductive Provider where
  | strict
  | dynamic
deriving DecidableEq, Repr

namespace Provider

def key : Provider → String
  | .strict => "type_simple_strict1"
  | .dynamic => "type_simple_dynamic1"

def ofKey? (k : String) : Option Provider := [strict, dynamic].find? (·.key == k)

/-- the arguments that hold the limits -/
def arguments (p : Provider) (plan : Plan) (period : Period) : Json :=
  match p with
  | .strict => plan.providerArgs
  | .dynamic => period.planArgs

def limits? (p : Provider) (plan : Plan) (period : Period) : Option Limits :=
  Json.decodeValue Limits.decoder (p.arguments plan period)

end Provider

/-- an unused period is over relative to `now`; a time beyond 64 bits wraps around -/
def expiresAt (limits : Limits) (period : Period) (now : Nat) : Nat :=
  wrapWord (period.usage.first.getD now + limits.expirySeconds)

/-- both directions draw on one limit -/
def remaining? (limits : Limits) (period : Period) : Option Int :=
  let left : Int := (limits.totalBytes : Int) -
    (period.counter.current.download + period.counter.current.upload)
  if isSigned left then some left else none

def isConnectable (period : Period) (profile : Profile) (plan : Plan) (now : Nat) : Bool :=
  period.isCurrent && profile.isActive &&
    match Provider.ofKey? plan.providerKey with
    | none => false
    | some provider =>
      match provider.limits? plan period with
      | none => false
      | some limits =>
        now < expiresAt limits period now && 0 < (remaining? limits period).getD 0

end ProxyMesh
