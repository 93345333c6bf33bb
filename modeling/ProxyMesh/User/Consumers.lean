import ProxyMesh.Store.Basic
import ProxyMesh.Subscription.Limits
import ProxyMesh.User.Basic

/-!
# Who may use a rule

* `Store.periodUser?`       the user of a period, if its plan is for the rule and it is connectable;
* `Store.ruleConsumers`     the users of the periods, then the active internal users of other nodes;
* `Store.internalUserFor`   a node's own user for a rule, made when it is first needed.
-/

namespace ProxyMesh.Store

/-- the user of a connectable period of the rule -/
def periodUser? (s : Store) (rule : Id) (now : Nat) (p : Period) : Option User :=
  match s.plans.get? p.planId, s.profiles.get? p.profileId with
  | some plan, some profile =>
    if plan.ruleId == rule && isConnectable p profile plan now then
      some (.period p.id profile.id profile.proxyUuid)
    else none
  | _, _ => none

/-- an internal user that may come from another node than `node` -/
def isConsumer (rule node : Id) (u : InternalUser) : Bool :=
  u.ruleId == rule && u.isActive && u.nodeId != node

def ruleConsumers (s : Store) (rule node : Id) (now : Nat) : List User :=
  s.periods.records.filterMap (s.periodUser? rule now) ++
    (s.internalUsers.records.filter (isConsumer rule node)).map User.ofInternal

def internalUserFor (s : Store) (rule node : Id) : InternalUser × Store :=
  s.ensureInternalUser rule node (internalSecret s.siteSettings.reverseSeed rule node)

end ProxyMesh.Store
