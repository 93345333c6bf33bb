import ProxyMesh.Accounting.Run

/-!
# Commits under contention

* `Contention`          the periods that another worker claims anew just before the commit, and
                        those whose commit the store refuses;
* `Contention.commit`   the commit of a counter under such conditions.
-/

namespace ProxyMesh

structure Contention where
  stolen : List Id
  refused : List Id
deriving DecidableEq, Repr

namespace Contention

/-- another worker's claim on the period, which ends a second later -/
def steal (s : Store) (id : Id) (claim : Claim) : Store :=
  { s with periods := s.periods.adjust id fun p =>
      { p with claim := some { claim with expiresAt := claim.expiresAt + 1 } } }

def commit (c : Contention) : CounterCommit := fun s id claim counter =>
  let s := if c.stolen.contains id then steal s id claim else s
  if c.refused.contains id then (.error .store, s) else Store.commit s id claim counter

end Contention

end ProxyMesh
