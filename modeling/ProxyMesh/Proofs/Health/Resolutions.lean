import ProxyMesh.Health.Correlator
import ProxyMesh.Proofs.Tables

/-!
# Resolutions that are kept are not seen

A correlator keeps what a tag resolved to, that it did not resolve included, and looks at the store only
for tags that it has not seen.  What it keeps is out of date as soon as a binding changes.  If all of it
is dropped before the next observation, nobody can tell: the correlator answers like one that asks the
store for every tag.  The trackers of the links are not dropped with the resolutions, and they do not
depend on them.

* `Observer`               a correlator that keeps no resolutions;
* `Correlator.links`       a correlator without the resolutions that it keeps;
* `Correlator.Current`     what is kept is what the store would answer;
* `resolve_of_current`, `observe_of_current`, `observeAll_of_current`   a current correlator answers
                           like the observer, and stays current;
* `Correlator.Event`, `clearsInTime`   what may happen, and that the resolutions are dropped in time;
* `history_of_clearsInTime`   **both give the same points and the same trackers all along**.
-/

namespace ProxyMesh

/-! ## without resolutions -/

/-- a correlator that keeps no resolutions -/
structure Observer where
  threshold : Nat
  trackers : Table (NodeTag × LinkTracker)

namespace Observer

def fresh (threshold : Nat) : Observer := ⟨threshold, .empty⟩

def tracker? (w : Observer) (node : Id) (tag : String) : Option LinkTracker :=
  (w.trackers.get? (node, tag)).map (·.2)

/-- the tracker of a link after one more observation -/
def track (w : Observer) (node : Id) (o : Observation) : LinkTracker :=
  ((w.tracker? node o.tag).getD (.fresh w.threshold)).record o.alive

/-- an observation, its tag resolved against the store as it is -/
def observe (w : Observer) (s : Store) (node : Id) (time : Nat) (o : Observation) :
    Option Point × Observer :=
  match resolveTag s node o.tag with
  | none => (none, w)
  | some r =>
    let t := w.track node o
    (some (healthPoint node o r t.isUp time), { w with trackers := w.trackers.put ((node, o.tag), t) })

def observeAll (w : Observer) (s : Store) (node : Id) (time : Nat) :
    List Observation → List Point × Observer
  | [] => ([], w)
  | o :: rest =>
    let (point, w) := w.observe s node time o
    let (points, w) := observeAll w s node time rest
    (point.toList ++ points, w)

def correlate (w : Observer) (s : Store) (node : Id) (time : Nat) (log : String) :
    List Point × Observer :=
  w.observeAll s node time ((Text.lines log).filterMap readProbe?)

end Observer

namespace Correlator

/-- a correlator without the resolutions that it keeps -/
def links (c : Correlator) : Observer := ⟨c.threshold, c.trackers⟩

/-- what is kept is what the store would answer -/
def Current (c : Correlator) (s : Store) : Prop :=
  ∀ k kept, c.resolved.get? k = some kept → kept.2 = resolveTag s k.1 k.2

section
variable {c : Correlator} {s : Store}

theorem current_of_empty (h : c.resolved = .empty) : c.Current s := by
  intro k kept hkept
  rw [h] at hkept
  cases hkept

theorem links_resolve (c : Correlator) (s : Store) (node : Id) (tag : String) :
    (c.resolve s node tag).2.links = c.links := by
  unfold resolve
  split <;> rfl

theorem resolve_of_current (h : c.Current s) (node : Id) (tag : String) :
    (c.resolve s node tag).1 = resolveTag s node tag ∧ (c.resolve s node tag).2.Current s := by
  unfold resolve
  split
  next known hknown => exact ⟨h (node, tag) _ hknown, h⟩
  next =>
    refine ⟨rfl, fun k kept hkept => ?_⟩
    by_cases hk : k = (node, tag)
    · subst hk
      have hput := Table.get?_put_self c.resolved ((node, tag), resolveTag s node tag)
      obtain rfl := Option.some.inj (hput.symm.trans hkept)
      rfl
    · rw [Table.get?_put_ne c.resolved (show k ≠ key ((node, tag), _) from hk)] at hkept
      exact h k kept hkept

theorem observe_of_current (h : c.Current s) (node : Id) (time : Nat) (o : Observation) :
    (c.observe s node time o).1 = (c.links.observe s node time o).1 ∧
      (c.observe s node time o).2.links = (c.links.observe s node time o).2 ∧
      (c.observe s node time o).2.Current s := by
  obtain ⟨hfound, hcurrent⟩ := resolve_of_current h node o.tag
  have hlinks := links_resolve c s node o.tag
  rcases hresolve : c.resolve s node o.tag with ⟨found, c'⟩
  rw [hresolve] at hfound hcurrent hlinks
  have htrack : c'.track node o = c.links.track node o := by
    rw [← hlinks]
    rfl
  unfold observe Observer.observe
  rw [hresolve, ← hfound]
  cases found with
  | none => exact ⟨rfl, hlinks, hcurrent⟩
  | some r =>
    refine ⟨?_, ?_, hcurrent⟩
    · simp only [htrack]
    · simp only [htrack]
      rw [← hlinks]
      rfl

theorem observeAll_of_current (h : c.Current s) (node : Id) (time : Nat) (l : List Observation) :
    (c.observeAll s node time l).1 = (c.links.observeAll s node time l).1 ∧
      (c.observeAll s node time l).2.links = (c.links.observeAll s node time l).2 ∧
      (c.observeAll s node time l).2.Current s := by
  induction l generalizing c with
  | nil => exact ⟨rfl, rfl, h⟩
  | cons o rest ih =>
    obtain ⟨hpoint, hlinks, hcurrent⟩ := observe_of_current h node time o
    obtain ⟨hpoints, hlinks', hcurrent'⟩ := ih hcurrent
    rw [hlinks] at hpoints hlinks'
    exact ⟨congrArg₂ (·.toList ++ ·) hpoint hpoints, hlinks', hcurrent'⟩

end

end Correlator

/-! ## what may happen -/

/-- what may happen to a correlator and to the store that it looks at -/
inductive Correlator.Event where
  | putBinding (b : Binding)
  | deleteBinding (id : Id)
  | importSnapshot (d : Snapshot)
  | clearCache
  | observe (node : Id) (time : Nat) (o : Observation)
  | correlate (node : Id) (time : Nat) (log : String)

/-- the store after an event -/
def Store.meet (s : Store) : Correlator.Event → Store
  | .putBinding b => { s with bindings := s.bindings.put b }
  | .deleteBinding id => { s with bindings := s.bindings.erase id }
  | .importSnapshot d => s.importSnapshot d
  | _ => s

/-- the points of an event, and the correlator after it -/
def Correlator.meet (c : Correlator) (s : Store) : Correlator.Event → List Point × Correlator
  | .clearCache => ([], c.clearCache)
  | .observe node time o =>
    let (point, c) := c.observe s node time o
    (point.toList, c)
  | .correlate node time log => c.correlate s node time log
  | _ => ([], c)

def Observer.meet (w : Observer) (s : Store) : Correlator.Event → List Point × Observer
  | .observe node time o =>
    let (point, w) := w.observe s node time o
    (point.toList, w)
  | .correlate node time log => w.correlate s node time log
  | _ => ([], w)

/-- the points of each event, and the trackers after it -/
def Correlator.history (c : Correlator) (s : Store) :
    List Correlator.Event → List (List Point × Table (NodeTag × LinkTracker))
  | [] => []
  | e :: rest =>
    let (points, c) := c.meet s e
    (points, c.trackers) :: c.history (s.meet e) rest

def Observer.history (w : Observer) (s : Store) :
    List Correlator.Event → List (List Point × Table (NodeTag × LinkTracker))
  | [] => []
  | e :: rest =>
    let (points, w) := w.meet s e
    (points, w.trackers) :: w.history (s.meet e) rest

/-- between a change of the topology and the next observation the resolutions are dropped; `due` while
they have not been dropped since the last change.  A log without probes is no observation. -/
def clearsInTime (due : Bool) : List Correlator.Event → Bool
  | [] => true
  | .clearCache :: rest => clearsInTime false rest
  | .observe .. :: rest => !due && clearsInTime due rest
  | .correlate _ _ log :: rest =>
    (!due || ((Text.lines log).filterMap readProbe?).isEmpty) && clearsInTime due rest
  | _ :: rest => clearsInTime true rest

/-! ## nobody can tell -/

section
variable {c : Correlator} {s : Store} {due : Bool} {e : Correlator.Event} {rest : List Correlator.Event}

/-- one event, by a correlator that is current unless its resolutions are to be dropped -/
theorem meet_of_current (hcurrent : due = false → c.Current s)
    (h : clearsInTime due (e :: rest) = true) :
    (c.meet s e).1 = (c.links.meet s e).1 ∧ (c.meet s e).2.links = (c.links.meet s e).2 ∧
      ∃ due', clearsInTime due' rest = true ∧ (due' = false → (c.meet s e).2.Current (s.meet e)) := by
  cases e with
  | putBinding b => exact ⟨rfl, rfl, true, h, nofun⟩
  | deleteBinding id => exact ⟨rfl, rfl, true, h, nofun⟩
  | importSnapshot d => exact ⟨rfl, rfl, true, h, nofun⟩
  | clearCache => exact ⟨rfl, rfl, false, h, fun _ => Correlator.current_of_empty rfl⟩
  | observe node time o =>
    obtain ⟨hdue, hrest⟩ := Bool.and_eq_true_iff.1 h
    obtain ⟨hpoint, hlinks, hnext⟩ :=
      Correlator.observe_of_current (hcurrent (Bool.not_eq_eq_eq_not.1 hdue)) node time o
    exact ⟨congrArg Option.toList hpoint, hlinks, due, hrest, fun _ => hnext⟩
  | correlate node time log =>
    obtain ⟨hdue, hrest⟩ := Bool.and_eq_true_iff.1 h
    rcases Bool.or_eq_true_iff.1 hdue with hdue | hsilent
    · obtain ⟨hpoints, hlinks, hnext⟩ :=
        Correlator.observeAll_of_current (hcurrent (Bool.not_eq_eq_eq_not.1 hdue)) node time
          ((Text.lines log).filterMap readProbe?)
      exact ⟨hpoints, hlinks, due, hrest, fun _ => hnext⟩
    · have hnone := List.isEmpty_iff.1 hsilent
      have hkept : c.meet s (.correlate node time log) = ([], c) :=
        congrArg (c.observeAll s node time) hnone
      have hlinks : c.links.meet s (.correlate node time log) = ([], c.links) :=
        congrArg (c.links.observeAll s node time) hnone
      rw [hkept, hlinks]
      exact ⟨rfl, rfl, due, hrest, hcurrent⟩

theorem history_of_current (hcurrent : due = false → c.Current s) {events : List Correlator.Event}
    (h : clearsInTime due events = true) : c.history s events = c.links.history s events := by
  induction events generalizing c s due with
  | nil => rfl
  | cons e rest ih =>
    obtain ⟨hpoints, hlinks, due', hrest, hnext⟩ := meet_of_current hcurrent h
    have hlater := ih hnext hrest
    rw [hlinks] at hlater
    exact congrArg₂ List.cons (Prod.ext hpoints (congrArg Observer.trackers hlinks)) hlater

end

/-- **Resolutions that are kept are not seen.**  If they are dropped between any change of the topology
and the next observation, a correlator gives the same points for every event, and has the same trackers
after it, as one that resolves every tag against the store. -/
theorem history_of_clearsInTime (threshold : Nat) (s : Store) (events : List Correlator.Event)
    (h : clearsInTime false events = true) :
    (Correlator.fresh threshold).history s events = (Observer.fresh threshold).history s events :=
  history_of_current (fun _ => Correlator.current_of_empty rfl) h

/-- a hop of rule 7 at node 1 -/
def directHop : Binding := ⟨1, "direct", .rule 7, 1, none, ⟨"", none, none, none⟩, []⟩

def deadProbe : Observation := ⟨"ro_7_1", false, none, none, none⟩

/-- a hop is probed before it is there, while it is there, when it is gone, and when it is back -/
def probedHop : List Correlator.Event := [
  .observe 1 10 deadProbe, .putBinding directHop, .clearCache,
  .correlate 1 20 "outbound [ro_7_1] is dead\noutbound [ro_7_1] is alive, 5ms", .observe 1 30 deadProbe,
  .deleteBinding 1, .clearCache, .observe 1 40 deadProbe,
  .putBinding directHop, .clearCache, .observe 1 50 deadProbe]

/-- the link is down with the second dead probe in a row, although the hop was gone between them -/
theorem history_of_clearsInTime_probedHop :
    clearsInTime false probedHop = true ∧
      (Correlator.fresh 2).history .empty probedHop = (Observer.fresh 2).history .empty probedHop ∧
      ((Correlator.fresh 2).history .empty probedHop).map (·.1.length) =
        [0, 0, 0, 2, 1, 0, 0, 0, 0, 0, 1] ∧
      (((Correlator.fresh 2).history .empty probedHop).map fun e =>
        (e.2.get? (1, "ro_7_1")).map fun t => (t.2.status, t.2.dead)) =
        [none, none, none, some (.up, 0), some (.up, 1), some (.up, 1), some (.up, 1), some (.up, 1),
          some (.up, 1), some (.up, 1), some (.down, 2)] := by
  have h : clearsInTime false probedHop = true := rfl
  exact ⟨h, history_of_clearsInTime 2 .empty probedHop h, by decide +kernel, by decide +kernel⟩

-- that a tag did not resolve is kept as well: a new hop is seen only once this is dropped
example : let events := [.observe 1 10 deadProbe, .putBinding directHop, .observe 1 20 deadProbe]
    ((Correlator.fresh 2).history .empty events).map (·.1.length) = [0, 0, 0] ∧
      ((Observer.fresh 2).history .empty events).map (·.1.length) = [0, 0, 1] := by
  decide +kernel

end ProxyMesh
