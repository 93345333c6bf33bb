import Mathlib.Data.List.Induction
import ProxyMesh.Proofs.Health.Resolutions
import ProxyMesh.Proofs.Traffic.Points

/-!
# The state of a link by its history

The trackers of all links are kept in one table, and every observation that resolves changes one of
them.  What a tracker says comes from the observations of its own link alone: the link is down exactly
while the last of them, as many as the threshold asks for, are all dead.

* `deadRun`, `EndsDead`, `statusAfter`   the dead observations at the end of a history, and the status
                           that they make;
* `LinkTracker.after_eq`   **a tracker is decided by the end of its history**;
* `Correlator.run`         the points of events one after the other, and the correlator after them;
* `Incident`, `incidents`  single observations, each with the store that it finds;
* `resolutionAfter`        a tag resolves to what the store answered at its first observation since the
                           resolutions were dropped;
* `Sighting`, `sightings`, `outcomes`   the observations that resolve, and those of one link;
* `pointsAfter`            the points that the histories of the links call for;
* `Remembers`, `remembers_live`, `remembers_replay`   a correlator that resolves and tracks by what there
                           was goes on to do so, incident by incident;
* `link_states`            **every point and every tracker tells the history of its own link**.
-/

namespace ProxyMesh

/-! ## one link -/

/-- the dead observations at the end -/
def deadRun (history : List Bool) : Nat := (history.reverse.takeWhile (!·)).length

/-- the last observations, as many as the threshold asks for, are there and are all dead -/
def EndsDead (threshold : Nat) (history : List Bool) : Prop :=
  List.replicate (max threshold 1) false <:+ history

instance (threshold : Nat) (history : List Bool) : Decidable (EndsDead threshold history) :=
  inferInstanceAs (Decidable (_ <:+ _))

/-- down at the end of enough dead observations, else up if any was alive -/
def statusAfter (threshold : Nat) (history : List Bool) : LinkStatus :=
  if EndsDead threshold history then .down else if true ∈ history then .up else .unknown

section
variable {threshold : Nat} {history : List Bool}

theorem deadRun_concat_true (history : List Bool) : deadRun (history ++ [true]) = 0 := by
  simp [deadRun]

theorem deadRun_concat_false (history : List Bool) :
    deadRun (history ++ [false]) = deadRun history + 1 := by
  simp [deadRun]

theorem deadRun_le_length (history : List Bool) : deadRun history ≤ history.length := by
  have h := (List.takeWhile_sublist (l := history.reverse) (!·)).length_le
  rwa [List.length_reverse] at h

theorem replicate_suffix_iff {count : Nat} :
    List.replicate count false <:+ history ↔ count ≤ deadRun history := by
  induction history using List.reverseRecOn generalizing count with
  | nil => simp [deadRun]
  | append_singleton history alive ih =>
    cases count with
    | zero => simp
    | succ count =>
      rw [List.replicate_succ', List.suffix_concat_iff]
      cases alive with
      | true => simp [deadRun_concat_true]
      | false => simp [deadRun_concat_false, ih]

theorem endsDead_iff : EndsDead threshold history ↔ max threshold 1 ≤ deadRun history :=
  replicate_suffix_iff

theorem statusAfter_concat_true (threshold : Nat) (history : List Bool) :
    statusAfter threshold (history ++ [true]) = .up := by
  have halive : ¬ EndsDead threshold (history ++ [true]) := by
    rw [endsDead_iff, deadRun_concat_true]
    omega
  unfold statusAfter
  rw [if_neg halive, if_pos (by simp)]

/-- a link that is not taken down by this observation was not down before it -/
theorem statusAfter_concat_false (threshold : Nat) (history : List Bool) :
    statusAfter threshold (history ++ [false]) =
      if max threshold 1 ≤ deadRun history + 1 then .down else statusAfter threshold history := by
  have hmem : true ∈ history ++ [false] ↔ true ∈ history := by simp
  unfold statusAfter
  simp only [endsDead_iff, deadRun_concat_false, hmem]
  by_cases hdown : max threshold 1 ≤ deadRun history + 1
  · rw [if_pos hdown, if_pos hdown]
  · have hbefore : ¬ max threshold 1 ≤ deadRun history := by omega
    rw [if_neg hdown, if_neg hdown, if_neg hbefore]

namespace LinkTracker

/-- the tracker of a link after these observations -/
def after (threshold : Nat) (history : List Bool) : LinkTracker :=
  history.foldl record (.fresh threshold)

theorem after_concat (threshold : Nat) (history : List Bool) (alive : Bool) :
    after threshold (history ++ [alive]) = (after threshold history).record alive := by
  unfold after
  rw [List.foldl_concat]

/-- **a tracker is decided by the end of its history** -/
theorem after_eq (threshold : Nat) (history : List Bool) : after threshold history =
    ⟨statusAfter threshold history, deadRun history, max threshold 1⟩ := by
  induction history using List.reverseRecOn with
  | nil =>
    have hnot : ¬ EndsDead threshold [] := by
      rw [endsDead_iff, show deadRun [] = 0 from rfl]
      omega
    unfold statusAfter
    rw [if_neg hnot]
    rfl
  | append_singleton history alive ih =>
    rw [after_concat, ih]
    cases alive with
    | true =>
      rw [statusAfter_concat_true, deadRun_concat_true]
      rfl
    | false =>
      rw [statusAfter_concat_false, deadRun_concat_false]
      rfl

theorem isUp_after : (after threshold history).isUp = false ↔ EndsDead threshold history := by
  rw [after_eq]
  unfold isUp statusAfter
  by_cases h : EndsDead threshold history
  · simp [h]
  · by_cases halive : true ∈ history <;> simp [h, halive]

end LinkTracker

end

/-! ## incidents -/

/-- the points of events one after the other, and the correlator after them -/
def Correlator.run (c : Correlator) (s : Store) : List Correlator.Event → List Point × Correlator
  | [] => ([], c)
  | e :: rest =>
    let (points, c) := c.meet s e
    let (more, c) := c.run (s.meet e) rest
    (points ++ more, c)

/-- an observation, with the store that it finds, or the resolutions dropped -/
inductive Incident where
  | observed (s : Store) (node : Id) (time : Nat) (o : Observation)
  | dropped

def Incident.isObservation : Incident → Bool
  | .observed .. => true
  | .dropped => false

def Correlator.Event.incidents (s : Store) : Correlator.Event → List Incident
  | .observe node time o => [.observed s node time o]
  | .correlate node time log =>
    ((Text.lines log).filterMap readProbe?).map (.observed s node time)
  | .clearCache => [.dropped]
  | _ => []

def incidents (s : Store) : List Correlator.Event → List Incident
  | [] => []
  | e :: rest => e.incidents s ++ incidents (s.meet e) rest

/-- how many observations are made -/
def observationCount (s : Store) (events : List Correlator.Event) : Nat :=
  (incidents s events).countP Incident.isObservation

/-- what a tag resolves to at an observation that finds the store `s`, after the incidents of `past`, the
latest first: what the store answered at the first observation of the tag on that node since the
resolutions were dropped -/
def resolutionAfter (node : Id) (tag : String) : Store → List Incident → Option ResolvedTag
  | s, [] => resolveTag s node tag
  | s, .dropped :: _ => resolveTag s node tag
  | s, .observed earlier node' _ o :: past =>
    resolutionAfter node tag (if (node', o.tag) = (node, tag) then earlier else s) past

/-- an observation that resolves -/
structure Sighting where
  node : Id
  time : Nat
  probe : Observation
  link : ResolvedTag

/-- the observations that resolve, `past` being the incidents before them -/
def sightings (past : List Incident) : List Incident → List Sighting
  | [] => []
  | .dropped :: rest => sightings (.dropped :: past) rest
  | .observed s node time o :: rest =>
    ((resolutionAfter node o.tag s past).map (⟨node, time, o, ·⟩)).toList ++
      sightings (.observed s node time o :: past) rest

/-- what the sightings of one link say, in order -/
def outcomes (node : Id) (tag : String) (seen : List Sighting) : List Bool :=
  (seen.filter fun x => (x.node, x.probe.tag) = (node, tag)).map (·.probe.alive)

/-- the points of sightings: a link is up unless its sightings so far end dead -/
def pointsAfter (threshold : Nat) (seen : List Sighting) : List Sighting → List Point
  | [] => []
  | x :: rest =>
    healthPoint x.node x.probe x.link
        (LinkTracker.after threshold (outcomes x.node x.probe.tag (seen ++ [x]))).isUp x.time ::
      pointsAfter threshold (seen ++ [x]) rest

theorem sightings_append (past a b : List Incident) :
    sightings past (a ++ b) = sightings past a ++ sightings (a.reverse ++ past) b := by
  induction a generalizing past with
  | nil => rfl
  | cons m rest ih =>
    rw [List.reverse_cons, List.append_assoc, List.singleton_append]
    cases m with
    | dropped => exact ih _
    | observed s node time o =>
      show _ ++ sightings _ (rest ++ b) = (_ ++ sightings _ rest) ++ _
      rw [ih, List.append_assoc]

theorem pointsAfter_append (threshold : Nat) (seen a b : List Sighting) :
    pointsAfter threshold seen (a ++ b) =
      pointsAfter threshold seen a ++ pointsAfter threshold (seen ++ a) b := by
  induction a generalizing seen with
  | nil => rw [List.append_nil]; rfl
  | cons x rest ih =>
    rw [List.cons_append, pointsAfter, ih, pointsAfter, List.append_assoc, List.cons_append]
    rfl

/-! ## incidents taken in -/

namespace Correlator

def live (c : Correlator) : Incident → List Point × Correlator
  | .dropped => ([], c.clearCache)
  | .observed s node time o =>
    let (point, c) := c.observe s node time o
    (point.toList, c)

def replay (c : Correlator) : List Incident → List Point × Correlator
  | [] => ([], c)
  | m :: rest =>
    let (points, c) := c.live m
    let (more, c) := c.replay rest
    (points ++ more, c)

theorem replay_append (c : Correlator) (a b : List Incident) : c.replay (a ++ b) =
    ((c.replay a).1 ++ ((c.replay a).2.replay b).1, ((c.replay a).2.replay b).2) := by
  induction a generalizing c with
  | nil => rfl
  | cons m rest ih =>
    have hcons : ∀ l, c.replay (m :: l) =
        ((c.live m).1 ++ ((c.live m).2.replay l).1, ((c.live m).2.replay l).2) := fun _ => rfl
    rw [List.cons_append, hcons, hcons, ih, List.append_assoc]

theorem observeAll_eq_replay (c : Correlator) (s : Store) (node : Id) (time : Nat)
    (l : List Observation) :
    c.observeAll s node time l = c.replay (l.map (.observed s node time)) := by
  induction l generalizing c with
  | nil => rfl
  | cons o rest ih =>
    have hcons : c.observeAll s node time (o :: rest) =
        ((c.observe s node time o).1.toList ++ ((c.observe s node time o).2.observeAll s node time rest).1,
          ((c.observe s node time o).2.observeAll s node time rest).2) := rfl
    rw [hcons, ih]
    rfl

theorem meet_eq_replay (c : Correlator) (s : Store) (e : Correlator.Event) :
    c.meet s e = c.replay (e.incidents s) := by
  cases e with
  | putBinding b => rfl
  | deleteBinding id => rfl
  | importSnapshot d => rfl
  | clearCache => rfl
  | observe node time o =>
    show ((c.observe s node time o).1.toList, (c.observe s node time o).2) =
      ((c.observe s node time o).1.toList ++ [], (c.observe s node time o).2)
    rw [List.append_nil]
  | correlate node time log => exact observeAll_eq_replay c s node time _

theorem run_eq_replay (c : Correlator) (s : Store) (events : List Correlator.Event) :
    c.run s events = c.replay (incidents s events) := by
  induction events generalizing c s with
  | nil => rfl
  | cons e rest ih =>
    rw [incidents, replay_append, ← meet_eq_replay, ← ih]
    rfl

/-! ## what the correlator keeps -/

/-- the correlator resolves as it would after these incidents, the latest first, and it tracks what was
seen in them -/
structure Remembers (c : Correlator) (threshold : Nat) (past : List Incident)
    (seen : List Sighting) : Prop where
  asked : c.threshold = threshold
  resolved : ∀ s node tag, (c.resolve s node tag).1 = resolutionAfter node tag s past
  tracked : ∀ node tag, c.tracker? node tag =
    if outcomes node tag seen = [] then none
    else some (LinkTracker.after threshold (outcomes node tag seen))

section
variable {c : Correlator} {threshold : Nat} {past : List Incident} {seen : List Sighting}

theorem resolve_eq (c : Correlator) (s : Store) (node : Id) (tag : String) :
    (c.resolve s node tag).1 =
      ((c.resolved.get? (node, tag)).map (·.2)).getD (resolveTag s node tag) := by
  unfold resolve
  cases c.resolved.get? (node, tag) <;> rfl

/-- a resolution decides what the same tag resolves to on the same node, and nothing else -/
theorem resolve_resolve (c : Correlator) (s s' : Store) (node node' : Id) (tag tag' : String) :
    ((c.resolve s node tag).2.resolve s' node' tag').1 =
      (c.resolve (if (node, tag) = (node', tag') then s else s') node' tag').1 := by
  rw [resolve_eq, resolve_eq]
  cases hkept : c.resolved.get? (node, tag) with
  | some kept =>
    have hnothing : (c.resolve s node tag).2 = c := by
      unfold resolve
      rw [hkept]
    rw [hnothing]
    by_cases hsame : (node, tag) = (node', tag')
    · rw [← hsame, hkept]
      rfl
    · rw [if_neg hsame]
  | none =>
    have hput : (c.resolve s node tag).2.resolved =
        c.resolved.put ((node, tag), resolveTag s node tag) := by
      unfold resolve
      rw [hkept]
    rw [hput]
    by_cases hsame : (node, tag) = (node', tag')
    · have hself : (c.resolved.put ((node, tag), resolveTag s node tag)).get? (node, tag) =
          some ((node, tag), resolveTag s node tag) := Table.get?_put_self _ _
      obtain ⟨rfl, rfl⟩ := Prod.mk.inj hsame
      rw [if_pos rfl, hself, hkept]
      rfl
    · rw [if_neg hsame, Table.get?_put_ne _ (Ne.symm hsame)]

theorem outcomes_concat (node : Id) (tag : String) (seen : List Sighting) (x : Sighting) :
    outcomes node tag (seen ++ [x]) = outcomes node tag seen ++
      if (x.node, x.probe.tag) = (node, tag) then [x.probe.alive] else [] := by
  unfold outcomes
  rw [List.filter_append, List.map_append, List.filter_singleton]
  by_cases h : (x.node, x.probe.tag) = (node, tag)
  · rw [if_pos h, decide_eq_true h]
    rfl
  · rw [if_neg h, decide_eq_false h]
    rfl

theorem Remembers.track (h : c.Remembers threshold past seen) (node : Id) (o : Observation) :
    c.track node o = LinkTracker.after threshold (outcomes node o.tag seen ++ [o.alive]) := by
  unfold Correlator.track
  rw [h.tracked, h.asked, LinkTracker.after_concat]
  by_cases hnone : outcomes node o.tag seen = []
  · rw [if_pos hnone, hnone]
    rfl
  · rw [if_neg hnone]
    rfl

theorem remembers_dropped (h : c.Remembers threshold past seen) :
    c.clearCache.Remembers threshold (.dropped :: past) seen :=
  ⟨h.asked, fun _ _ _ => resolve_eq _ _ _ _, h.tracked⟩

/-- a resolution is kept, and no tracker changes by it -/
theorem remembers_resolve (h : c.Remembers threshold past seen) (s : Store) (node : Id) (time : Nat)
    (o : Observation) :
    (c.resolve s node o.tag).2.Remembers threshold (.observed s node time o :: past) seen := by
  have hlinks := links_resolve c s node o.tag
  have htrackers : (c.resolve s node o.tag).2.trackers = c.trackers := congrArg Observer.trackers hlinks
  refine ⟨(congrArg Observer.threshold hlinks).trans h.asked, fun s' node' tag => ?_,
    fun node' tag => ?_⟩
  · rw [resolve_resolve, h.resolved]
    rfl
  · unfold tracker?
    rw [htrackers]
    exact h.tracked node' tag

/-- a sighting changes the tracker of its link and no other -/
theorem remembers_sighting (h : c.Remembers threshold past seen) (x : Sighting) :
    ({ c with trackers := c.trackers.put ((x.node, x.probe.tag), c.track x.node x.probe) } :
      Correlator).Remembers threshold past (seen ++ [x]) := by
  refine ⟨h.asked, fun s node tag => ?_, fun node tag => ?_⟩
  · rw [resolve_eq, ← h.resolved, resolve_eq]
  · rw [outcomes_concat]
    unfold tracker?
    by_cases hsame : (x.node, x.probe.tag) = (node, tag)
    · obtain ⟨rfl, rfl⟩ := Prod.mk.inj hsame
      have hput := Table.get?_put_self c.trackers ((x.node, x.probe.tag), c.track x.node x.probe)
      rw [if_pos rfl, if_neg (List.append_ne_nil_of_right_ne_nil _ (List.cons_ne_nil _ _)), ← h.track]
      exact congrArg (Option.map (·.2)) hput
    · have hput := Table.get?_put_ne c.trackers
        (show (node, tag) ≠ key ((x.node, x.probe.tag), c.track x.node x.probe) from Ne.symm hsame)
      rw [if_neg hsame, List.append_nil, ← h.tracked]
      exact congrArg (Option.map (·.2)) hput

theorem remembers_live (h : c.Remembers threshold past seen) (m : Incident) :
    (c.live m).2.Remembers threshold (m :: past) (seen ++ sightings past [m]) ∧
      (c.live m).1 = pointsAfter threshold seen (sightings past [m]) := by
  cases m with
  | dropped =>
    refine ⟨?_, rfl⟩
    rw [show seen ++ sightings past [.dropped] = seen from List.append_nil seen]
    exact remembers_dropped h
  | observed s node time o =>
    have hkept := remembers_resolve h s node time o
    have hfound := h.resolved s node o.tag
    rcases hresolve : c.resolve s node o.tag with ⟨found, c'⟩
    rw [hresolve] at hkept hfound
    simp only [live, observe, sightings, hresolve, ← hfound]
    cases found with
    | none => exact ⟨(List.append_nil seen).symm ▸ hkept, rfl⟩
    | some r =>
      have hpoint : c'.track node o =
          LinkTracker.after threshold (outcomes node o.tag (seen ++ [⟨node, time, o, r⟩])) := by
        rw [hkept.track, outcomes_concat, if_pos rfl]
      refine ⟨remembers_sighting hkept ⟨node, time, o, r⟩, ?_⟩
      show [healthPoint node o r (c'.track node o).isUp time] = _
      rw [hpoint]
      rfl

end

/-- **a correlator that remembers goes on to remember**, and its points are those of the sightings -/
theorem remembers_replay {c : Correlator} {threshold : Nat} {past : List Incident} {seen : List Sighting}
    (h : c.Remembers threshold past seen) (l : List Incident) :
    (c.replay l).2.Remembers threshold (l.reverse ++ past) (seen ++ sightings past l) ∧
      (c.replay l).1 = pointsAfter threshold seen (sightings past l) := by
  induction l generalizing c past seen with
  | nil => exact ⟨(List.append_nil seen).symm ▸ h, rfl⟩
  | cons m rest ih =>
    obtain ⟨hkept, hpoints⟩ := remembers_live h m
    obtain ⟨hlater, hmore⟩ := ih hkept
    have hcut : sightings past (m :: rest) = sightings past [m] ++ sightings (m :: past) rest :=
      sightings_append past [m] rest
    rw [hcut, pointsAfter_append, List.reverse_cons, List.append_assoc, List.singleton_append,
      ← List.append_assoc seen, ← hpoints, ← hmore]
    exact ⟨hlater, rfl⟩

theorem remembers_fresh (threshold : Nat) : (fresh threshold).Remembers threshold [] [] :=
  ⟨rfl, fun _ _ _ => rfl, fun _ _ => rfl⟩

end Correlator

/-! ## points -/

theorem length_pointsAfter (threshold : Nat) (seen l : List Sighting) :
    (pointsAfter threshold seen l).length = l.length := by
  induction l generalizing seen with
  | nil => rfl
  | cons x rest ih => exact congrArg (· + 1) (ih _)

theorem getElem?_pointsAfter (threshold : Nat) (before after : List Sighting) (x : Sighting) :
    (pointsAfter threshold [] (before ++ x :: after))[before.length]? =
      some (healthPoint x.node x.probe x.link
        (LinkTracker.after threshold (outcomes x.node x.probe.tag (before ++ [x]))).isUp x.time) := by
  have hlength := length_pointsAfter threshold [] before
  rw [pointsAfter_append, List.getElem?_append_right (Nat.le_of_eq hlength), hlength, Nat.sub_self]
  rfl

/-- what is added to a point after its state does not change the state -/
theorem linkUp_healthPoint (node : Id) (o : Observation) (r : ResolvedTag) (up : Bool) (time : Nat) :
    (healthPoint node o r up time).fields.get? "link_up" = some ("link_up", .bool up) := by
  have hother : ∀ (p : Point) (name : String) (value : FieldValue), "link_up" ≠ name →
      (p.withField name value).fields.get? "link_up" = p.fields.get? "link_up" :=
    fun p name value h => Table.get?_put_ne p.fields h
  have hself : ∀ p : Point, (p.withField "link_up" (.bool up)).fields.get? "link_up" =
      some ("link_up", .bool up) := fun p => Table.get?_put_self p.fields ("link_up", .bool up)
  have hscope : ∀ (p : Point) (scope : Scope), (p.withScope scope).fields = p.fields := by
    intro p scope
    cases scope <;> exact Point.fields_withTag _ _ _
  unfold healthPoint
  cases o.reason <;> cases o.delayMs <;> cases r.dest <;> simp [hother, hself, hscope]

theorem length_sightings_le (past l : List Incident) :
    (sightings past l).length ≤ l.countP Incident.isObservation := by
  induction l generalizing past with
  | nil => exact Nat.le_refl 0
  | cons m rest ih =>
    cases m with
    | dropped => exact ih _
    | observed s node time o =>
      rw [sightings, List.length_append, List.countP_cons_of_pos rfl]
      have hone : ∀ found : Option Sighting, found.toList.length ≤ 1 := by
        intro found
        cases found <;> simp
      exact Nat.add_comm _ 1 ▸ Nat.add_le_add (hone _) (ih _)

/-- **Every point and every tracker tells the history of its own link.**  After any events there is one
point for each observation that resolved, in order; it says that the link is down exactly if the last
observations of the link up to this one, as many as the threshold asks for and at least one, are there
and are all dead.  The tracker of a link counts the dead observations at the end and has the status that
they make, and is not there if none resolved; its count fits 32 bits all along if all observations do. -/
theorem link_states (threshold : Nat) (s : Store) (events : List Correlator.Event)
    (hfew : observationCount s events < halfWordBound) :
    let run := (Correlator.fresh threshold).run s events
    let seen := sightings [] (incidents s events)
    run.1.length = seen.length ∧
      (∀ before x after, seen = before ++ x :: after → ∃ up,
        run.1[before.length]? = some (healthPoint x.node x.probe x.link up x.time) ∧
        (healthPoint x.node x.probe x.link up x.time).fields.get? "link_up" =
          some ("link_up", .bool up) ∧
        (up = false ↔ EndsDead threshold (outcomes x.node x.probe.tag (before ++ [x])))) ∧
      ∀ node tag,
        run.2.tracker? node tag = (if outcomes node tag seen = [] then none
          else some ⟨statusAfter threshold (outcomes node tag seen),
            deadRun (outcomes node tag seen), max threshold 1⟩) ∧
        ∀ before, before <+: seen → deadRun (outcomes node tag before) < halfWordBound := by
  intro run seen
  have hrun : run = (Correlator.fresh threshold).replay (incidents s events) :=
    Correlator.run_eq_replay _ s events
  obtain ⟨hkept, hpoints⟩ :=
    Correlator.remembers_replay (Correlator.remembers_fresh threshold) (incidents s events)
  rw [← hrun] at hkept hpoints
  refine ⟨?_, fun before x after hseen => ?_, fun node tag => ⟨?_, fun before hbefore => ?_⟩⟩
  · rw [hpoints, length_pointsAfter]
  · refine ⟨_, ?_, linkUp_healthPoint _ _ _ _ _, LinkTracker.isUp_after⟩
    rw [hpoints, show sightings [] (incidents s events) = before ++ x :: after from hseen,
      getElem?_pointsAfter]
  · rw [hkept.tracked, LinkTracker.after_eq]
    rfl
  · have hlink : (outcomes node tag before).length ≤ before.length := by
      unfold outcomes
      rw [List.length_map]
      exact List.length_filter_le _ _
    have hcount : seen.length ≤ observationCount s events := length_sightings_le [] (incidents s events)
    exact Nat.lt_of_le_of_lt (deadRun_le_length _) (Nat.lt_of_le_of_lt
      (Nat.le_trans hlink (Nat.le_trans hbefore.length_le hcount)) hfew)

/-- dead before the hop is there and after it is gone: only what resolves counts -/
theorem link_states_probedHop :
    observationCount .empty probedHop < halfWordBound ∧
      outcomes 1 "ro_7_1" (sightings [] (incidents .empty probedHop)) = [false, true, false, false] ∧
      ((Correlator.fresh 2).run .empty probedHop).1.length = 4 ∧
      ((Correlator.fresh 2).run .empty probedHop).2.tracker? 1 "ro_7_1" = some ⟨.down, 2, 2⟩ := by
  have hfew : observationCount .empty probedHop < halfWordBound := by decide +kernel
  have hseen : (sightings [] (incidents .empty probedHop)).length = 4 := by decide +kernel
  have houtcomes : outcomes 1 "ro_7_1" (sightings [] (incidents .empty probedHop)) =
      [false, true, false, false] := by decide +kernel
  obtain ⟨hlength, -, htracker⟩ := link_states 2 .empty probedHop hfew
  refine ⟨hfew, houtcomes, hlength.trans hseen, ?_⟩
  rw [(htracker 1 "ro_7_1").1, houtcomes]
  decide

end ProxyMesh
