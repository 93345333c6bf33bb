import ProxyMesh.Proofs.User.Permanence

/-!
# Internal users touched by many at once

Whoever makes an internal user reads and writes in one transaction.  A touch takes two: it reads the
user, and then puts back what it read, with the window widened.  What happens to the user in between
is lost with the record that is put back.

* `UserCall`, `UserTask`     a call, and how far it has come;
* `UserTask.advance`         its next transaction; two of them make a touch (`advance_advance`);
* `Race`, `step`, `run`      many calls at once, one transaction after the other, in any order;
* `Race.Counted`             every touch that found its user is within the window;
* `Race.get?_step`           what one transaction makes of one user;
* `Race.undoing`             the run that undoes a touch: one reads first and writes last;
* `Race.Inv`                 the record that is stored, and those held, are later than the first one;
* `Race.keeps_run`           what is lost is a time at most, never a secret;
* `Race.Safe`                no touch would undo another one if it were the last to write;
* `touches_counted_iff`      **which calls no order of transactions can make lose a touch**;
* `touch_undone`             two touches, and one of them is lost.
-/

namespace ProxyMesh

/-! ## windows -/

/-- the time is not outside the window -/
def Window.Includes (w : Window) (time : Nat) : Prop :=
  (∃ first ∈ w.first, first ≤ time) ∧ ∃ last ∈ w.last, time ≤ last

section
variable {w w' : Window} {time : Nat}

instance : Decidable (w.Includes time) :=
  inferInstanceAs (Decidable ((∃ first ∈ w.first, first ≤ time) ∧ ∃ last ∈ w.last, time ≤ last))

theorem Window.includes_touch (w : Window) (time : Nat) : (w.touch time).Includes time := by
  refine ⟨⟨_, rfl, ?_⟩, ⟨_, rfl, ?_⟩⟩
  · cases w.first with
    | none => exact Nat.le_refl time
    | some first => exact Nat.min_le_right first time
  · cases w.last with
    | none => exact Nat.le_refl time
    | some last => exact Nat.le_max_right last time

theorem Window.Within.includes (h : w.Within w') (ht : w.Includes time) : w'.Includes time := by
  obtain ⟨⟨first, hfirst, hle⟩, ⟨last, hlast, hge⟩⟩ := ht
  obtain ⟨first', hle', hfirst'⟩ := h.first first hfirst
  obtain ⟨last', hge', hlast'⟩ := h.last last hlast
  exact ⟨⟨first', hfirst', Nat.le_trans hle' hle⟩, ⟨last', hlast', Nat.le_trans hge hge'⟩⟩

theorem Window.Within.touch (h : w.Within w') (time : Nat) :
    (w.touch time).Within (w'.touch time) := by
  constructor
  · intro t ht
    obtain rfl : w.first.elim time (min · time) = t := Option.some.inj ht
    refine ⟨_, ?_, rfl⟩
    cases hw : w.first with
    | none =>
      cases w'.first with
      | none => exact Nat.le_refl time
      | some first' => exact Nat.min_le_right first' time
    | some first =>
      obtain ⟨first', hle, hfirst'⟩ := h.first first hw
      simp only [hfirst', Option.elim_some]
      omega
  · intro t ht
    obtain rfl : w.last.elim time (max · time) = t := Option.some.inj ht
    refine ⟨_, ?_, rfl⟩
    cases hw : w.last with
    | none =>
      cases w'.last with
      | none => exact Nat.le_refl time
      | some last' => exact Nat.le_max_right last' time
    | some last =>
      obtain ⟨last', hge, hlast'⟩ := h.last last hw
      simp only [hlast', Option.elim_some]
      omega

end

/-! ## one call -/

inductive UserCall where
  | touch (rule node : Id) (time : Nat)
  | ensure (rule node : Id) (secret : String)
deriving DecidableEq

/-- how far a call has come -/
inductive UserTask where
  | waiting (c : UserCall)
  /-- a touch that has read the user `u`, and is about to put it back -/
  | holding (rule node : Id) (time : Nat) (u : InternalUser)
  | finished (c : UserCall) (found : Bool)
deriving DecidableEq

namespace UserTask

def call : UserTask → UserCall
  | waiting c => c
  | holding rule node time _ => .touch rule node time
  | finished c _ => c

/-- the transactions that it needs at most -/
def remaining : UserTask → Nat
  | waiting _ => 2
  | holding .. => 1
  | finished .. => 0

theorem remaining_le_two (task : UserTask) : task.remaining ≤ 2 := by
  cases task <;> simp [remaining]

/-- the next transaction of a call -/
def advance (s : Store) : UserTask → UserTask × Store
  | waiting (.touch rule node time) =>
    match s.internalUsers.get? (rule, node) with
    | some u => (holding rule node time u, s)
    | none => (finished (.touch rule node time) false, s)
  | waiting (.ensure rule node secret) =>
    (finished (.ensure rule node secret) true, (s.ensureInternalUser rule node secret).2)
  | holding rule node time u =>
    (finished (.touch rule node time) true, s.putInternalUser (u.touch time))
  | finished c found => (finished c found, s)

theorem advance_advance (s : Store) (rule node : Id) (time : Nat) :
    ((waiting (.touch rule node time)).advance s).1.advance
        ((waiting (.touch rule node time)).advance s).2 =
      (finished (.touch rule node time) (s.touchInternalUser rule node time).1,
        (s.touchInternalUser rule node time).2) := by
  cases hu : s.internalUsers.get? (rule, node) <;> simp [advance, Store.touchInternalUser, hu]

theorem call_advance (s : Store) (task : UserTask) : (task.advance s).1.call = task.call := by
  unfold advance
  split
  · split <;> rfl
  · rfl
  · rfl
  · rfl

theorem remaining_advance (s : Store) (task : UserTask) :
    (task.advance s).1.remaining ≤ task.remaining - 1 := by
  unfold advance
  split
  · split
    · exact Nat.le_refl 1
    · exact Nat.zero_le 1
  · exact Nat.zero_le 1
  · exact Nat.le_refl 0
  · exact Nat.le_refl 0

theorem advance_eq_holding {s : Store} {task : UserTask} {rule node : Id} {time : Nat}
    {u : InternalUser} (h : (task.advance s).1 = holding rule node time u) :
    task = waiting (.touch rule node time) ∧ s.internalUsers.get? (rule, node) = some u := by
  unfold advance at h
  split at h
  · split at h
    next hu =>
      cases h
      exact ⟨rfl, hu⟩
    next => cases h
  · cases h
  · cases h
  · cases h

theorem advance_eq_found {s : Store} {task : UserTask} {rule node : Id} {time : Nat}
    (h : (task.advance s).1 = finished (.touch rule node time) true) :
    task = finished (.touch rule node time) true ∨ ∃ u, task = holding rule node time u := by
  unfold advance at h
  split at h
  · split at h <;> cases h
  · cases h
  next rule' node' time' u =>
    cases h
    exact Or.inr ⟨u, rfl⟩
  · cases h
    exact Or.inl rfl

/-- nothing is left to do -/
def Finished (task : UserTask) : Prop := task.remaining = 0

instance (task : UserTask) : Decidable task.Finished :=
  inferInstanceAs (Decidable (task.remaining = 0))

/-- the call did not miss the user, so far -/
def Unmissed (task : UserTask) : Prop := task ≠ finished task.call false

theorem unmissed_advance {s : Store} {rule node : Id} {time : Nat} {task : UserTask}
    (hcall : task.call = .touch rule node time) {u : InternalUser}
    (hu : s.internalUsers.get? (rule, node) = some u) (h : task.Unmissed) :
    (task.advance s).1.Unmissed := by
  cases task with
  | waiting c =>
    obtain rfl : c = .touch rule node time := hcall
    simp only [advance, hu, Unmissed]
    exact nofun
  | holding rule' node' time' v =>
    unfold Unmissed advance
    simp
  | finished c found => exact h

/-- a touch that has not missed its user and has nothing left to do has found it -/
theorem eq_finished_true {task : UserTask} (hdone : task.Finished) (h : task.Unmissed) :
    task = finished task.call true := by
  cases task with
  | waiting c => cases hdone
  | holding rule node time u => cases hdone
  | finished c found =>
    cases found with
    | true => rfl
    | false => exact absurd rfl h

end UserTask

/-! ## many calls at once -/

/-- a store, and calls on its internal users, none of which waits for another -/
structure Race where
  store : Store
  tasks : List UserTask

namespace Race

def start (s : Store) (calls : List UserCall) : Race := ⟨s, calls.map .waiting⟩

/-- the next transaction is one of the call with index `i` -/
def step (w : Race) (i : Nat) : Race :=
  match w.tasks[i]? with
  | some task => ⟨(task.advance w.store).2, w.tasks.set i (task.advance w.store).1⟩
  | none => w

def run (w : Race) (schedule : List Nat) : Race := schedule.foldl step w

def Finished (w : Race) : Prop := ∀ task ∈ w.tasks, task.Finished

instance (w : Race) : Decidable w.Finished :=
  inferInstanceAs (Decidable (∀ task ∈ w.tasks, task.Finished))

/-- every touch that found its user is within the window of the user -/
def Counted (w : Race) : Prop :=
  ∀ rule node time, .finished (.touch rule node time) true ∈ w.tasks →
    ∃ u, w.store.internalUsers.get? (rule, node) = some u ∧ u.usage.Includes time

end Race

/-- the user of the pair is stored, or one of the calls makes it -/
def Store.Expects (s : Store) (calls : List UserCall) (k : Id × Id) : Prop :=
  (∃ u, s.internalUsers.get? k = some u) ∨ ∃ secret, .ensure k.1 k.2 secret ∈ calls

/-- the window of the user, empty while there is no user -/
def Store.userWindow (s : Store) (k : Id × Id) : Window :=
  ((s.internalUsers.get? k).map (·.usage)).getD .none

namespace Race

/-- for each two touches of a user that is stored or made: if the second one were the only one to be
made, then the window would include the time of the first one too -/
def Safe (s : Store) (calls : List UserCall) : Prop :=
  ∀ (i j : Nat) (rule node : Id) (time time' : Nat), i ≠ j →
    calls[i]? = some (.touch rule node time) → calls[j]? = some (.touch rule node time') →
    s.Expects calls (rule, node) → ((s.userWindow (rule, node)).touch time').Includes time

variable {s : Store} {calls : List UserCall} {w : Race} {i j : Nat} {task : UserTask}

theorem step_some (h : w.tasks[i]? = some task) :
    w.step i = ⟨(task.advance w.store).2, w.tasks.set i (task.advance w.store).1⟩ := by
  unfold step
  rw [h]

theorem step_none (h : w.tasks[i]? = none) : w.step i = w := by
  unfold step
  rw [h]

/-- what has become of a call after a transaction of some call -/
theorem getElem?_step (w : Race) (k i : Nat) : (w.step k).tasks[i]? =
    w.tasks[i]?.map fun task => if k = i then (task.advance w.store).1 else task := by
  cases hmoved : w.tasks[k]? with
  | none =>
    rw [step_none hmoved]
    cases hi : w.tasks[i]? with
    | none => rfl
    | some task =>
      have hne : k ≠ i := by
        rintro rfl
        rw [hmoved] at hi
        cases hi
      rw [Option.map_some, if_neg hne]
  | some moved =>
    rw [step_some hmoved]
    by_cases hk : k = i
    · subst hk
      rw [hmoved, Option.map_some, if_pos rfl]
      exact List.getElem?_set_self (List.getElem?_eq_some_iff.1 hmoved).1
    · simp only [if_neg hk, Option.map_id']
      exact List.getElem?_set_ne hk

theorem getElem?_step_self (h : w.tasks[i]? = some task) :
    (w.step i).tasks[i]? = some (task.advance w.store).1 := by
  rw [getElem?_step, h, Option.map_some, if_pos rfl]

theorem getElem?_step_ne (h : j ≠ i) : (w.step j).tasks[i]? = w.tasks[i]? := by
  simp only [getElem?_step, if_neg h, Option.map_id']

theorem getElem?_run_of_notMem {schedule : List Nat} (hi : i ∉ schedule) (h : w.tasks[i]? = some task) :
    (w.run schedule).tasks[i]? = some task := by
  induction schedule generalizing w with
  | nil => exact h
  | cons k rest ih =>
    obtain ⟨hk, hrest⟩ := not_or.1 (List.mem_cons.not.1 hi)
    exact ih hrest ((getElem?_step_ne (Ne.symm hk)).trans h)

theorem length_step (w : Race) (i : Nat) : (w.step i).tasks.length = w.tasks.length := by
  cases htask : w.tasks[i]? with
  | none => rw [step_none htask]
  | some task =>
    rw [step_some htask]
    exact List.length_set

theorem length_run (w : Race) (schedule : List Nat) :
    (w.run schedule).tasks.length = w.tasks.length := by
  induction schedule generalizing w with
  | nil => rfl
  | cons k rest ih => exact (ih (w.step k)).trans (length_step w k)

/-- a call comes nearer to its end with each of its transactions -/
theorem remaining_run (schedule : List Nat) (h : w.tasks[i]? = some task) :
    ∃ task', (w.run schedule).tasks[i]? = some task' ∧ task'.call = task.call ∧
      task'.remaining ≤ task.remaining - schedule.count i := by
  induction schedule generalizing w task with
  | nil => exact ⟨task, h, rfl, Nat.le_refl _⟩
  | cons k rest ih =>
    by_cases hk : k = i
    · subst hk
      obtain ⟨task', htask', hcall, hremaining⟩ := ih (getElem?_step_self h)
      have hone := task.remaining_advance w.store
      rw [List.count_cons_self]
      exact ⟨task', htask', hcall.trans (task.call_advance w.store), by omega⟩
    · rw [List.count_cons_of_ne hk]
      exact ih ((getElem?_step_ne hk).trans h)

/-- what a transaction makes of a user: nothing, or the user itself, or what it has read before -/
theorem get?_step (h : w.tasks[i]? = some task) (k : Id × Id) :
    (w.step i).store.internalUsers.get? k = w.store.internalUsers.get? k ∨
    (∃ secret, task.call = .ensure k.1 k.2 secret ∧ w.store.internalUsers.get? k = none ∧
      (w.step i).store.internalUsers.get? k = some ⟨k.1, k.2, true, secret, .none⟩) ∨
    ∃ rule node time v, task = .holding rule node time v ∧ key v = k ∧
      (w.step i).store.internalUsers.get? k = some (v.touch time) := by
  rw [step_some h]
  cases task with
  | waiting c =>
    cases c with
    | touch rule node time =>
      refine Or.inl ?_
      simp only [UserTask.advance]
      split <;> rfl
    | ensure rule node secret =>
      have hensured := Store.get?_ensureInternalUser w.store rule node secret k
      cases hu : w.store.internalUsers.get? k with
      | some u =>
        rw [hu] at hensured
        exact Or.inl hensured
      | none =>
        rw [hu, Option.none_or] at hensured
        by_cases hk : k = (rule, node)
        · subst hk
          rw [if_pos rfl] at hensured
          exact Or.inr (Or.inl ⟨secret, rfl, rfl, hensured⟩)
        · rw [if_neg hk] at hensured
          exact Or.inl hensured
  | holding rule node time v =>
    by_cases hk : key v = k
    · refine Or.inr (Or.inr ⟨rule, node, time, v, rfl, hk, ?_⟩)
      exact Table.get?_put_some (show key (v.touch time) = k from hk)
    · exact Or.inl (Table.get?_put_ne w.store.internalUsers (Ne.symm hk))
  | finished c found => exact Or.inl rfl

/-! ## a touch undone -/

theorem stored_step {k : Id × Id} (h : ∃ u, w.store.internalUsers.get? k = some u) (i : Nat) :
    ∃ u, (w.step i).store.internalUsers.get? k = some u := by
  cases htask : w.tasks[i]? with
  | none =>
    rw [step_none htask]
    exact h
  | some task =>
    rcases get?_step htask k with hsame | ⟨secret, -, -, hmade⟩ | ⟨rule, node, time, v, -, -, hput⟩
    · rw [hsame]
      exact h
    · exact ⟨_, hmade⟩
    · exact ⟨_, hput⟩

/-- a touch of a user that is there does not miss it -/
theorem unmissed_run {rule node : Id} {time : Nat}
    (hu : ∃ u, w.store.internalUsers.get? (rule, node) = some u) (schedule : List Nat)
    (h : w.tasks[i]? = some task) (hcall : task.call = .touch rule node time)
    (hunmissed : task.Unmissed) :
    ∃ task', (w.run schedule).tasks[i]? = some task' ∧ task'.call = .touch rule node time ∧
      task'.Unmissed := by
  induction schedule generalizing w task with
  | nil => exact ⟨task, h, hcall, hunmissed⟩
  | cons k rest ih =>
    by_cases hk : k = i
    · subst hk
      obtain ⟨u, hfound⟩ := hu
      exact ih (stored_step ⟨u, hfound⟩ k) (getElem?_step_self h)
        ((task.call_advance w.store).trans hcall)
        (UserTask.unmissed_advance hcall hfound hunmissed)
    · exact ih (stored_step hu k) ((getElem?_step_ne hk).trans h) hcall hunmissed

/-- the calls but `j`, each with an index below `n` -/
def others (n j : Nat) : List Nat := (List.range n).filter (· != j)

/-- call `j` begins, all others begin and finish, and then call `j` finishes -/
def undoing (n j : Nat) : List Nat := j :: (others n j ++ others n j ++ [j])

theorem two_le_count_undoing {n : Nat} (h : i < n) : 2 ≤ (undoing n j).count i := by
  unfold undoing
  by_cases hij : i = j
  · subst hij
    rw [List.count_cons_self, List.count_append, List.count_singleton_self]
    omega
  · have hmem : i ∈ others n j := List.mem_filter.2 ⟨List.mem_range.2 h, bne_iff_ne.2 hij⟩
    have hone := List.count_pos_iff.2 hmem
    rw [List.count_cons_of_ne (Ne.symm hij), List.count_append, List.count_append]
    omega

theorem finished_undoing (w : Race) (j : Nat) : (w.run (undoing w.tasks.length j)).Finished := by
  intro task' htask'
  obtain ⟨i, hi⟩ := List.mem_iff_getElem?.1 htask'
  have hlt : i < w.tasks.length := by
    rw [← length_run w (undoing w.tasks.length j)]
    exact (List.getElem?_eq_some_iff.1 hi).1
  obtain ⟨task'', htask'', -, hremaining⟩ :=
    remaining_run (undoing w.tasks.length j) (List.getElem?_eq_getElem hlt)
  obtain rfl := Option.some.inj (hi.symm.trans htask'')
  have hcount := two_le_count_undoing (j := j) hlt
  have htwo := w.tasks[i].remaining_le_two
  show task'.remaining = 0
  omega

/-- what others make of the user is lost when `j` puts back what it read before -/
theorem get?_undoing {rule node : Id} {time : Nat} {u : InternalUser}
    (hu : w.store.internalUsers.get? (rule, node) = some u)
    (hj : w.tasks[j]? = some (.waiting (.touch rule node time))) (n : Nat) :
    (w.run (undoing n j)).store.internalUsers.get? (rule, node) = some (u.touch time) := by
  have hread : (w.step j).tasks[j]? = some (.holding rule node time u) := by
    rw [getElem?_step_self hj]
    simp only [UserTask.advance, hu]
  have hnot : j ∉ others n j ++ others n j := by simp [others]
  have hheld := getElem?_run_of_notMem hnot hread
  show ((w.step j).run (others n j ++ others n j ++ [j])).store.internalUsers.get? (rule, node) = _
  unfold run at hheld ⊢
  rw [List.foldl_append, List.foldl_cons, List.foldl_nil, step_some hheld]
  have hkey : key u = (rule, node) := Table.key_of_get? hu
  exact Table.get?_put_some (show key (u.touch time) = (rule, node) from hkey)

theorem found_undoing {rule node : Id} {time : Nat} {u : InternalUser}
    (hu : w.store.internalUsers.get? (rule, node) = some u)
    (hi : w.tasks[i]? = some (.waiting (.touch rule node time))) (j : Nat) :
    .finished (.touch rule node time) true ∈ (w.run (undoing w.tasks.length j)).tasks := by
  obtain ⟨task, htask, hcall, hunmissed⟩ :=
    unmissed_run ⟨u, hu⟩ (undoing w.tasks.length j) hi rfl nofun
  have hmem := List.mem_of_getElem? htask
  have hfound := UserTask.eq_finished_true (finished_undoing w j task hmem) hunmissed
  rw [hcall] at hfound
  rwa [hfound] at hmem

/-- if a user is expected, there is a run after which it has its first window and no touch has begun -/
theorem exists_prelude {k : Id × Id} (h : s.Expects calls k) :
    ∃ schedule u, ((start s calls).run schedule).store.internalUsers.get? k = some u ∧
      u.usage = s.userWindow k ∧
      ∀ (i : Nat) (rule node : Id) (time : Nat), calls[i]? = some (.touch rule node time) →
        ((start s calls).run schedule).tasks[i]? = some (.waiting (.touch rule node time)) := by
  have hstart : ∀ (i : Nat) (c : UserCall), calls[i]? = some c →
      (start s calls).tasks[i]? = some (.waiting c) := by
    intro i c hc
    exact List.getElem?_map.trans (congrArg _ hc)
  cases hu : s.internalUsers.get? k with
  | some u =>
    refine ⟨[], u, hu, ?_, fun i rule node time => hstart i _⟩
    unfold Store.userWindow
    rw [hu]
    rfl
  | none =>
    rcases h with ⟨u, hu'⟩ | ⟨secret, hmem⟩
    · rw [hu] at hu'
      cases hu'
    obtain ⟨e, he⟩ := List.mem_iff_getElem?.1 hmem
    refine ⟨[e], ⟨k.1, k.2, true, secret, .none⟩, ?_, ?_, fun i rule node time hi => ?_⟩
    · show ((start s calls).step e).store.internalUsers.get? k = _
      rw [step_some (hstart e _ he)]
      refine (Store.get?_ensureInternalUser s k.1 k.2 secret k).trans ?_
      rw [hu, if_pos rfl]
      rfl
    · unfold Store.userWindow
      rw [hu]
      rfl
    · have hne : e ≠ i := by
        rintro rfl
        rw [he] at hi
        cases hi
      exact (getElem?_step_ne hne).trans (hstart i _ hi)

/-! ## what no race can change -/

/-- whatever is stored or held of a user comes from the one that was there first -/
structure Inv (s : Store) (calls : List UserCall) (w : Race) : Prop where
  tasks : ∀ i : Nat, w.tasks[i]?.map UserTask.call = calls[i]?
  keeps : ∀ k, Store.Keeps k s w.store
  expected : ∀ k u, w.store.internalUsers.get? k = some u → s.Expects calls k
  held : ∀ (i : Nat) (rule node : Id) (time : Nat) (v : InternalUser),
    w.tasks[i]? = some (.holding rule node time v) →
      key v = (rule, node) ∧ s.Expects calls (rule, node) ∧
      ∀ u, s.internalUsers.get? (rule, node) = some u → u.Kept v

theorem inv_start (s : Store) (calls : List UserCall) : (start s calls).Inv s calls where
  tasks i := by
    show ((calls.map UserTask.waiting)[i]?).map UserTask.call = calls[i]?
    rw [List.getElem?_map, Option.map_map]
    exact Option.map_id'
  keeps k := Store.keeps_of_sameUsers rfl
  expected k u hu := Or.inl ⟨u, hu⟩
  held i rule node time v h := by
    obtain ⟨c, -, hc⟩ := Option.map_eq_some_iff.1 (List.getElem?_map.symm.trans h)
    cases hc

theorem Inv.call_eq (h : w.Inv s calls) (htask : w.tasks[i]? = some task) :
    calls[i]? = some task.call := by
  rw [← h.tasks i, htask]
  rfl

theorem Inv.step (h : w.Inv s calls) (i : Nat) : (w.step i).Inv s calls := by
  cases htask : w.tasks[i]? with
  | none =>
    rw [step_none htask]
    exact h
  | some task =>
    constructor
    case tasks =>
      intro k
      rw [← h.tasks k, getElem?_step, Option.map_map]
      refine Option.map_congr fun other _ => ?_
      show (if i = k then (other.advance w.store).1 else other).call = other.call
      split
      · exact other.call_advance w.store
      · rfl
    case keeps =>
      intro k u hu
      obtain ⟨v, hv, huv⟩ := h.keeps k u hu
      rcases get?_step htask k with hsame | ⟨secret, -, hnone, -⟩ | ⟨rule, node, time, x, rfl, hk, hput⟩
      · exact ⟨v, hsame.trans hv, huv⟩
      · rw [hnone] at hv
        cases hv
      · obtain ⟨hkey, -, hkept⟩ := h.held i rule node time x htask
        rw [hk] at hkey
        exact ⟨x.touch time, hput, (hkept u (hkey ▸ hu)).trans (x.kept_touch time)⟩
    case expected =>
      intro k u hu
      rcases get?_step htask k with hsame | ⟨secret, hcall, -, -⟩ | ⟨rule, node, time, x, rfl, hk, -⟩
      · exact h.expected k u (hsame.symm.trans hu)
      · exact Or.inr ⟨secret, hcall ▸ List.mem_of_getElem? (h.call_eq htask)⟩
      · obtain ⟨hkey, hexpects, -⟩ := h.held i rule node time x htask
        rw [hk] at hkey
        exact hkey ▸ hexpects
    case held =>
      intro k rule node time v hk
      by_cases hik : i = k
      · subst hik
        rw [getElem?_step_self htask] at hk
        obtain ⟨-, hu⟩ := UserTask.advance_eq_holding (Option.some.inj hk)
        refine ⟨Table.key_of_get? hu, h.expected _ v hu, fun u hu₀ => ?_⟩
        obtain ⟨v', hv', hkept⟩ := h.keeps _ u hu₀
        obtain rfl := Option.some.inj (hu.symm.trans hv')
        exact hkept
      · exact h.held k rule node time v ((getElem?_step_ne hik).symm.trans hk)

theorem within_of_kept {k : Id × Id} {v : InternalUser}
    (h : ∀ u, s.internalUsers.get? k = some u → u.Kept v) : (s.userWindow k).Within v.usage := by
  unfold Store.userWindow
  cases hu : s.internalUsers.get? k with
  | none => exact ⟨nofun, nofun⟩
  | some u => exact (h u hu).usage

theorem counted_step (hsafe : Safe s calls) (h : w.Inv s calls) (hcounted : w.Counted) (i : Nat) :
    (w.step i).Counted := by
  cases htask : w.tasks[i]? with
  | none =>
    rw [step_none htask]
    exact hcounted
  | some task =>
    intro rule node time hmem
    obtain ⟨k, hk⟩ := List.mem_iff_getElem?.1 hmem
    by_cases hik : i = k
    · subst hik
      rw [getElem?_step_self htask] at hk
      rcases UserTask.advance_eq_found (Option.some.inj hk) with rfl | ⟨v, rfl⟩
      · rw [step_some htask]
        exact hcounted rule node time (List.mem_of_getElem? htask)
      · -- the touch puts its own time into the record
        have hkey : key v = (rule, node) := (h.held i rule node time v htask).1
        rw [step_some htask]
        exact ⟨v.touch time, Table.get?_put_some (show key (v.touch time) = _ from hkey),
          v.usage.includes_touch time⟩
    · rw [getElem?_step_ne hik] at hk
      obtain ⟨u, hu, hincludes⟩ := hcounted rule node time (List.mem_of_getElem? hk)
      rcases get?_step htask (rule, node) with
        hsame | ⟨secret, -, hnone, -⟩ | ⟨rule', node', time', v, rfl, hv, hput⟩
      · exact ⟨u, hsame.trans hu, hincludes⟩
      · rw [hnone] at hu
        cases hu
      · -- what is put back comes from the first record, which is enough to include the time
        obtain ⟨hkey, hexpects, hkept⟩ := h.held i rule' node' time' v htask
        obtain ⟨rfl, rfl⟩ := Prod.mk.inj (hkey.symm.trans hv)
        have hfirst := hsafe k i rule' node' time time' (Ne.symm hik) (h.call_eq hk)
          (h.call_eq htask) hexpects
        exact ⟨v.touch time', hput, ((within_of_kept hkept).touch time').includes hfirst⟩

theorem Inv.run (h : w.Inv s calls) (schedule : List Nat) : (w.run schedule).Inv s calls := by
  induction schedule generalizing w with
  | nil => exact h
  | cons i rest ih => exact ih (h.step i)

theorem keeps_run (s : Store) (calls : List UserCall) (schedule : List Nat) (k : Id × Id) :
    Store.Keeps k s ((start s calls).run schedule).store :=
  ((inv_start s calls).run schedule).keeps k

theorem counted_run (hsafe : Safe s calls) (schedule : List Nat) (h : w.Inv s calls)
    (hcounted : w.Counted) : (w.run schedule).Counted := by
  induction schedule generalizing w with
  | nil => exact hcounted
  | cons i rest ih => exact ih (h.step i) (counted_step hsafe h hcounted i)

theorem counted_start (s : Store) (calls : List UserCall) : (start s calls).Counted := by
  intro rule node time hmem
  obtain ⟨c, -, hc⟩ := List.mem_map.1 hmem
  cases hc

/-! ## which calls lose no touch -/

theorem safe_of_counted (h : ∀ schedule, ((start s calls).run schedule).Finished →
    ((start s calls).run schedule).Counted) : Safe s calls := by
  intro i j rule node time time' hij hi hj hexpects
  obtain ⟨prelude, u, hu, husage, hwaiting⟩ := exists_prelude hexpects
  let w := (start s calls).run prelude
  have hwi : w.tasks[i]? = some (.waiting (.touch rule node time)) := hwaiting i rule node time hi
  have hwj : w.tasks[j]? = some (.waiting (.touch rule node time')) := hwaiting j rule node time' hj
  have hrun : (start s calls).run (prelude ++ undoing w.tasks.length j) =
      w.run (undoing w.tasks.length j) := List.foldl_append
  have hcounted := h (prelude ++ undoing w.tasks.length j)
  rw [hrun] at hcounted
  obtain ⟨v, hv, hincludes⟩ := hcounted (finished_undoing w j) rule node time (found_undoing hu hwi j)
  obtain rfl := Option.some.inj ((get?_undoing hu hwj _).symm.trans hv)
  rw [← husage]
  exact hincludes

/-- **Which calls lose no touch.**  However many touches and makings of internal users interleave
their transactions, every touch that found its user is within the window at the end, exactly if the
calls are safe.  One touch of each user is always safe, and so are touches at times that the window
includes already; two touches of a new user at different times never are. -/
theorem touches_counted_iff (s : Store) (calls : List UserCall) :
    (∀ schedule, ((start s calls).run schedule).Finished →
      ((start s calls).run schedule).Counted) ↔ Safe s calls :=
  ⟨safe_of_counted, fun hsafe schedule _ =>
    counted_run hsafe schedule (inv_start s calls) (counted_start s calls)⟩

/-- two reports of traffic of a user that is just made -/
def twoReports : List UserCall := [.ensure 7 2 "secret", .touch 7 2 10, .touch 7 2 20]

/-- the first report reads the user, the second one reads and writes, and then the first one writes -/
def undone : Race := (start .empty twoReports).run [0, 1, 2, 2, 1]

theorem touch_undone :
    undone.tasks = twoReports.map (.finished · true) ∧
      undone.store.internalUsers.get? (7, 2) = some ⟨7, 2, true, "secret", ⟨some 10, some 10⟩⟩ ∧
      ¬∀ schedule, ((start .empty twoReports).run schedule).Finished →
        ((start .empty twoReports).run schedule).Counted := by
  have htasks : undone.tasks = twoReports.map (.finished · true) := by decide +kernel
  have hstored : undone.store.internalUsers.get? (7, 2) =
      some ⟨7, 2, true, "secret", ⟨some 10, some 10⟩⟩ := by decide +kernel
  refine ⟨htasks, hstored, fun h => ?_⟩
  have hcounted : undone.Counted := h [0, 1, 2, 2, 1] (by decide +kernel)
  obtain ⟨u, hu, hincludes⟩ := hcounted 7 2 20 (htasks ▸ by decide)
  obtain rfl := Option.some.inj (hu.symm.trans hstored)
  exact absurd hincludes (by decide)

end Race

end ProxyMesh
