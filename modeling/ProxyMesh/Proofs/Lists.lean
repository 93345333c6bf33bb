/-!
# Lists of steps and of items

Documents and reports are made by one step after the other, each with a few items of its own.

* `foldl_view`, `foldl_appends`, `foldl_keeps`, `foldl_snd`   what many steps do to a part of their state;
* `visits`    the items, each with the state that its step finds;
* `foldl_filter_of_id`, `flatMap_filter_of_nil`, `flatMap_eq_of_ne`   what does nothing and gives nothing
              can be left out.
-/

namespace ProxyMesh

section
variable {σ α β γ : Type} {step : σ → α → σ}

/-- steps whose effect on a view is that of a list of items each have that of all items together -/
theorem foldl_view (view : σ → γ) {items : α → List β} {add : γ → β → γ}
    (hstep : ∀ state x, view (step state x) = (items x).foldl add (view state)) (l : List α)
    (state : σ) : view (l.foldl step state) = (l.flatMap items).foldl add (view state) := by
  rw [List.foldl_flatMap]
  exact (List.foldl_hom view fun state x => (hstep state x).symm).symm

theorem foldl_appends (field : σ → List β) {items : α → List β}
    (hstep : ∀ state x, field (step state x) = field state ++ items x) (l : List α) (state : σ) :
    field (l.foldl step state) = field state ++ l.flatMap items := by
  induction l generalizing state with
  | nil => exact (List.append_nil _).symm
  | cons x rest ih => rw [List.foldl_cons, ih, hstep, List.flatMap_cons, List.append_assoc]

theorem foldl_keeps (view : σ → γ) (hstep : ∀ state x, view (step state x) = view state) (l : List α)
    (state : σ) : view (l.foldl step state) = view state := by
  induction l generalizing state with
  | nil => rfl
  | cons x rest ih => exact (ih (step state x)).trans (hstep state x)

theorem foldl_snd (step : σ × β → α → σ × β)
    (hstep : ∀ x state state', state.2 = state'.2 → (step state x).2 = (step state' x).2)
    (l : List α) {state state' : σ × β} (h : state.2 = state'.2) :
    (l.foldl step state).2 = (l.foldl step state').2 := by
  induction l generalizing state state' with
  | nil => exact h
  | cons x rest ih => exact ih (hstep x _ _ h)

/-! ## what the steps find -/

/-- the items of a list, each with the state that its step finds -/
def visits (step : σ → α → σ) (state : σ) : List α → List (σ × α)
  | [] => []
  | x :: rest => (state, x) :: visits step (step state x) rest

/-- what is looked up at each step: at the first one, and then at the others -/
theorem filterMap_visits_cons (f : σ × α → Option β) (state : σ) (x : α) (rest : List α) :
    (visits step state (x :: rest)).filterMap f =
      (f (state, x)).toList ++ (visits step (step state x) rest).filterMap f := by
  rw [visits, List.filterMap_cons]
  cases f (state, x) <;> rfl

/-! ## what can be left out -/

variable {p : α → Bool} {l : List α}

theorem foldl_filter_of_id (h : ∀ x ∈ l, p x = false → ∀ state, step state x = state) (state : σ) :
    (l.filter p).foldl step state = l.foldl step state := by
  induction l generalizing state with
  | nil => rfl
  | cons x rest ih =>
    have hrest := ih fun y hy => h y (List.mem_cons_of_mem _ hy)
    cases hx : p x with
    | true => rw [List.filter_cons_of_pos hx, List.foldl_cons, List.foldl_cons, hrest]
    | false =>
      rw [List.filter_cons_of_neg (Bool.eq_false_iff.1 hx), List.foldl_cons,
        h x List.mem_cons_self hx, hrest]

theorem flatMap_filter_of_nil {items : α → List β} (h : ∀ x ∈ l, p x = false → items x = []) :
    (l.filter p).flatMap items = l.flatMap items := by
  induction l with
  | nil => rfl
  | cons x rest ih =>
    have hrest := ih fun y hy => h y (List.mem_cons_of_mem _ hy)
    cases hx : p x with
    | true => rw [List.filter_cons_of_pos hx, List.flatMap_cons, List.flatMap_cons, hrest]
    | false =>
      rw [List.filter_cons_of_neg (Bool.eq_false_iff.1 hx), List.flatMap_cons,
        h x List.mem_cons_self hx, List.nil_append, hrest]

theorem flatMap_eq_of_ne {items : α → List β} {x : α} (hnodup : l.Nodup) (hx : x ∈ l)
    (h : ∀ y, y ≠ x → items y = []) : l.flatMap items = items x := by
  induction l with
  | nil => cases hx
  | cons y rest ih =>
    obtain ⟨hnew, hrest⟩ := List.nodup_cons.1 hnodup
    rw [List.flatMap_cons]
    by_cases hy : y = x
    · subst hy
      rw [List.flatMap_eq_nil_iff.2 fun z hz => h z fun e => hnew (e ▸ hz), List.append_nil]
    · rw [h y hy, List.nil_append]
      exact ih hrest ((List.mem_cons.1 hx).resolve_left (Ne.symm hy))

end
end ProxyMesh
