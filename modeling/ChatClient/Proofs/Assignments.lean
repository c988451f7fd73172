import Mathlib.Data.List.Induction

/-!
# Assignments in a row

Several steps may give a value to the same place, and the one that counts is the last
(`lastOf`). A state on which every step either puts the value that it gives or leaves what is there
shows the last value given, or what it showed at first (`view_foldl`).
-/

namespace ChatClient

variable {α β γ : Type}

/-- The last value that the steps give. -/
def lastOf (given : α → Option γ) (steps : List α) : Option γ := (steps.filterMap given).getLast?

theorem lastOf_concat (given : α → Option γ) (steps : List α) (a : α) :
    lastOf given (steps ++ [a]) = (given a).or (lastOf given steps) := by
  rw [lastOf, lastOf, List.filterMap_append, List.getLast?_append]
  cases h : given a with
  | none => simp [h]
  | some v => simp [h]

theorem exists_of_lastOf {given : α → Option γ} {steps : List α} {v : γ}
    (h : lastOf given steps = some v) : ∃ a ∈ steps, given a = some v :=
  List.mem_filterMap.1 (List.mem_of_getLast? h)

/-- The one value that is given is the last. -/
theorem lastOf_of_once {given : α → Option γ} {steps : List α} {v : Option γ}
    (once : steps.filterMap given = v.toList) : lastOf given steps = v := by
  rw [lastOf, once]
  cases v <;> rfl

/-- A place that no step touches shows what it showed at first. -/
theorem view_foldl_of_kept (step : β → α → β) (view : β → γ)
    (keeps : ∀ b a, view (step b a) = view b) (b : β) (steps : List α) :
    view (steps.foldl step b) = view b := by
  induction steps generalizing b with
  | nil => rfl
  | cons a steps ih => rw [List.foldl_cons, ih, keeps]

/-- A place where steps may put something shows the last thing put there, or what it showed at
first. -/
theorem view_foldl_or (step : β → α → β) (view : β → Option γ) (given : α → Option γ)
    (assigns : ∀ b a, view (step b a) = (given a).or (view b)) (b : β) (steps : List α) :
    view (steps.foldl step b) = (lastOf given steps).or (view b) := by
  induction steps using List.reverseRecOn with
  | nil => rfl
  | append_singleton steps a ih =>
      rw [List.foldl_append, List.foldl_cons, List.foldl_nil, assigns, ih, lastOf_concat,
        Option.or_assoc]

/-- A place that is never empty, and that every step assigns to or leaves alone, shows the last value
assigned. -/
theorem view_foldl (step : β → α → β) (view : β → γ) (given : α → Option γ)
    (assigns : ∀ b a, view (step b a) = (given a).getD (view b)) (b : β) (steps : List α) :
    view (steps.foldl step b) = (lastOf given steps).getD (view b) := by
  have filled := view_foldl_or step (fun b => some (view b)) given
    (fun b a => by rw [assigns, Option.or_some]) b steps
  rw [Option.or_some] at filled
  exact Option.some.inj filled

/-- A flag that some steps raise is up if one of them was made, or if it was up at first. -/
theorem view_foldl_raised (step : β → α → β) (view : β → Bool) (raises : α → Prop)
    (raised : ∀ b a, view (step b a) = true ↔ raises a ∨ view b = true) (b : β) (steps : List α) :
    view (steps.foldl step b) = true ↔ (∃ a ∈ steps, raises a) ∨ view b = true := by
  induction steps generalizing b with
  | nil => simp
  | cons a steps ih =>
      rw [List.foldl_cons, ih, raised]
      simp only [List.mem_cons, exists_eq_or_imp]
      rw [or_left_comm, or_assoc]

end ChatClient
