import Mathlib.Data.List.Forall2

/-!
# Going through lists

A list is gone through if no step of it fails (`mapM_eq_ok_iff`), and fails with an error of one of its steps
otherwise (`exists_of_mapM_eq_error`).
-/
namespace Constituency

variable {α β ε : Type} {f : α → Except ε β} {xs : List α}

theorem exists_of_map_eq_ok {x : Except ε α} {g : α → β} {y : β} (h : x.map g = .ok y) : ∃ z, x = .ok z := by
  cases x with
  | error e => exact absurd h (by simp [Except.map])
  | ok z => exact ⟨z, rfl⟩

theorem mapM_eq_ok_iff {ys : List β} :
    xs.mapM f = .ok ys ↔ List.Forall₂ (fun x y => f x = .ok y) xs ys := by
  induction xs generalizing ys with
  | nil => cases ys <;> simp [pure, Except.pure]
  | cons x xs ih =>
    rw [List.mapM_cons]
    cases hx : f x with
    | error e => cases ys <;> simp [hx, bind, Except.bind]
    | ok y =>
      cases hxs : xs.mapM f with
      | error e => cases ys <;> simp [hx, hxs, ← ih, bind, Except.bind]
      | ok zs => cases ys <;> simp [hx, hxs, ← ih, bind, Except.bind, pure, Except.pure]

/-- Going through a list does not fail when no step of it does. -/
theorem mapM_eq_ok {g : α → β} (h : ∀ x ∈ xs, f x = .ok (g x)) : xs.mapM f = .ok (xs.map g) := by
  rw [mapM_eq_ok_iff, List.forall₂_map_right_iff, List.forall₂_same]
  exact h

/-- When a list has been gone through, no step of it has failed. -/
theorem exists_of_mapM_eq_ok {ys : List β} (h : xs.mapM f = .ok ys) {x : α} (hx : x ∈ xs) :
    ∃ y, f x = .ok y := by
  rw [mapM_eq_ok_iff] at h
  induction h with
  | nil => exact absurd hx (by simp)
  | cons hy _ ih =>
    rcases List.mem_cons.mp hx with rfl | hx
    · exact ⟨_, hy⟩
    · exact ih hx

/-- Going through a list fails if a step of it fails. -/
theorem exists_mapM_eq_error {x : α} (hx : x ∈ xs) {e : ε} (hfail : f x = .error e) :
    ∃ e', xs.mapM f = .error e' := by
  cases hxs : xs.mapM f with
  | error e' => exact ⟨e', rfl⟩
  | ok ys =>
    obtain ⟨y, hy⟩ := exists_of_mapM_eq_ok hxs hx
    rw [hfail] at hy
    exact absurd hy (by simp)

/-- Going through a list fails with an error of one of its steps. -/
theorem exists_of_mapM_eq_error {e : ε} (h : xs.mapM f = .error e) : ∃ x ∈ xs, f x = .error e := by
  induction xs with
  | nil => exact absurd h (by simp [pure, Except.pure])
  | cons x xs ih =>
    rw [List.mapM_cons] at h
    cases hx : f x with
    | error e' =>
      have he : e' = e := by simpa [hx, bind, Except.bind] using h
      exact ⟨x, by simp, he ▸ hx⟩
    | ok y =>
      cases hxs : xs.mapM f with
      | error e' =>
        have he : e' = e := by simpa [hx, hxs, bind, Except.bind] using h
        obtain ⟨z, hz, hfail⟩ := ih (he ▸ hxs)
        exact ⟨z, List.mem_cons_of_mem x hz, hfail⟩
      | ok ys => simp [hx, hxs, bind, Except.bind, pure, Except.pure] at h

/-- Folding a list fails with an error of one of its steps. -/
theorem exists_of_foldlM_eq_error {step : β → α → Except ε β} {b : β} {e : ε}
    (h : xs.foldlM step b = .error e) : ∃ x ∈ xs, ∃ b', step b' x = .error e := by
  induction xs generalizing b with
  | nil => exact absurd h (by simp [pure, Except.pure])
  | cons x xs ih =>
    rw [List.foldlM_cons] at h
    cases hx : step b x with
    | error e' =>
      have he : e' = e := by simpa [hx, bind, Except.bind] using h
      exact ⟨x, by simp, b, he ▸ hx⟩
    | ok b' =>
      obtain ⟨y, hy, b'', hfail⟩ := ih (by simpa [hx, bind, Except.bind] using h)
      exact ⟨y, List.mem_cons_of_mem x hy, b'', hfail⟩

end Constituency
