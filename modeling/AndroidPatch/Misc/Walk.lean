import Mathlib.Dynamics.PeriodicPts.Lemmas
import Mathlib.Data.Fintype.Card

/-!
# Walks

A walk goes from one place to the next as long as it is inside. Over finitely many places it ends
exactly when it never comes back to a place where it was (`walk_ends_iff`).
-/

namespace AndroidPatch

variable {α : Type}

/-- A walk that comes back to its start does not end. -/
theorem inside_of_periodic {next : α → α} (inside : α → Prop) {a : α} {p : Nat} (hp : 0 < p)
    (hback : next^[p] a = a) (hin : ∀ j < p, inside (next^[j] a)) (n : Nat) : inside (next^[n] a) := by
  have hperiod : Function.IsPeriodicPt next p a := hback
  rw [← hperiod.iterate_mod_apply n]
  exact hin _ (Nat.mod_lt n hp)

variable (next : α → α) (inside : α → Prop) [DecidablePred inside]

/-- The places at which a walk from `a` is, in at most `n` steps. -/
def walk : Nat → α → List α
  | 0, _ => []
  | n + 1, a => if inside a then a :: walk n (next a) else []

@[simp] theorem walk_zero (a : α) : walk next inside 0 a = [] := rfl

variable {next inside} {a b : α}

theorem walk_succ_of_inside (h : inside a) (n : Nat) :
    walk next inside (n + 1) a = a :: walk next inside n (next a) := if_pos h

theorem walk_of_not_inside (h : ¬ inside a) (n : Nat) : walk next inside n a = [] := by
  cases n with
  | zero => rfl
  | succ n => exact if_neg h

/-- A place of the walk is reached through places inside. -/
theorem mem_walk {n : Nat} (hb : b ∈ walk next inside n a) :
    ∃ k, next^[k] a = b ∧ ∀ j ≤ k, inside (next^[j] a) := by
  induction n generalizing a with
  | zero => cases hb
  | succ n ih =>
    by_cases ha : inside a
    · rw [walk_succ_of_inside ha] at hb
      rcases List.mem_cons.mp hb with rfl | hb
      · refine ⟨0, rfl, fun j hj => ?_⟩
        rw [Nat.le_zero.mp hj]
        exact ha
      · obtain ⟨k, hk, hin⟩ := ih hb
        refine ⟨k + 1, hk, fun j hj => ?_⟩
        cases j with
        | zero => exact ha
        | succ j => exact hin j (Nat.le_of_succ_le_succ hj)
    · rw [walk_of_not_inside ha] at hb
      cases hb

theorem nodup_walk_of_ends {n : Nat} (hend : ¬ inside (next^[n] a)) (m : Nat) :
    (walk next inside m a).Nodup := by
  induction n generalizing a m with
  | zero =>
    have ha : ¬ inside a := hend
    rw [walk_of_not_inside ha]
    exact List.nodup_nil
  | succ n ih =>
    by_cases ha : inside a
    · cases m with
      | zero => exact List.nodup_nil
      | succ m =>
        rw [walk_succ_of_inside ha]
        refine List.nodup_cons.mpr ⟨fun hmem => ?_, ih hend m⟩
        obtain ⟨k, hk, hin⟩ := mem_walk hmem
        apply hend
        apply inside_of_periodic inside (Nat.succ_pos k) hk
        intro j hj
        cases j with
        | zero => exact ha
        | succ j => exact hin j (by omega)
    · rw [walk_of_not_inside ha]
      exact List.nodup_nil

theorem length_walk_of_inside (h : ∀ n, inside (next^[n] a)) (n : Nat) :
    (walk next inside n a).length = n := by
  induction n generalizing a with
  | zero => rfl
  | succ n ih =>
    have ha : inside a := h 0
    rw [walk_succ_of_inside ha, List.length_cons, ih fun k => h (k + 1)]

variable (next inside a)

/-- Over finitely many places a walk ends if and only if it is nowhere twice. -/
theorem walk_ends_iff [Finite α] :
    (∃ n, ¬ inside (next^[n] a)) ↔ ∀ n, (walk next inside n a).Nodup := by
  constructor
  · rintro ⟨n, hend⟩ m
    exact nodup_walk_of_ends hend m
  · intro hnodup
    by_contra hnever
    push Not at hnever
    have := Fintype.ofFinite α
    have hlen := (hnodup (Fintype.card α + 1)).length_le_card
    rw [length_walk_of_inside hnever] at hlen
    omega

end AndroidPatch
