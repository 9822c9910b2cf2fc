import Mathlib.Logic.Function.Basic

/-!
# Mutexes and program counters

A mutex of a system of threads is a variable that holds its owner. Which sections of the
program run with the mutex is a predicate `holds` on program counters, and the two agree:
`OwnedBy holds pc owner`. The lemmas are the moves of one thread that keep this so.
-/

namespace AndroidPatch

universe u v

variable {τ : Type u} {π : Type v} [DecidableEq τ]
variable {holds : π → Prop} {pc : τ → π} {owner : Option τ} {t : τ} {q : π}

/-- The threads in a section that needs the mutex are exactly its owner. -/
def OwnedBy (holds : π → Prop) (pc : τ → π) (owner : Option τ) : Prop :=
  ∀ t, holds (pc t) ↔ owner = some t

omit [DecidableEq τ] in
theorem OwnedBy.unique {t' : τ} (h : OwnedBy holds pc owner) (ht : holds (pc t))
    (ht' : holds (pc t')) : t = t' := by
  have hown := (h t).mp ht
  rw [(h t').mp ht', Option.some_inj] at hown
  exact hown.symm

theorem OwnedBy.keep (h : OwnedBy holds pc owner) (hq : holds q ↔ holds (pc t)) :
    OwnedBy holds (Function.update pc t q) owner := by
  intro t'
  by_cases ht : t' = t
  · subst ht
    rw [Function.update_self, hq, h]
  · rw [Function.update_of_ne ht, h]

theorem OwnedBy.acquire (h : OwnedBy holds pc owner) (hfree : owner = none) (hq : holds q) :
    OwnedBy holds (Function.update pc t q) (some t) := by
  intro t'
  by_cases ht : t' = t
  · subst ht
    simp [hq]
  · have hnot : ¬ holds (pc t') := fun hold => by
      rw [(h t').mp hold] at hfree
      cases hfree
    rw [Function.update_of_ne ht]
    simp [hnot, Ne.symm ht]

theorem OwnedBy.release (h : OwnedBy holds pc owner) (ht : holds (pc t)) (hq : ¬ holds q) :
    OwnedBy holds (Function.update pc t q) none := by
  intro t'
  by_cases htt : t' = t
  · subst htt
    simp [hq]
  · have hnot : ¬ holds (pc t') := fun hold => htt (h.unique hold ht)
    rw [Function.update_of_ne htt]
    simp [hnot]

end AndroidPatch
