import Mathlib.Data.List.Basic

/-!
# The first element of each key

A list without the elements whose key an earlier element has, and the loop that grows it by
comparing each element with those that are already there.
-/

namespace AndroidPatch

section

variable {α β γ : Type} [DecidableEq β]

/-- The first element of each key, in order. -/
def firstOfEach (key : α → β) : List α → List α
  | [] => []
  | a :: l => a :: (firstOfEach key l).filter fun b => key b ≠ key a

/-- The list with the elements of another whose keys are new in it, one after the other. -/
def addNew (key : α → β) : List α → List α → List α
  | found, [] => found
  | found, a :: l =>
      if key a ∈ found.map key then addNew key found l else addNew key (found ++ [a]) l

variable {key : α → β}

theorem mem_keys_firstOfEach {l : List α} {k : β} :
    k ∈ (firstOfEach key l).map key ↔ k ∈ l.map key := by
  induction l with
  | nil => rfl
  | cons a l ih =>
    simp only [firstOfEach, List.map_cons, List.mem_cons, ← ih]
    by_cases hk : k = key a
    · simp [hk]
    · simp only [hk, false_or, List.mem_map, List.mem_filter, decide_eq_true_eq]
      constructor
      · rintro ⟨b, ⟨hmem, -⟩, rfl⟩
        exact ⟨b, hmem, rfl⟩
      · rintro ⟨b, hmem, rfl⟩
        exact ⟨b, ⟨hmem, hk⟩, rfl⟩

theorem addNew_eq (found l : List α) :
    addNew key found l =
      found ++ (firstOfEach key l).filter fun a => key a ∉ found.map key := by
  induction l generalizing found with
  | nil => simp [addNew, firstOfEach]
  | cons a l ih =>
    by_cases ha : key a ∈ found.map key
    · have hsame : (firstOfEach key l).filter (fun b => key b ∉ found.map key) =
          (firstOfEach key l).filter fun b => key b ∉ found.map key && key b ≠ key a := by
        refine List.filter_congr fun b _ => ?_
        by_cases hb : key b = key a
        · simp [hb, ha]
        · simp [hb]
      rw [addNew, if_pos ha, ih, firstOfEach, List.filter_cons_of_neg (by simpa using ha),
        List.filter_filter, hsame]
    · have hmore : (firstOfEach key l).filter (fun b => key b ∉ (found ++ [a]).map key) =
          (firstOfEach key l).filter fun b => key b ∉ found.map key && key b ≠ key a := by
        refine List.filter_congr fun b _ => ?_
        rw [← Bool.decide_and, decide_eq_decide]
        simp [not_or]
      rw [addNew, if_neg ha, ih, firstOfEach, List.filter_cons_of_pos (by simpa using ha),
        List.filter_filter, List.append_assoc, List.singleton_append, hmore]

theorem addNew_nil (l : List α) : addNew key [] l = firstOfEach key l := by
  rw [addNew_eq]
  simp

theorem firstOfEach_append (l m : List α) :
    firstOfEach key (l ++ m) =
      firstOfEach key l ++ (firstOfEach key m).filter fun a => key a ∉ l.map key := by
  induction l with
  | nil => simp [firstOfEach]
  | cons a l ih =>
    rw [List.cons_append, firstOfEach, ih, firstOfEach, List.filter_append, List.filter_filter,
      List.cons_append]
    congr 2
    refine List.filter_congr fun b _ => ?_
    simp [not_or]

/-- Nothing is added exactly by elements whose keys are there. -/
theorem firstOfEach_append_eq_iff {l m : List α} :
    firstOfEach key (l ++ m) = firstOfEach key l ↔ ∀ a ∈ m, key a ∈ l.map key := by
  rw [firstOfEach_append, List.append_right_eq_self, List.filter_eq_nil_iff]
  have hkeys : (∀ a ∈ firstOfEach key m, key a ∈ l.map key) ↔
      ∀ k ∈ (firstOfEach key m).map key, k ∈ l.map key := by simp
  simp only [decide_eq_true_eq, not_not, hkeys, mem_keys_firstOfEach]
  simp

theorem firstOfEach_map {f : γ → α} (l : List γ) :
    firstOfEach key (l.map f) = (firstOfEach (fun c => key (f c)) l).map f := by
  induction l with
  | nil => rfl
  | cons c l ih =>
    rw [List.map_cons, firstOfEach, ih, firstOfEach, List.map_cons, List.filter_map]
    rfl

end

end AndroidPatch
