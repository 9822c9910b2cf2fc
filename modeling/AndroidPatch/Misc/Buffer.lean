import Mathlib.Logic.Function.Basic
import Mathlib.Data.List.TakeWhile

/-!
# Cells of a buffer

A buffer is a function from indices to cells. `slice m i j` are the cells from `i` up to `j`,
`blit` writes a list of cells, `scan` is the loop that moves an index over the cells that
satisfy a predicate. The lemmas say what the loop finds in terms of `List.takeWhile`, and which
writes a slice does not see. `Holds m i xs` says that a list stands in the cells from `i` on.
-/

namespace AndroidPatch

universe u

variable {α : Type u}

/-- The cells from `i` up to, not including, `j`. -/
def slice (m : Nat → α) (i j : Nat) : List α := (List.range (j - i)).map fun k => m (i + k)

@[simp] theorem length_slice (m : Nat → α) (i j : Nat) : (slice m i j).length = j - i := by
  simp [slice]

@[simp] theorem slice_self (m : Nat → α) (i : Nat) : slice m i i = [] := by
  simp [slice]

theorem slice_cons {m : Nat → α} {i j : Nat} (h : i < j) :
    slice m i j = m i :: slice m (i + 1) j := by
  obtain ⟨k, rfl⟩ : ∃ k, j = i + 1 + k := ⟨j - (i + 1), by omega⟩
  have hlen : i + 1 + k - i = k + 1 := by omega
  have hlen' : i + 1 + k - (i + 1) = k := by omega
  rw [slice, slice, hlen, hlen', List.range_succ_eq_map, List.map_cons, List.map_map,
    Nat.add_zero]
  congr 1
  apply List.map_congr_left
  intro x _
  show m (i + (x + 1)) = m (i + 1 + x)
  congr 1
  omega

theorem slice_append (m : Nat → α) {i j k : Nat} (hij : i ≤ j) (hjk : j ≤ k) :
    slice m i k = slice m i j ++ slice m j k := by
  induction j, hij using Nat.le_induction with
  | base => simp
  | succ j hij ih =>
    rw [ih (by omega), slice_cons (show j < k by omega)]
    have hlast : slice m i (j + 1) = slice m i j ++ [m j] := by
      have hlen : j + 1 - i = j - i + 1 := by omega
      rw [slice, slice, hlen, List.range_succ, List.map_append, List.map_singleton]
      congr 3
      omega
    rw [hlast, List.append_assoc, List.singleton_append]

theorem slice_congr {m m' : Nat → α} {i j i' j' : Nat} (hlen : j - i = j' - i')
    (h : ∀ k, k < j - i → m (i + k) = m' (i' + k)) : slice m i j = slice m' i' j' := by
  unfold slice
  rw [← hlen]
  apply List.map_congr_left
  intro k hk
  exact h k (List.mem_range.mp hk)

theorem drop_slice (m : Nat → α) (i j k : Nat) : (slice m i j).drop k = slice m (i + k) j := by
  apply List.ext_getElem
  · simp only [List.length_drop, length_slice]
    omega
  · intro n h1 h2
    simp [slice, Nat.add_assoc]

theorem take_slice {m : Nat → α} {i j k : Nat} (h : i + k ≤ j) :
    (slice m i j).take k = slice m i (i + k) := by
  rw [slice_append m (Nat.le_add_right i k) h, List.take_left']
  simp

theorem dropWhile_slice (p : α → Bool) (m : Nat → α) (i j : Nat) :
    (slice m i j).dropWhile p = slice m (i + ((slice m i j).takeWhile p).length) j := by
  have hsplit : (slice m i j).takeWhile p ++ (slice m i j).dropWhile p = slice m i j :=
    List.takeWhile_append_dropWhile
  calc (slice m i j).dropWhile p
      = ((slice m i j).takeWhile p ++ (slice m i j).dropWhile p).drop
          ((slice m i j).takeWhile p).length := List.drop_left.symm
    _ = (slice m i j).drop ((slice m i j).takeWhile p).length := by rw [hsplit]
    _ = slice m (i + ((slice m i j).takeWhile p).length) j := drop_slice m i j _

theorem length_takeWhile_slice_le (p : α → Bool) (m : Nat → α) (i j : Nat) :
    ((slice m i j).takeWhile p).length ≤ j - i := by
  have hle := (List.takeWhile_prefix (l := slice m i j) p).length_le
  rwa [length_slice] at hle

/-- Where `takeWhile` stops: at the end of the slice or at a cell that fails the test. -/
theorem takeWhile_slice_stop {p : α → Bool} {m : Nat → α} {i j : Nat}
    (h : i + ((slice m i j).takeWhile p).length < j) :
    p (m (i + ((slice m i j).takeWhile p).length)) = false := by
  have hdrop := dropWhile_slice p m i j
  rw [slice_cons h] at hdrop
  have hhead := List.head?_dropWhile_not p (slice m i j)
  rw [hdrop] at hhead
  simpa using hhead

theorem slice_takeWhile (p : α → Bool) (m : Nat → α) {i j : Nat} (hij : i ≤ j) :
    slice m i (i + ((slice m i j).takeWhile p).length) = (slice m i j).takeWhile p := by
  have hle := length_takeWhile_slice_le p m i j
  rw [← take_slice (show i + ((slice m i j).takeWhile p).length ≤ j by omega)]
  exact (List.prefix_iff_eq_take.mp (List.takeWhile_prefix p)).symm

theorem slice_update_of_le {m : Nat → α} {i j k : Nat} {x : α}
    (h : j ≤ k ∨ k < i) : slice (Function.update m k x) i j = slice m i j := by
  apply slice_congr rfl
  intro n hn
  rw [Function.update_of_ne]
  omega

/-- The list `xs` written from index `i` on. -/
def blit (m : Nat → α) (i : Nat) (xs : List α) : Nat → α := fun k =>
  if i ≤ k then xs.getD (k - i) (m k) else m k

theorem blit_of_lt {m : Nat → α} {i k : Nat} (xs : List α) (h : k < i) : blit m i xs k = m k := by
  simp [blit, Nat.not_le.mpr h]

theorem blit_of_le {m : Nat → α} {i k : Nat} {xs : List α} (h : i + xs.length ≤ k) :
    blit m i xs k = m k := by
  unfold blit
  split
  · rw [List.getD_eq_getElem?_getD, List.getElem?_eq_none (by omega), Option.getD_none]
  · rfl

@[simp] theorem blit_nil (m : Nat → α) (i : Nat) : blit m i [] = m := by
  funext k
  exact ite_self _

theorem blit_cons (m : Nat → α) (i : Nat) (x : α) (xs : List α) :
    blit m i (x :: xs) = blit (Function.update m i x) (i + 1) xs := by
  funext k
  rcases Nat.lt_trichotomy k i with hk | rfl | hk
  · rw [blit_of_lt _ hk, blit_of_lt _ (by omega), Function.update_of_ne (by omega)]
  · rw [blit_of_lt xs (Nat.lt_succ_self k), Function.update_self]
    simp [blit]
  · obtain ⟨j, rfl⟩ : ∃ j, k = i + 1 + j := ⟨k - (i + 1), by omega⟩
    simp only [blit, if_pos (show i ≤ i + 1 + j by omega), if_pos (show i + 1 ≤ i + 1 + j by omega),
      show i + 1 + j - (i + 1) = j by omega, show i + 1 + j - i = j + 1 by omega,
      List.getD_cons_succ, Function.update_of_ne (show i + 1 + j ≠ i by omega)]

/-- Two copies, one behind the other. -/
theorem blit_append (m : Nat → α) (i : Nat) (xs ys : List α) :
    blit (blit m i xs) (i + xs.length) ys = blit m i (xs ++ ys) := by
  induction xs generalizing m i with
  | nil => simp
  | cons x xs ih =>
    rw [List.cons_append, blit_cons, blit_cons, List.length_cons, ← ih,
      show i + (xs.length + 1) = i + 1 + xs.length by omega]

theorem slice_blit (m : Nat → α) (i : Nat) (xs : List α) :
    slice (blit m i xs) i (i + xs.length) = xs := by
  apply List.ext_getElem
  · simp
  · intro n h1 h2
    simp [slice, blit, h2]

/-- The list `xs` stands in the cells from `i` on. -/
def Holds (m : Nat → α) : Nat → List α → Prop
  | _, [] => True
  | i, x :: xs => m i = x ∧ Holds m (i + 1) xs

@[simp] theorem holds_nil (m : Nat → α) (i : Nat) : Holds m i [] := trivial

@[simp] theorem holds_cons {m : Nat → α} {i : Nat} {x : α} {xs : List α} :
    Holds m i (x :: xs) ↔ m i = x ∧ Holds m (i + 1) xs := Iff.rfl

theorem holds_append {m : Nat → α} {i : Nat} {xs ys : List α} :
    Holds m i (xs ++ ys) ↔ Holds m i xs ∧ Holds m (i + xs.length) ys := by
  induction xs generalizing i with
  | nil => simp
  | cons x xs ih =>
    rw [List.cons_append, holds_cons, holds_cons, ih, and_assoc, List.length_cons,
      Nat.add_right_comm i 1, Nat.add_assoc i]

theorem Holds.congr {m m' : Nat → α} {i : Nat} {xs : List α} (h : Holds m i xs)
    (heq : ∀ k, i ≤ k → k < i + xs.length → m' k = m k) : Holds m' i xs := by
  induction xs generalizing i with
  | nil => trivial
  | cons x xs ih =>
    rw [List.length_cons] at heq
    refine ⟨(heq i (Nat.le_refl i) (by omega)).trans h.1, ih h.2 ?_⟩
    intro k hi hk
    exact heq k (by omega) (by omega)

theorem Holds.drop {m : Nat → α} {i : Nat} {xs : List α} (h : Holds m i xs) (n : Nat) :
    Holds m (i + n) (xs.drop n) := by
  induction n generalizing i xs with
  | zero => exact h
  | succ n ih =>
    cases xs with
    | nil => trivial
    | cons x xs =>
      rw [List.drop_succ_cons, show i + (n + 1) = i + 1 + n by omega]
      exact ih h.2

theorem holds_iff_getD {m : Nat → α} {i : Nat} {xs : List α} (d : α) :
    Holds m i xs ↔ ∀ k < xs.length, m (i + k) = xs.getD k d := by
  induction xs generalizing i with
  | nil => simp
  | cons x xs ih =>
    rw [holds_cons, ih]
    constructor
    · rintro ⟨hx, hxs⟩ k hk
      cases k with
      | zero => exact hx
      | succ k =>
        rw [List.getD_cons_succ, ← hxs k (Nat.lt_of_succ_lt_succ hk), Nat.add_right_comm i 1 k,
          Nat.add_assoc]
    · intro h
      refine ⟨h 0 (Nat.zero_lt_succ _), ?_⟩
      intro k hk
      rw [Nat.add_assoc, Nat.add_comm 1 k, h (k + 1) (Nat.succ_lt_succ hk), List.getD_cons_succ]

theorem holds_blit (m : Nat → α) (i : Nat) (xs : List α) : Holds (blit m i xs) i xs := by
  induction xs generalizing m i with
  | nil => trivial
  | cons x xs ih =>
    rw [blit_cons]
    refine ⟨?_, ih _ _⟩
    rw [blit_of_lt xs (Nat.lt_succ_self i), Function.update_self]

theorem holds_iff_slice {m : Nat → α} {i : Nat} {xs : List α} :
    Holds m i xs ↔ slice m i (i + xs.length) = xs := by
  induction xs generalizing i with
  | nil => simp
  | cons x xs ih =>
    rw [holds_cons, List.length_cons, slice_cons (by omega), List.cons.injEq, ih,
      Nat.add_right_comm i 1, Nat.add_assoc i]

/-- The loop `while (p(*cur)) cur++` over the `left` cells from `i` on; absent when it runs past
    the last one. -/
def scan (p : α → Bool) (m : Nat → α) : Nat → Nat → Option Nat
  | 0, _ => none
  | left + 1, i => if p (m i) then scan p m left (i + 1) else some i

/-- A cell at `j` that stops the loop bounds it. -/
theorem scan_eq_some {p : α → Bool} {m : Nat → α} {i j left : Nat} (hij : i ≤ j)
    (hstop : p (m j) = false) (hleft : j < i + left) :
    scan p m left i = some (i + ((slice m i j).takeWhile p).length) := by
  induction left generalizing i with
  | zero => omega
  | succ left ih =>
    rcases Nat.lt_or_ge i j with hlt | hge
    · rw [scan, slice_cons hlt]
      by_cases hp : p (m i) = true
      · rw [if_pos hp, ih (show i + 1 ≤ j from hlt) (by omega), List.takeWhile_cons_of_pos hp, List.length_cons]
        congr 1
        omega
      · rw [if_neg hp, List.takeWhile_cons_of_neg (by simpa using hp), List.length_nil]
        rfl
    · have hj : i = j := by omega
      subst hj
      simp [scan, hstop]

theorem scan_eq_none {p : α → Bool} {m : Nat → α} {i left : Nat}
    (h : ∀ k, i ≤ k → k < i + left → p (m k) = true) : scan p m left i = none := by
  induction left generalizing i with
  | zero => rfl
  | succ left ih =>
    rw [scan, if_pos (h i (Nat.le_refl i) (by omega))]
    apply ih
    intro k hk hlast
    exact h k (by omega) (by omega)

end AndroidPatch
