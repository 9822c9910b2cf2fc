import AndroidPatch.Ril.Altair.Sms3gpp2

/-!
# Accesses of the SMS code

What a load, a store and a copy give when they stay inside their arrays, and what they leave in
the log.
-/

namespace AndroidPatch.Ril.Altair.Sms3gpp2

open Logged

variable {s : Memory} {o : Object} {i : Nat} {α : Type}

/-! ## Cells -/

@[simp] theorem addr_setAddr (s : Memory) (f : AddrField) (a : Address) :
    (s.setAddr f a).addr f = a := by
  cases f <;> rfl

@[simp] theorem size_setCells (s : Memory) (o o' : Object) (m : Nat → UInt8) :
    (s.setCells o m).size o' = s.size o' := by
  rcases o with _ | ⟨_ | _⟩ | _ | _ | _ <;> cases o' <;> rfl

@[simp] theorem cells_setCells (s : Memory) (o : Object) (m : Nat → UInt8) :
    (s.setCells o m).cells o = m := by
  rcases o with _ | ⟨_ | _⟩ | _ | _ | _ <;> rfl

@[simp] theorem cells_setCells_of_ne (s : Memory) {o o' : Object} (h : o' ≠ o) (m : Nat → UInt8) :
    (s.setCells o m).cells o' = s.cells o' := by
  rcases o with _ | ⟨_ | _⟩ | _ | _ | _ <;> rcases o' with _ | ⟨_ | _⟩ | _ | _ | _ <;>
    first | rfl | exact (h rfl).elim

@[simp] theorem setCells_setCells (s : Memory) (o : Object) (m m' : Nat → UInt8) :
    (s.setCells o m).setCells o m' = s.setCells o m' := by
  rcases o with _ | ⟨_ | _⟩ | _ | _ | _ <;> rfl

@[simp] theorem setCells_cells (s : Memory) (o : Object) : s.setCells o (s.cells o) = s := by
  rcases o with _ | ⟨_ | _⟩ | _ | _ | _ <;> rfl

/-! ## Results -/

theorem result_load (h : i < s.size o) : (load o i).result s = .ok (s.cells o i, s) := by
  unfold load
  rw [result_emit_bind, result_get_bind, if_pos h]
  rfl

theorem result_store {b : UInt8} (h : i < s.size o) :
    (store o i b).result s = .ok ((), s.setCells o (Function.update (s.cells o) i b)) := by
  unfold store
  rw [result_emit_bind, result_get_bind, if_pos h]
  rfl

theorem result_load_bind {q : UInt8 → Code α} (h : i < s.size o) :
    (load o i >>= q).result s = (q (s.cells o i)).result s := result_bind_of_ok (result_load h)

theorem result_store_bind {b : UInt8} {q : Unit → Code α} (h : i < s.size o) :
    (store o i b >>= q).result s =
      (q ()).result (s.setCells o (Function.update (s.cells o) i b)) :=
  result_bind_of_ok (result_store h)

theorem result_load_of_le (h : s.size o ≤ i) : (load o i).result s = .error .outOfBounds := by
  unfold load
  rw [result_emit_bind, result_get_bind, if_neg (Nat.not_lt.mpr h)]
  rfl

theorem result_store_of_le {b : UInt8} (h : s.size o ≤ i) :
    (store o i b).result s = .error .outOfBounds := by
  unfold store
  rw [result_emit_bind, result_get_bind, if_neg (Nat.not_lt.mpr h)]
  rfl

theorem result_load_bind_of_le {q : UInt8 → Code α} (h : s.size o ≤ i) :
    (load o i >>= q).result s = .error .outOfBounds :=
  result_bind_of_error (result_load_of_le h)

theorem result_assert {debug : Bool} {c : Prop} [Decidable c] (h : c) :
    (assert debug c).result s = .ok ((), s) := by
  unfold assert
  rw [if_neg (fun hc => hc.2 h)]
  rfl

theorem result_assert_bind {debug : Bool} {c : Prop} [Decidable c] {q : Unit → Code α} (h : c) :
    (assert debug c >>= q).result s = (q ()).result s := result_bind_of_ok (result_assert h)

/-- A copy that stays inside both arrays. -/
theorem result_memcpy {dst src : Object} (hne : src ≠ dst) {n d j : Nat} (hd : d + n ≤ s.size dst)
    (hj : j + n ≤ s.size src) :
    (memcpy dst src n d j).result s =
      .ok ((), s.setCells dst (blit (s.cells dst) d (slice (s.cells src) j (j + n)))) := by
  induction n generalizing s d j with
  | zero =>
    rw [Nat.add_zero, slice_self, blit_nil, setCells_cells]
    rfl
  | succ n ih =>
    show (load src j >>= _).result s = _
    rw [result_load_bind (by omega), result_store_bind (by omega),
      ih (by rw [size_setCells]; omega) (by rw [size_setCells]; omega), setCells_setCells,
      cells_setCells, cells_setCells_of_ne s hne, slice_cons (show j < j + (n + 1) by omega),
      blit_cons, show j + 1 + n = j + (n + 1) by omega]

/-! ## Entries of the log

A property of accesses that holds of none outside of the array is decided along the run. -/

variable {P : Access → Prop}

theorem allLogged_load : AllLogged P (load o i) s ↔ P (.load o i) := by
  unfold load
  rw [allLogged_emit_bind, allLogged_get_bind]
  split <;> simp

theorem allLogged_store {b : UInt8} : AllLogged P (store o i b) s ↔ P (.store o i) := by
  unfold store
  rw [allLogged_emit_bind, allLogged_get_bind]
  split <;> simp

theorem allLogged_load_bind {q : UInt8 → Code α} (h : P (.load o i) → i < s.size o) :
    AllLogged P (load o i >>= q) s ↔ P (.load o i) ∧ AllLogged P (q (s.cells o i)) s := by
  rw [allLogged_bind_of_ok fun hP => result_load (h (allLogged_load.mp hP)), allLogged_load]

theorem allLogged_store_bind {b : UInt8} {q : Unit → Code α} (h : P (.store o i) → i < s.size o) :
    AllLogged P (store o i b >>= q) s ↔ P (.store o i) ∧
      AllLogged P (q ()) (s.setCells o (Function.update (s.cells o) i b)) := by
  rw [allLogged_bind_of_ok fun hP => result_store (h (allLogged_store.mp hP)), allLogged_store]

theorem allLogged_assert_bind {debug : Bool} {c : Prop} [Decidable c] {q : Unit → Code α} :
    AllLogged P (assert debug c >>= q) s ↔ (debug = true ∧ ¬ c) ∨ AllLogged P (q ()) s := by
  unfold assert
  by_cases h : debug = true ∧ ¬ c
  · rw [if_pos h, allLogged_bind_of_error (result_stop _ s)]
    simp [h]
  · rw [if_neg h, allLogged_pure_bind]
    simp only [h, false_or]

/-- The accesses of a copy. -/
theorem allLogged_memcpy {dst src : Object} {n d j : Nat}
    (hload : ∀ k < n, P (.load src (j + k)) → j + k < s.size src)
    (hstore : ∀ k < n, P (.store dst (d + k)) → d + k < s.size dst) :
    AllLogged P (memcpy dst src n d j) s ↔
      ∀ k < n, P (.load src (j + k)) ∧ P (.store dst (d + k)) := by
  induction n generalizing s d j with
  | zero => simp [memcpy]
  | succ n ih =>
    have hshift : ∀ a k, a + (k + 1) = a + 1 + k := by
      intro a k
      omega
    have hload0 : P (.load src j) → j < s.size src := hload 0 (Nat.succ_pos n)
    have hstore0 : P (.store dst d) → d < s.size dst := hstore 0 (Nat.succ_pos n)
    unfold memcpy
    rw [allLogged_load_bind hload0, allLogged_store_bind hstore0, ih, Nat.forall_lt_succ_left,
      and_assoc]
    · simp only [Nat.add_zero, Nat.add_assoc, Nat.add_comm 1]
    · intro k hk hP
      rw [size_setCells, ← hshift]
      rw [← hshift] at hP
      exact hload (k + 1) (Nat.succ_lt_succ hk) hP
    · intro k hk hP
      rw [size_setCells, ← hshift]
      rw [← hshift] at hP
      exact hstore (k + 1) (Nat.succ_lt_succ hk) hP

theorem allLogged_memcpy_of_forall {dst src : Object} {n d j : Nat}
    (hload : ∀ k, P (.load src k)) (hstore : ∀ k, P (.store dst k)) :
    AllLogged P (memcpy dst src n d j) s := by
  induction n generalizing s d j with
  | zero => simp [memcpy]
  | succ n ih =>
    unfold memcpy
    rw [allLogged_bind, allLogged_load]
    refine ⟨hload j, ?_⟩
    intro b t _
    rw [allLogged_bind, allLogged_store]
    exact ⟨hstore d, fun _ _ _ => ih⟩

end AndroidPatch.Ril.Altair.Sms3gpp2
