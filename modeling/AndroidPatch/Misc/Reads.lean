import AndroidPatch.Misc.Logged

/-!
# Computations that read a memory

A program that is given a memory logs the cells that it reads with `readCell`. `Local p` says that
a run depends on no other cells: over a memory with the same contents in the cells that were read
it is the same run. What is built from reads and from statements that see no memory is local, so a
bound on the cells of one run holds of every memory that has the same contents below it
(`Local.run_eq`).
-/

namespace AndroidPatch.Logged

variable {ι δ σ φ α β : Type}

/-- The content of a cell, which counts as read. -/
def readCell (m : ι → δ) (i : ι) : Logged σ ι φ δ := do
  emit i
  return m i

@[simp] theorem result_readCell_bind (m : ι → δ) (i : ι) (q : δ → Logged σ ι φ β) (s : σ) :
    (readCell m i >>= q).result s = (q (m i)).result s := rfl

@[simp] theorem allLogged_readCell_bind {P : ι → Prop} (m : ι → δ) (i : ι)
    (q : δ → Logged σ ι φ β) (s : σ) :
    AllLogged P (readCell m i >>= q) s ↔ P i ∧ AllLogged P (q (m i)) s :=
  allLogged_emit_bind i (fun _ => q (m i)) s

/-- The run depends on the cells that it logs only. -/
def Local (p : (ι → δ) → Logged σ ι φ α) : Prop :=
  ∀ m m' s, (∀ i ∈ (p m).log s, m' i = m i) → p m' s = p m s

theorem local_const (p : Logged σ ι φ α) : Local fun _ : ι → δ => p := fun _ _ _ _ => rfl

theorem local_readCell (i : ι) : Local fun m : ι → δ => (readCell m i : Logged σ ι φ δ) := by
  intro m m' s h
  have hi : m' i = m i := h i List.mem_cons_self
  show ([i], Except.ok (m' i, s)) = ([i], Except.ok (m i, s))
  rw [hi]

theorem Local.bind {p : (ι → δ) → Logged σ ι φ α} {q : α → (ι → δ) → Logged σ ι φ β}
    (hp : Local p) (hq : ∀ a, Local (q a)) : Local fun m => p m >>= fun a => q a m := by
  intro m m' s h
  have hlog : AllLogged (fun i => m' i = m i) (p m >>= fun a => q a m) s := h
  obtain ⟨hfirst, hrest⟩ := (allLogged_bind _ _ _).mp hlog
  have hrun : p m' s = p m s := hp m m' s hfirst
  show (p m' >>= fun a => q a m') s = (p m >>= fun a => q a m) s
  rw [bind_apply, bind_apply, hrun]
  rcases hres : p m s with ⟨l, f | ⟨a, s'⟩⟩
  · rfl
  · have hnext : q a m' s' = q a m s' := by
      apply hq a m m' s'
      apply hrest a s'
      show (p m s).2 = .ok (a, s')
      rw [hres]
    simp only [hnext]

theorem Local.ite {c : Prop} [Decidable c] {p q : (ι → δ) → Logged σ ι φ α}
    (hp : Local p) (hq : Local q) : Local fun m => if c then p m else q m := by
  split
  · exact hp
  · exact hq

/-- A run that reads only cells with `P` is the run over every memory with the same contents
    there. -/
theorem Local.run_eq {p : (ι → δ) → Logged σ ι φ α} (hp : Local p) {P : ι → Prop} {m m' : ι → δ}
    {s : σ} (hread : AllLogged P (p m) s) (hsame : ∀ i, P i → m' i = m i) : p m' s = p m s :=
  hp m m' s fun i hi => hsame i (hread i hi)

end AndroidPatch.Logged
