import Mathlib.Data.BitVec
import Mathlib.Data.List.Basic

/-!
# Cyclic redundancy checks

A register of `w` bits that takes its input one bit at a time, the low bit of a byte first. It is linear
in exclusive or, and with a generator whose highest bit is set it comes back to zero from no `w` bits but
its own contents (`run_eq_zero_iff`). So two inputs of one length that differ within `w` bits leave
different contents (`run_ne_of_differsWithin`), and an input that ends with the complement of the register
leaves a constant (`run_append_eq_residue_iff`).
-/

namespace AndroidPatch.Crc

variable {w : Nat}

/-- One bit of input: the register is shifted, and the generator is added when a 1 comes out. -/
def feed (poly s : BitVec w) (b : Bool) : BitVec w :=
  if s.getLsbD 0 ^^ b then (s >>> 1) ^^^ poly else s >>> 1

/-- The register after the bits. -/
def run (poly : BitVec w) (s : BitVec w) (bs : List Bool) : BitVec w := bs.foldl (feed poly) s

/-- The bits of a value, the lowest one first. -/
def bitsOf (v : BitVec w) : List Bool := List.ofFn fun i : Fin w => v.getLsbD i

/-- The bits of some bytes. -/
def bits (data : List UInt8) : List Bool := data.flatMap fun b => bitsOf b.toBitVec

/-- The lists are of one length, and differ in `n` places that follow each other at most. -/
def DiffersWithin (n : Nat) (xs ys : List Bool) : Prop :=
  xs.length = ys.length ∧ ∃ a, ∀ i, xs[i]? ≠ ys[i]? → a ≤ i ∧ i < a + n

/-! ## Bits -/

@[simp] theorem length_bitsOf (v : BitVec w) : (bitsOf v).length = w := by
  simp [bitsOf]

theorem getD_bitsOf (v : BitVec w) (i : Nat) : (bitsOf v).getD i false = v.getLsbD i := by
  rw [List.getD_eq_getElem?_getD, bitsOf, List.getElem?_ofFn]
  split
  · rfl
  · rename_i hi
    exact (BitVec.getLsbD_of_ge v i (by omega)).symm

theorem bits_append (xs ys : List UInt8) : bits (xs ++ ys) = bits xs ++ bits ys := List.flatMap_append

@[simp] theorem length_bits (data : List UInt8) : (bits data).length = 8 * data.length := by
  induction data with
  | nil => rfl
  | cons b data ih =>
    rw [bits, List.flatMap_cons, List.length_append, length_bitsOf, List.length_cons]
    rw [bits] at ih
    omega

theorem bitsOf_injective {v v' : BitVec w} (h : bitsOf v = bitsOf v') : v = v' := by
  apply BitVec.eq_of_getLsbD_eq
  intro i _
  rw [← getD_bitsOf, ← getD_bitsOf, h]

theorem bits_injective {xs ys : List UInt8} (h : bits xs = bits ys) : xs = ys := by
  have hlen : xs.length = ys.length := by
    have := congrArg List.length h
    simp only [length_bits] at this
    omega
  induction xs generalizing ys with
  | nil => exact (List.length_eq_zero_iff.mp hlen.symm).symm
  | cons x xs ih =>
    cases ys with
    | nil => simp at hlen
    | cons y ys =>
      rw [bits, bits, List.flatMap_cons, List.flatMap_cons] at h
      obtain ⟨hx, hxs⟩ := List.append_inj h (by simp)
      rw [ih hxs (by simpa using hlen), UInt8.toBitVec_inj.mp (bitsOf_injective hx)]

theorem differsWithin_append {n : Nat} (before after : List Bool) {xs ys : List Bool}
    (hlen : xs.length = ys.length) (hn : xs.length ≤ n) :
    DiffersWithin n (before ++ xs ++ after) (before ++ ys ++ after) := by
  refine ⟨by simp [hlen], before.length, fun i hi => ?_⟩
  by_contra hout
  apply hi
  rcases Nat.lt_or_ge i before.length with hlt | hge
  · rw [List.append_assoc, List.append_assoc, List.getElem?_append_left hlt,
      List.getElem?_append_left hlt]
  · rw [List.getElem?_append_right (by simp; omega), List.getElem?_append_right (by simp; omega)]
    simp [hlen]

/-! ## The register is linear -/

variable (poly : BitVec w)

theorem feed_xor (s t : BitVec w) (a b : Bool) :
    feed poly (s ^^^ t) (a ^^ b) = feed poly s a ^^^ feed poly t b := by
  have hcomm : ∀ x y : BitVec w, x ^^^ poly ^^^ (y ^^^ poly) = x ^^^ y := by
    intro x y
    rw [BitVec.xor_assoc, BitVec.xor_comm y, ← BitVec.xor_assoc poly, BitVec.xor_self,
      BitVec.zero_xor]
  have hright : ∀ x y : BitVec w, x ^^^ (y ^^^ poly) = x ^^^ y ^^^ poly := fun x y =>
    (BitVec.xor_assoc x y poly).symm
  have hleft : ∀ x y : BitVec w, x ^^^ poly ^^^ y = x ^^^ y ^^^ poly := by
    intro x y
    rw [BitVec.xor_assoc, BitVec.xor_comm poly, ← BitVec.xor_assoc]
  unfold feed
  rw [BitVec.getLsbD_xor, BitVec.ushiftRight_xor_distrib]
  cases s.getLsbD 0 <;> cases t.getLsbD 0 <;> cases a <;> cases b <;> simp [hcomm, hright, hleft]

theorem run_append (s : BitVec w) (xs ys : List Bool) :
    run poly s (xs ++ ys) = run poly (run poly s xs) ys := List.foldl_append

theorem run_xor (s t : BitVec w) {xs ys : List Bool} (hlen : xs.length = ys.length) :
    run poly (s ^^^ t) (List.zipWith xor xs ys) = run poly s xs ^^^ run poly t ys := by
  induction xs generalizing s t ys with
  | nil =>
    cases ys with
    | nil => rfl
    | cons y ys => simp at hlen
  | cons x xs ih =>
    cases ys with
    | nil => simp at hlen
    | cons y ys =>
      have hstep := ih (feed poly s x) (feed poly t y) (by simpa using hlen)
      rw [← feed_xor] at hstep
      exact hstep

/-! ## From zero to zero -/

variable {poly}

theorem getLsbD_feed_of_eq {s : BitVec w} {b : Bool} (h : s.getLsbD 0 = b) (i : Nat) :
    (feed poly s b).getLsbD i = s.getLsbD (i + 1) := by
  simp [feed, h, Nat.add_comm 1 i]

/-- What comes out of the highest place tells whether the generator was added. -/
theorem msb_feed (hpoly : poly.msb = true) (s : BitVec w) (b : Bool) :
    (feed poly s b).getLsbD (w - 1) = (s.getLsbD 0 ^^ b) := by
  have hhigh : s.getLsbD (1 + (w - 1)) = false := BitVec.getLsbD_of_ge s _ (by omega)
  have hone : poly.getLsbD (w - 1) = true := by
    rw [BitVec.msb_eq_getLsbD_last] at hpoly
    exact hpoly
  unfold feed
  cases hb : s.getLsbD 0 ^^ b <;> simp [hhigh, hone]

/-- At most `w` bits bring the register to zero: only those that it holds. -/
theorem run_eq_zero_iff (hpoly : poly.msb = true) {bs : List Bool} (hlen : bs.length ≤ w)
    (s : BitVec w) : run poly s bs = 0#w ↔ ∀ i, s.getLsbD i = bs.getD i false := by
  induction bs generalizing s with
  | nil =>
    constructor
    · intro h i
      rw [show s = 0#w from h]
      simp
    · intro h
      apply BitVec.eq_of_getLsbD_eq
      intro i _
      show s.getLsbD i = _
      rw [h i]
      simp
  | cons b bs ih =>
    rw [List.length_cons] at hlen
    show run poly (feed poly s b) bs = 0#w ↔ _
    rw [ih (by omega)]
    constructor
    · intro h
      have hout : s.getLsbD 0 = b := by
        have hlast := h (w - 1)
        rw [msb_feed hpoly, List.getD_eq_getElem?_getD, List.getElem?_eq_none (by omega)] at hlast
        simpa using hlast
      intro i
      cases i with
      | zero => exact hout
      | succ i =>
        rw [← getLsbD_feed_of_eq hout i, h i]
        rfl
    · intro h i
      rw [getLsbD_feed_of_eq (show s.getLsbD 0 = b from h 0) i, h (i + 1)]
      rfl

/-- Bits that are all zero keep a register at zero and bring no other one there. -/
theorem run_false_eq_zero_iff (hpoly : poly.msb = true) {bs : List Bool} (hbs : ∀ b ∈ bs, b = false)
    (s : BitVec w) : run poly s bs = 0#w ↔ s = 0#w := by
  induction bs generalizing s with
  | nil => rfl
  | cons b bs ih =>
    have hpos : [false].length ≤ w := by
      rcases Nat.eq_zero_or_pos w with rfl | hpos
      · rw [BitVec.msb_eq_getLsbD_last, BitVec.getLsbD_of_ge poly _ (by omega)] at hpoly
        cases hpoly
      · exact hpos
    have hb := hbs b List.mem_cons_self
    subst hb
    rw [show run poly s (false :: bs) = run poly (run poly s [false]) bs from rfl,
      ih (fun x hx => hbs x (List.mem_cons_of_mem _ hx)), run_eq_zero_iff hpoly hpos]
    constructor
    · intro h
      apply BitVec.eq_of_getLsbD_eq
      intro i _
      rw [h i]
      cases i <;> simp
    · rintro rfl i
      cases i <;> simp

/-! ## Errors -/

/-- A burst of at most `w` bits does not leave zero. -/
theorem run_burst (hpoly : poly.msb = true) {bs : List Bool} {a : Nat}
    (hin : ∀ i, bs[i]? = some true → a ≤ i ∧ i < a + w) (hrun : run poly 0#w bs = 0#w) :
    ∀ b ∈ bs, b = false := by
  have hfalse : ∀ i b, bs[i]? = some b → ¬(a ≤ i ∧ i < a + w) → b = false := by
    intro i b hi hout
    cases b
    · rfl
    · exact absurd (hin i hi) hout
  have hbefore : ∀ b ∈ bs.take a, b = false := by
    intro b hb
    obtain ⟨i, hi, rfl⟩ := List.getElem_of_mem hb
    rw [List.length_take] at hi
    refine hfalse i _ ?_ (by omega)
    rw [List.getElem_take, List.getElem?_eq_getElem (by omega)]
  have hafter : ∀ b ∈ (bs.drop a).drop w, b = false := by
    intro b hb
    obtain ⟨i, hi, rfl⟩ := List.getElem_of_mem hb
    rw [List.length_drop, List.length_drop] at hi
    refine hfalse (a + (w + i)) _ ?_ (by omega)
    rw [List.getElem_drop, List.getElem_drop, List.getElem?_eq_getElem (by omega)]
  have hsplit : bs = bs.take a ++ ((bs.drop a).take w ++ (bs.drop a).drop w) := by
    rw [List.take_append_drop, List.take_append_drop]
  rw [hsplit, run_append, run_append, run_false_eq_zero_iff hpoly hafter,
    (run_false_eq_zero_iff hpoly hbefore _).mpr rfl,
    run_eq_zero_iff hpoly (by rw [List.length_take]; omega)] at hrun
  have hmiddle : ∀ b ∈ (bs.drop a).take w, b = false := by
    intro b hb
    obtain ⟨i, hi, rfl⟩ := List.getElem_of_mem hb
    have := hrun i
    rw [List.getD_eq_getElem?_getD, List.getElem?_eq_getElem hi] at this
    simpa using this.symm
  intro b hb
  rw [hsplit, List.mem_append, List.mem_append] at hb
  rcases hb with hb | hb | hb
  · exact hbefore b hb
  · exact hmiddle b hb
  · exact hafter b hb

/-- Two inputs that differ within `w` bits are told apart. -/
theorem run_ne_of_differsWithin (hpoly : poly.msb = true) {xs ys : List Bool}
    (hdiff : DiffersWithin w xs ys) (hne : xs ≠ ys) (s : BitVec w) :
    run poly s xs ≠ run poly s ys := by
  obtain ⟨hlen, a, hin⟩ := hdiff
  intro heq
  have hzero : run poly 0#w (List.zipWith xor xs ys) = 0#w := by
    have hxor := run_xor poly s s hlen
    rwa [heq, BitVec.xor_self, BitVec.xor_self] at hxor
  have hall := run_burst (a := a) hpoly ?_ hzero
  · apply hne
    apply List.ext_getElem hlen
    intro i hx hy
    have hmem : (xs[i] ^^ ys[i]) ∈ List.zipWith xor xs ys := by
      apply List.mem_of_getElem? (i := i)
      rw [List.getElem?_zipWith, List.getElem?_eq_getElem hx, List.getElem?_eq_getElem hy]
    simpa using hall _ hmem
  · intro i hi
    apply hin i
    intro hsame
    rw [List.getElem?_zipWith, hsame] at hi
    cases hy : ys[i]? <;> simp [hy] at hi

/-! ## The check at the end -/

/-- What a register holds when its complement has followed. -/
def residue (poly : BitVec w) : BitVec w := run poly 0#w (bitsOf (BitVec.allOnes w))

theorem run_bitsOf (hpoly : poly.msb = true) (s v : BitVec w) :
    run poly s (bitsOf v) = run poly 0#w (bitsOf (s ^^^ v)) := by
  have hself : run poly s (bitsOf s) = 0#w :=
    (run_eq_zero_iff hpoly (by simp) s).mpr fun i => (getD_bitsOf s i).symm
  have hzip : List.zipWith xor (bitsOf s) (bitsOf (s ^^^ v)) = bitsOf v := by
    apply List.ext_getElem
    · simp
    · intro i h1 h2
      simp [bitsOf]
  have hxor := run_xor poly s 0#w (show (bitsOf s).length = (bitsOf (s ^^^ v)).length by simp)
  rwa [hzip, hself, BitVec.xor_zero, BitVec.zero_xor] at hxor

theorem run_append_eq_residue_iff (hpoly : poly.msb = true) (s v : BitVec w) (xs : List Bool) :
    run poly s (xs ++ bitsOf v) = residue poly ↔ v = ~~~(run poly s xs) := by
  rw [run_append, run_bitsOf hpoly, residue]
  generalize run poly s xs = t
  constructor
  · intro h
    have hsame : t ^^^ v = BitVec.allOnes w := by
      by_contra hne
      refine run_ne_of_differsWithin hpoly ⟨by simp, 0, fun i hi => ⟨Nat.zero_le i, ?_⟩⟩
        (fun heq => hne (bitsOf_injective heq)) 0#w h
      by_contra hout
      exact hi (by rw [List.getElem?_eq_none (by simp; omega), List.getElem?_eq_none (by simp; omega)])
    rw [← BitVec.zero_xor (x := v), ← BitVec.xor_self (x := t), BitVec.xor_assoc, hsame,
      BitVec.xor_allOnes]
  · rintro rfl
    rw [← BitVec.xor_allOnes, ← BitVec.xor_assoc, BitVec.xor_self, BitVec.zero_xor]

end AndroidPatch.Crc
