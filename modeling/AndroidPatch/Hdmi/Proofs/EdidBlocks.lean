import AndroidPatch.Hdmi.Proofs.EdidLoops

/-!
# Which extension blocks are parsed

The reader fetches the base block and at most three extension blocks, but hands as many blocks to
the parser as the base block says that there are. Up to three of them were fetched; with four or
more the third was not, and the fourth lies behind the buffer (`parsesRead_iff`).
-/

namespace AndroidPatch.Hdmi

open Logged

variable {env : EdidEnv} {fuel : Nat} {edid : Memory}

/-! ## The loop over the blocks -/

/-- A run of the parser as the loop sees it. -/
def parsedResult : Option Parsed → Except ExtStop (Unit × EdidCfg × Monspecs)
  | none => .error .outOfFuel
  | some p => .ok ((), (p.cfg, p.specs))

theorem callParser_result (block : Memory) (s : EdidCfg × Monspecs) :
    (env.callParser fuel block).result s = parsedResult (env.parseExtBlk fuel block s.1 s.2) := by
  simp only [EdidEnv.callParser, result]
  cases env.parseExtBlk fuel block s.1 s.2 <;> rfl

theorem callParser_log (block : Memory) (s : EdidCfg × Monspecs) :
    (env.callParser fuel block).log s = [] := by
  simp only [EdidEnv.callParser, log]
  cases env.parseExtBlk fuel block s.1 s.2 <;> rfl

/-- The loop leaves what `EdidEnv.parseExtBlks` says. -/
theorem parseExtBlksLog_result (n i : Nat) (s : EdidCfg × Monspecs) {t : EdidCfg × Monspecs}
    (hrun : env.parseExtBlks fuel edid n i s.1 s.2 = some t) :
    (env.parseExtBlksLog fuel edid n i).result s = .ok ((), t) := by
  induction n generalizing i s with
  | zero =>
    cases hrun
    rfl
  | succ n ih =>
    obtain ⟨p, hparse, hrest⟩ := Option.bind_eq_some_iff.mp hrun
    have hcall : (env.callParser fuel (edid.after (i * edidLength))).result s =
        .ok ((), (p.cfg, p.specs)) := by
      rw [callParser_result, hparse]
      rfl
    rw [EdidEnv.parseExtBlksLog, result_emit_bind, result_bind_of_ok hcall]
    exact ih (i + 1) (p.cfg, p.specs) hrest

/-- The reader leaves what `EdidEnv.read` says. -/
theorem readLog_result {sink : Sink} {behind : Memory} {s : EdidCfg × Monspecs} {a : EdidRead}
    (hread : env.read fuel sink behind s.2 = some a) :
    (env.readLog fuel sink behind).result s = .ok ((a.rc, a.edid), (a.cfg, a.specs)) := by
  rw [EdidEnv.read] at hread
  rw [EdidEnv.readLog, result_modify_bind]
  rcases hblk : edidReadblk sink (Memory.zeroed behind) with ⟨extblknum, m⟩
  simp only [hblk] at hread ⊢
  by_cases hneg : extblknum < 0
  · rw [if_pos hneg] at hread
    cases hread
    rw [if_pos hneg, result_pure]
  · rw [if_neg hneg] at hread
    obtain ⟨t, hrun, rfl⟩ := Option.map_eq_some_iff.mp hread
    rw [if_neg hneg, result_modify_bind, result_bind_of_ok (parseExtBlksLog_result _ _ _ hrun),
      result_pure]

/-! ## Blocks whose parser returns -/

/-- The parser comes to the end of the block: it is no CEA block, or no header is visited twice. -/
def Ends (block : Memory) : Prop := block 0 = 2 → ∀ n, (headers block n).Nodup

theorem ends_iff_returns (block : Memory) (cfg : EdidCfg) (specs : Monspecs) :
    Ends block ↔ ∃ fuel p, env.parseExtBlk fuel block cfg specs = some p :=
  (loopsEnd_iff env specs cfg).symm.trans (loopsEnd_iff_returns env specs cfg)

/-- `index` is a byte, so the parser sees 256 bytes. -/
theorem ends_congr {m m' : Memory} (h : ∀ k < 256, m k = m' k) : Ends m ↔ Ends m' := by
  have hnext : nextIndex m = nextIndex m' := by
    funext index
    rw [nextIndex, nextIndex, h index.toNat (UInt8.toNat_lt index)]
  have hheaders : ∀ n, headers m n = headers m' n := by
    intro n
    rw [headers, headers, hnext, h 1 (by decide), h 2 (by decide)]
  simp only [Ends, hheaders, h 0 (by decide)]

/-! ## The blocks that the loop reaches -/

/-- The loop stops at a block whose parser does not return. -/
theorem log_parseExtBlksLog_of_none {n i : Nat} {s : EdidCfg × Monspecs}
    (hparse : env.parseExtBlk fuel (edid.after (i * edidLength)) s.1 s.2 = none) :
    (env.parseExtBlksLog fuel edid (n + 1) i).log s = [⟨i, edid.after (i * edidLength)⟩] := by
  have hcall : (env.callParser fuel (edid.after (i * edidLength))).result s = .error .outOfFuel := by
    rw [callParser_result, hparse]
    rfl
  rw [EdidEnv.parseExtBlksLog, log_bind_of_ok (result_emit _ s), log_bind_of_error hcall,
    callParser_log]
  rfl

/-- Behind a block whose parser returns the loop goes on. -/
theorem log_parseExtBlksLog_of_some {n i : Nat} {s : EdidCfg × Monspecs} {p : Parsed}
    (hparse : env.parseExtBlk fuel (edid.after (i * edidLength)) s.1 s.2 = some p) :
    (env.parseExtBlksLog fuel edid (n + 1) i).log s =
      ⟨i, edid.after (i * edidLength)⟩ ::
        (env.parseExtBlksLog fuel edid n (i + 1)).log (p.cfg, p.specs) := by
  have hcall : (env.callParser fuel (edid.after (i * edidLength))).result s =
      .ok ((), (p.cfg, p.specs)) := by
    rw [callParser_result, hparse]
    rfl
  rw [EdidEnv.parseExtBlksLog, log_bind_of_ok (result_emit _ s), log_bind_of_ok hcall,
    callParser_log, List.nil_append]
  rfl

/-- Blocks are numbered one after the other, and begin there in the buffer. -/
theorem mem_parseExtBlksLog {n i : Nat} {s : EdidCfg × Monspecs} {c : ParseCall}
    (hc : c ∈ (env.parseExtBlksLog fuel edid n i).log s) :
    ∃ j, i ≤ j ∧ j < i + n ∧ c = ⟨j, edid.after (j * edidLength)⟩ := by
  induction n generalizing i s with
  | zero => cases hc
  | succ n ih =>
    cases hparse : env.parseExtBlk fuel (edid.after (i * edidLength)) s.1 s.2 with
    | none =>
      rw [log_parseExtBlksLog_of_none hparse] at hc
      exact ⟨i, Nat.le_refl i, by omega, List.mem_singleton.mp hc⟩
    | some p =>
      rw [log_parseExtBlksLog_of_some hparse] at hc
      rcases List.mem_cons.mp hc with hc | hc
      · exact ⟨i, Nat.le_refl i, by omega, hc⟩
      · obtain ⟨j, hle, hlt, rfl⟩ := ih hc
        exact ⟨j, by omega, by omega, rfl⟩

/-- Only a block whose predecessors all end is reached. -/
theorem ends_of_reached {n i k : Nat} {s : EdidCfg × Monspecs}
    (hreached : i + k ∈ ((env.parseExtBlksLog fuel edid n i).log s).map ParseCall.number) :
    ∀ j < k, Ends (edid.after ((i + j) * edidLength)) := by
  induction k generalizing n i s with
  | zero => exact fun j hj => absurd hj (Nat.not_lt_zero j)
  | succ k ih =>
    obtain ⟨c, hc, hnumber⟩ := List.mem_map.mp hreached
    cases n with
    | zero => cases hc
    | succ n =>
      cases hparse : env.parseExtBlk fuel (edid.after (i * edidLength)) s.1 s.2 with
      | none =>
        rw [log_parseExtBlksLog_of_none hparse] at hc
        rw [List.mem_singleton.mp hc] at hnumber
        have hfirst : i = i + (k + 1) := hnumber
        omega
      | some p =>
        rw [log_parseExtBlksLog_of_some hparse] at hc
        have htail : c ∈ (env.parseExtBlksLog fuel edid n (i + 1)).log (p.cfg, p.specs) := by
          rcases List.mem_cons.mp hc with rfl | hc
          · exact absurd hnumber (by simp)
          · exact hc
        intro j hj
        cases j with
        | zero => exact (ends_iff_returns _ s.1 s.2).mpr ⟨fuel, p, hparse⟩
        | succ j =>
          have hnext : i + 1 + k = i + (k + 1) := by omega
          have hplace : i + (j + 1) = i + 1 + j := by omega
          rw [hplace]
          exact ih (List.mem_map.mpr ⟨c, htail, hnumber.trans hnext.symm⟩) j (by omega)

/-- A block whose predecessors all end is reached. -/
theorem reached_of_ends (env : EdidEnv) {n i k : Nat} (hk : k < n) (s : EdidCfg × Monspecs)
    (hends : ∀ j < k, Ends (edid.after ((i + j) * edidLength))) :
    ∃ fuel, ∀ more, ⟨i + k, edid.after ((i + k) * edidLength)⟩ ∈
      (env.parseExtBlksLog (fuel + more) edid n i).log s := by
  induction k generalizing n i s with
  | zero =>
    obtain ⟨m, rfl⟩ := Nat.exists_eq_succ_of_ne_zero (Nat.ne_zero_of_lt hk)
    refine ⟨0, fun more => ?_⟩
    rw [EdidEnv.parseExtBlksLog, log_bind_of_ok (result_emit _ s)]
    exact List.mem_append_left _ List.mem_cons_self
  | succ k ih =>
    obtain ⟨m, rfl⟩ := Nat.exists_eq_succ_of_ne_zero (Nat.ne_zero_of_lt hk)
    have hfirst : Ends (edid.after (i * edidLength)) := hends 0 (by omega)
    obtain ⟨fuel, p, hparse⟩ : ∃ fuel p,
        env.parseExtBlk fuel (edid.after (i * edidLength)) s.1 s.2 = some p :=
      (ends_iff_returns _ s.1 s.2).mp hfirst
    have hnext : ∀ j, i + 1 + j = i + (j + 1) := fun j => by omega
    have hrest : ∀ j < k, Ends (edid.after ((i + 1 + j) * edidLength)) := by
      intro j hj
      rw [hnext]
      exact hends (j + 1) (by omega)
    obtain ⟨fuel', hreached⟩ := ih (Nat.lt_of_succ_lt_succ hk) (p.cfg, p.specs) hrest
    refine ⟨fuel + fuel', fun more => ?_⟩
    rw [Nat.add_assoc, log_parseExtBlksLog_of_some (parseExtBlk_mono hparse (fuel' + more))]
    have hplace := hreached (fuel + more)
    rw [hnext k, Nat.add_left_comm] at hplace
    exact List.mem_cons_of_mem _ hplace

/-! ## What was fetched -/

variable (sink : Sink)

/-- `edid[0x7E]` of the display. -/
def extCount : Nat := (sink 0 0x7e).toNat

/-- The buffer when the blocks are parsed. -/
def fetched (behind : Memory) : Memory :=
  if 1 < extCount sink then
    edidReadsegblk sink (storedBlocks sink behind) (edidLength * 2) (extCount sink - 1)
  else storedBlocks sink behind

/-- Block `i` of the display and the one behind it. -/
def blockFrom (i : Nat) : Memory := fun k =>
  if k < edidLength then sink i k else sink (i + 1) (k - edidLength)

/-- Block `j` after block `i` was stored. -/
theorem store_block (m : Memory) (block : Nat → UInt8) (i j : Nat) {k : Nat} (hk : k < edidLength) :
    m.store (edidLength * i) block (edidLength * j + k) =
      if j = i then block k else m (edidLength * j + k) := by
  have hlen : edidLength = 128 := rfl
  rw [hlen] at hk ⊢
  by_cases hij : j = i
  · have hin : 128 * i ≤ 128 * j + k ∧ 128 * j + k < 128 * i + edidLength := by omega
    have hsub : 128 * j + k - 128 * i = k := by omega
    rw [Memory.store, if_pos hin, if_pos hij, hsub]
  · have hout : ¬ (128 * i ≤ 128 * j + k ∧ 128 * j + k < 128 * i + edidLength) := by omega
    rw [Memory.store, if_neg hout, if_neg hij]

variable {sink} (behind : Memory)

theorem storedBlocks_block (hpos : 0 < extCount sink) (j : Nat) {k : Nat} (hk : k < edidLength) :
    storedBlocks sink behind (edidLength * j + k) =
      if j = 1 then sink 1 k else if j = 0 then sink 0 k else Memory.zeroed behind (edidLength * j + k) := by
  have hext : sink 0 0x7e ≠ 0 := by
    intro hzero
    rw [extCount, hzero] at hpos
    exact absurd hpos (by decide)
  have hbase : (Memory.zeroed behind).store 0 (sink 0) (edidLength * j + k) =
      if j = 0 then sink 0 k else Memory.zeroed behind (edidLength * j + k) :=
    store_block (Memory.zeroed behind) (sink 0) 0 j hk
  rw [storedBlocks, if_pos hext, ← hbase]
  exact store_block _ (sink 1) 1 j hk

/-- The segment has one block or, if there are exactly two more, two. -/
theorem readsegblk_block (m : Memory) (segNum j : Nat) {k : Nat} (hk : k < edidLength) :
    edidReadsegblk sink m (edidLength * 2) segNum (edidLength * j + k) =
      if segNum = 2 ∧ j = 3 then sink 3 k else if j = 2 then sink 2 k else m (edidLength * j + k) := by
  have hsecond : m.store (edidLength * 2) (sink 2) (edidLength * j + k) =
      if j = 2 then sink 2 k else m (edidLength * j + k) := store_block m (sink 2) 2 j hk
  rw [edidReadsegblk, ← hsecond]
  by_cases htwo : segNum = 2
  · simp only [htwo, if_true, true_and]
    exact store_block _ (sink 3) 3 j hk
  · simp only [htwo, if_false, false_and]

/-- At most three extension blocks are all fetched. -/
theorem fetched_block {j : Nat} (hpos : 1 ≤ j) (hj : j ≤ extCount sink) (h3 : extCount sink ≤ 3)
    {k : Nat} (hk : k < edidLength) : fetched sink behind (edidLength * j + k) = sink j k := by
  have hext : 0 < extCount sink := by omega
  have hstored := storedBlocks_block behind hext j hk
  by_cases hone : 1 < extCount sink
  · rw [fetched, if_pos hone, readsegblk_block _ _ j hk, hstored]
    obtain rfl | rfl | rfl : j = 1 ∨ j = 2 ∨ j = 3 := by omega
    · simp
    · simp
    · rw [if_pos ⟨by omega, rfl⟩]
  · have hfirst : j = 1 := by omega
    rw [fetched, if_neg hone, hstored, if_pos hfirst, hfirst]

/-- The blocks of the buffer look as those of the display to the parser of all but the last. -/
theorem ends_fetched {i : Nat} (hpos : 1 ≤ i) (hi : i < extCount sink) (h3 : extCount sink ≤ 3) :
    Ends ((fetched sink behind).after (i * edidLength)) ↔ Ends (blockFrom sink i) := by
  apply ends_congr
  intro k hk
  have hlen : edidLength = 128 := rfl
  rw [Memory.after, blockFrom, Nat.mul_comm]
  by_cases hin : k < edidLength
  · rw [if_pos hin, fetched_block behind hpos (by omega) h3 hin]
  · have hplace : edidLength * i + k = edidLength * (i + 1) + (k - edidLength) := by
      rw [hlen] at hin ⊢
      omega
    rw [if_neg hin, hplace, fetched_block behind (by omega) (by omega) h3 (by omega)]

/-- With four or more extension blocks the third is not fetched. -/
theorem fetched_third (h4 : 4 ≤ extCount sink) : (fetched sink behind).after (3 * edidLength) 0 = 0 := by
  have hpos : 0 < edidLength := by decide
  have hplace : 3 * edidLength + 0 = edidLength * 3 + 0 := rfl
  have hseg : ¬ (extCount sink - 1 = 2 ∧ 3 = 3) := by omega
  rw [Memory.after, hplace, fetched, if_pos (by omega), readsegblk_block _ _ 3 hpos, if_neg hseg,
    storedBlocks_block behind (by omega) 3 hpos]
  rfl

/-! ## The reader -/

theorem readLog_log (hne : sink 0 1 ≠ 0) (behind : Memory) (s : EdidCfg × Monspecs) :
    (env.readLog fuel sink behind).log s =
      (env.parseExtBlksLog fuel (fetched sink behind) (extCount sink) 1).log
        (.zero, env.edidToMonspecs (storedBlocks sink behind)) := by
  have hblk : edidReadblk sink (Memory.zeroed behind) =
      (((sink 0 0x7e).toNat : Int), storedBlocks sink behind) := edidReadblk_of_ne hne _
  have hcount : ¬ ((sink 0 0x7e).toNat : Int) < 0 := by omega
  rw [EdidEnv.readLog, log_bind_of_ok (result_modify _ s), hblk]
  simp only [hcount, if_false, Int.toNat_natCast]
  rw [log_bind_of_ok (result_modify _ _), log_bind_pure]
  rfl

/-- A base block that is refused. -/
theorem readLog_log_of_zero (hzero : sink 0 1 = 0) (behind : Memory) (s : EdidCfg × Monspecs) :
    (env.readLog fuel sink behind).log s = [] := by
  have hblk : edidReadblk sink (Memory.zeroed behind) =
      (-enoent, (Memory.zeroed behind).store 0 (sink 0)) := by
    rw [edidReadblk, if_pos]
    rw [store_apply_zero _ (by decide), hzero]
  have hneg : -enoent < 0 := by decide
  rw [EdidEnv.readLog, log_bind_of_ok (result_modify _ s), hblk]
  simp only [hneg, if_true]
  rfl

/-! ## The agreement of what is fetched and what is parsed -/

/-- Every block that is handed to the parser lies in the buffer and is the block of the display with
    its number, and the first three are handed to it. -/
structure ParsesRead (env : EdidEnv) (sink : Sink) : Prop where
  read : ∀ fuel behind s, ∀ c ∈ (env.readLog fuel sink behind).log s,
    (c.number + 1) * edidLength ≤ edidLength * 4 ∧ ∀ k < edidLength, c.block k = sink c.number k
  parsed : ∀ behind s i, 1 ≤ i → i ≤ min (extCount sink) 3 →
    ∃ fuel, i ∈ ((env.readLog fuel sink behind).log s).map ParseCall.number

/-- There are at most three extension blocks, the base block is not refused, and the parser comes to
    the end of every block but the last. -/
structure AtMostThree (sink : Sink) : Prop where
  count : extCount sink ≤ 3
  accepted : 1 ≤ extCount sink → sink 0 1 ≠ 0
  ends : ∀ i, 1 ≤ i → i < extCount sink → Ends (blockFrom sink i)

theorem AtMostThree.parsesRead (h : AtMostThree sink) : ParsesRead env sink := by
  constructor
  · intro fuel behind s c hc
    by_cases hzero : sink 0 1 = 0
    · rw [readLog_log_of_zero hzero] at hc
      cases hc
    rw [readLog_log hzero] at hc
    obtain ⟨j, hle, hlt, rfl⟩ := mem_parseExtBlksLog hc
    have hcount := h.count
    refine ⟨?_, fun k hk => ?_⟩
    · show (j + 1) * 128 ≤ 128 * 4
      omega
    · show fetched sink behind (j * edidLength + k) = sink j k
      rw [Nat.mul_comm, fetched_block behind hle (by omega) hcount hk]
  · intro behind s i hpos hi
    have hcount := h.count
    obtain ⟨k, rfl⟩ := Nat.exists_eq_add_of_le hpos
    have hends : ∀ j < k, Ends ((fetched sink behind).after ((1 + j) * edidLength)) := by
      intro j hj
      rw [ends_fetched behind (by omega) (by omega) hcount]
      exact h.ends (1 + j) (by omega) (by omega)
    have hlt : k < extCount sink := by omega
    obtain ⟨fuel, hreached⟩ := reached_of_ends env hlt
      (EdidCfg.zero, env.edidToMonspecs (storedBlocks sink behind)) hends
    have hlast := hreached 0
    rw [← readLog_log (h.accepted (by omega)) behind s] at hlast
    exact ⟨fuel, List.mem_map.mpr ⟨_, hlast, rfl⟩⟩

/-- With four or more extension blocks the third is not fetched, or the fourth is parsed from behind
    the buffer. -/
theorem not_parsesRead_of_four (h4 : 4 ≤ extCount sink) : ¬ ParsesRead env sink := by
  intro h
  obtain ⟨fuel, hthird⟩ := h.parsed (fun _ => 0) (.zero, ⟨[], 0, 0⟩) 3 (by decide) (by omega)
  by_cases hzero : sink 0 1 = 0
  · rw [readLog_log_of_zero hzero] at hthird
    cases hthird
  rw [readLog_log hzero] at hthird
  have hends : ∀ j < 3, Ends ((fetched sink fun _ => 0).after ((1 + j) * edidLength)) := by
    intro j hj
    by_cases hj2 : j < 2
    · exact ends_of_reached (k := 2) hthird j hj2
    · obtain rfl : j = 2 := by omega
      intro htag
      have hbyte : (fetched sink fun _ => 0).after ((1 + 2) * edidLength) 0 = 0 := fetched_third _ h4
      rw [hbyte] at htag
      exact absurd htag (by decide)
  have hlt : 3 < extCount sink := h4
  obtain ⟨fuel', hreached⟩ := reached_of_ends env hlt
    (EdidCfg.zero, env.edidToMonspecs (storedBlocks sink fun _ => 0)) hends
  have hfourth := hreached 0
  rw [← readLog_log hzero (fun _ => 0) (.zero, ⟨[], 0, 0⟩)] at hfourth
  have hinside : (1 + 3 + 1) * edidLength ≤ edidLength * 4 := (h.read _ _ _ _ hfourth).1
  exact absurd hinside (by decide)

/-- What is parsed was read if and only if there are at most three extension blocks. -/
theorem parsesRead_iff (env : EdidEnv) (sink : Sink) : ParsesRead env sink ↔ AtMostThree sink := by
  refine ⟨fun h => ?_, fun h => h.parsesRead⟩
  have hcount : extCount sink ≤ 3 :=
    by_contra fun hmany => not_parsesRead_of_four (by omega) h
  have haccepted : 1 ≤ extCount sink → sink 0 1 ≠ 0 := by
    intro hpos hzero
    obtain ⟨fuel, hfirst⟩ := h.parsed (fun _ => 0) (.zero, ⟨[], 0, 0⟩) 1 (by decide) (by omega)
    rw [readLog_log_of_zero hzero] at hfirst
    cases hfirst
  refine ⟨hcount, haccepted, fun i hpos hi => ?_⟩
  obtain ⟨fuel, hnext⟩ := h.parsed (fun _ => 0) (.zero, ⟨[], 0, 0⟩) (1 + i) (by omega) (by omega)
  rw [readLog_log (haccepted (by omega))] at hnext
  have hends := ends_of_reached hnext (i - 1) (by omega)
  have hplace : 1 + (i - 1) = i := by omega
  rw [hplace] at hends
  exact (ends_fetched _ hpos hi hcount).mp hends

/-- A display with four empty extension blocks. -/
def fourBlocks : Sink := fun block i =>
  if block = 0 ∧ i = 1 then 0xff else if block = 0 ∧ i = 0x7e then 4 else 0

theorem not_parsesRead_fourBlocks : ¬ ParsesRead zeroEnv fourBlocks :=
  not_parsesRead_of_four (by decide)

end AndroidPatch.Hdmi
