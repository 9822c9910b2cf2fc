import AndroidPatch.Hdmi.Proofs.EdidAccess
import Mathlib.Data.FinEnum

/-!
# When the parser of extension blocks returns

The variable `index` is a byte. As long as no data block reaches over the end of its range it grows,
and the loop over the data blocks ends; else it may come back to a header where it was, and then the
loop does not end (`loopsEnd_iff`). The loop over the detailed timings always ends.
-/

namespace AndroidPatch.Hdmi

open Logged

variable {edid : Memory}

/-! ## What the loop visits -/

theorem visits_append (l l' : List EdidAccess) : visits (l ++ l') = visits l ++ visits l' :=
  List.filterMap_append

/-- Statements that are not the head of the loop. -/
def NoVisit (e : EdidAccess) : Prop := ∀ index, e ≠ .visit index

theorem noVisit_read (i : Nat) : NoVisit (.read i) := fun _ => EdidAccess.noConfusion

theorem noVisit_store (n : Nat) : NoVisit (.store n) := fun _ => EdidAccess.noConfusion

theorem noVisit_divide (d : Nat) : NoVisit (.divide d) := fun _ => EdidAccess.noConfusion

theorem visits_of_noVisit {l : List EdidAccess} (h : ∀ e ∈ l, NoVisit e) : visits l = [] := by
  rw [visits, List.filterMap_eq_nil_iff]
  intro e he
  cases e with
  | visit index => exact absurd rfl (h _ he index)
  | read i => rfl
  | store n => rfl
  | divide d => rfl

/-- The loop over the data blocks visits the headers of the walk. -/
theorem visits_dataBlocksLog (offset : UInt8) (fuel : Nat) (s : ExtState) :
    visits ((dataBlocksLog edid offset fuel).log s) =
      walk (nextIndex edid) (· < offset) fuel s.index := by
  induction fuel generalizing s with
  | zero => rfl
  | succ fuel ih =>
    have hloop : (dataBlocksLog edid offset (fuel + 1)).log s = (if s.index < offset then do
        emit (.visit s.index)
        dataBlockLog edid
        dataBlocksLog edid offset fuel
      else pure () : ExtM Unit).log s := rfl
    rw [hloop]
    by_cases hin : s.index < offset
    · rw [if_pos hin, walk_blocks_succ hin, log_bind_of_ok (result_emit _ s),
        log_bind_of_ok (dataBlockLog_result s), visits_append, visits_append, ih, dataBlock_index,
        visits_of_noVisit (allLogged_dataBlockLog noVisit_read noVisit_store s)]
      rfl
    · rw [if_neg hin, walk_blocks_nil hin]
      rfl

/-! ## The loop over the detailed timings -/

section Timings

variable {P : EdidAccess → Prop} {env : EdidEnv}

theorem allLogged_readDescriptor (block n : Nat) (s : ExtState) :
    AllLogged P (readDescriptor block n) s ↔ ∀ k < n, P (.read (block + k)) := by
  induction n with
  | zero => simp [readDescriptor]
  | succ n ih =>
    rw [readDescriptor, allLogged_bind_of_ok fun _ => readDescriptor_result block n s, ih,
      allLogged_emit]
    constructor
    · rintro ⟨hall, hlast⟩ k hk
      rcases Nat.lt_succ_iff_lt_or_eq.mp hk with hk | rfl
      · exact hall k hk
      · exact hlast
    · intro hall
      exact ⟨fun k hk => hall k (by omega), hall n (by omega)⟩

/-- What is asked of a descriptor that is not empty. -/
def TimingLogged (P : EdidAccess → Prop) (env : EdidEnv) (edid : Memory) (block num : Nat) : Prop :=
  (∀ k < detailedTimingDescriptionSize, P (.read (block + k))) ∧
    P (.divide ((env.descriptor (edid.after block)).pixelClock / 1000)) ∧
      P (.divide (((env.descriptor (edid.after block)).hActive +
          (env.descriptor (edid.after block)).hBlanking) *
        ((env.descriptor (edid.after block)).vActive +
          (env.descriptor (edid.after block)).vBlanking))) ∧ P (.store num)

theorem allLogged_detailedTimingLog (block : Nat) (s : ExtState) :
    AllLogged P (env.detailedTimingLog edid block) s ↔
      TimingLogged P env edid block s.modes.length := by
  rw [EdidEnv.detailedTimingLog, allLogged_bind_of_ok fun _ => readDescriptor_result block _ s,
    allLogged_readDescriptor, allLogged_emit_bind, allLogged_emit_bind, allLogged_addMode, TimingLogged]

theorem allLogged_emptyLog (hread : ∀ i, P (.read i)) (block : Nat) (s : ExtState) :
    AllLogged P (emptyLog edid block) s := by
  unfold emptyLog
  rw [allLogged_edidAt_bind]
  refine ⟨hread _, ?_⟩
  split
  · simp [hread]
  · simp

theorem allLogged_timingsLog (hread : ∀ i, P (.read i)) (hstore : ∀ n, P (.store n))
    (hdivide : ∀ d, P (.divide d)) (fuel block : Nat) (s : ExtState) :
    AllLogged P (env.timingsLog edid fuel block) s := by
  induction fuel generalizing block s with
  | zero => exact (allLogged_stop _ _).mpr trivial
  | succ fuel ih =>
    rw [EdidEnv.timingsLog, allLogged_get_bind]
    split
    · refine (allLogged_bind _ _ _).mpr ⟨allLogged_emptyLog hread _ _, fun empty s' _ => ?_⟩
      refine (allLogged_bind _ _ _).mpr ⟨(allLogged_onlyIf _ _ _).mpr fun _ => ?_, fun _ s'' _ => ?_⟩
      · rw [allLogged_detailedTimingLog]
        exact ⟨fun _ _ => hread _, hdivide _, hdivide _, hstore _⟩
      · rw [allLogged_modify_bind]
        exact ih _ _
    · exact (allLogged_pure _ _).mpr trivial

end Timings

/-! ## The headers of a block -/

/-- Both loops of the parser come to their end. -/
def LoopsEnd (env : EdidEnv) (edid : Memory) (cfg : EdidCfg) (specs : Monspecs) : Prop :=
  ∃ fuel, (env.parseExtBlkLog fuel edid specs).result (.start cfg) ≠ .error .outOfFuel

variable (env : EdidEnv) (fuel : Nat) (specs : Monspecs) (cfg : EdidCfg)

theorem visits_longLog (s : ExtState) : visits ((env.longLog fuel edid specs).log s) = [] := by
  apply visits_of_noVisit
  refine (allLogged_modify_bind (P := NoVisit) _ _ _).mpr ((allLogged_bind _ _ _).mpr ⟨?_, ?_⟩)
  · exact allLogged_timingsLog noVisit_read noVisit_store noVisit_divide _ _ _
  · intro _ s' _
    simp

theorem visits_shortLog : visits ((shortLog edid fuel).log (blocksStart edid cfg)) =
    headers edid fuel := by
  unfold shortLog onlyIf headers
  split
  · exact visits_dataBlocksLog (edid 2) fuel _
  · rfl

theorem visits_headReads : visits (headReads edid) = [] := by
  unfold headReads
  split <;> rfl

/-- The parser visits the headers of the block, in their order. -/
theorem visits_parseExtBlkLog (htag : edid 0 = 2) :
    visits ((env.parseExtBlkLog fuel edid specs).log (.start cfg)) = headers edid fuel := by
  have hres : (shortLog edid fuel).result (blocksStart edid cfg) =
      loopResult (shortDescriptors edid fuel cfg) := shortLog_result fuel cfg
  rw [parseExtBlkLog_log_eq env fuel specs cfg htag, visits_append, visits_headReads,
    List.nil_append, EdidEnv.bodyLog]
  cases hshort : shortDescriptors edid fuel cfg with
  | none =>
    rw [hshort] at hres
    rw [log_bind_of_error hres, visits_shortLog]
  | some t =>
    rw [hshort] at hres
    rw [log_bind_of_ok hres, visits_append, visits_shortLog, visits_longLog, List.append_nil]

/-! ## When the parser returns -/

theorem loopsEnd_iff_returns :
    LoopsEnd env edid cfg specs ↔ ∃ fuel p, env.parseExtBlk fuel edid cfg specs = some p := by
  constructor
  · rintro ⟨fuel, hne⟩
    refine ⟨fuel, Option.isSome_iff_exists.mp ?_⟩
    rw [Option.isSome_iff_ne_none]
    exact fun hnone => hne (parseExtBlkLog_outOfFuel env fuel cfg specs hnone)
  · rintro ⟨fuel, p, hparse⟩
    refine ⟨fuel + 8, ?_⟩
    obtain ⟨s, hres, -⟩ := parseExtBlkLog_result env (by omega) cfg specs (parseExtBlk_mono hparse 8)
    rw [hres]
    rintro ⟨⟩

/-- The parser returns if and only if no header is visited twice. -/
theorem loopsEnd_iff : LoopsEnd env edid cfg specs ↔ (edid 0 = 2 → ∀ n, (headers edid n).Nodup) := by
  rw [loopsEnd_iff_returns]
  by_cases htag : edid 0 = 2
  · rw [parseExtBlk_returns_iff htag, imp_iff_right htag]
    by_cases h3 : 3 ≤ edid 1
    · simp only [h3, true_implies, headers, if_true]
      exact walk_ends_iff (nextIndex edid) (· < edid 2) 4
    · simp [h3, headers]
  · exact iff_of_true ⟨0, _, parseExtBlk_of_tag htag⟩ fun h => absurd h htag

/-- Eight data blocks of 32 bytes, the last of which ends in front of the first. -/
def circularBlock : Memory := fun i =>
  if i = 0 then 2 else if i = 1 then 3 else if i = 2 then 255 else if i % 32 = 4 then 0x1f else 0

theorem not_loopsEnd_circularBlock : ¬ LoopsEnd zeroEnv circularBlock .zero ⟨[], 0, 0⟩ := by
  rw [loopsEnd_iff_returns, parseExtBlk_returns_iff rfl]
  intro hends
  obtain ⟨n, hn⟩ := hends (by decide)
  have hback : (nextIndex circularBlock)^[8] 4 = 4 := by decide
  have hinside : ∀ j < 8, (nextIndex circularBlock)^[j] 4 < circularBlock 2 := by decide
  exact hn (inside_of_periodic (· < circularBlock 2) (by decide) hback hinside n)

/-! ## Blocks that cannot reach over the end -/

theorem blockSkip_le (byte : UInt8) : (blockSkip byte).toNat ≤ 33 := by
  have hlen : (byte &&& 0x1f).toNat ≤ 31 := by
    rw [UInt8.toNat_and]
    exact Nat.and_le_right
  simp only [blockSkip]
  split
  · have hthree : 3 * threeByThree (byte &&& 0x1f) ≤ 33 := by
      rw [threeByThree]
      omega
    have hsize : UInt8.size = 256 := rfl
    rw [UInt8.toNat_ofNat_of_lt' (by omega)]
    exact hthree
  · omega

/-- A data block that begins below 222 ends behind its header. -/
theorem nextIndex_toNat {index : UInt8} (hlow : index.toNat < 222) :
    (nextIndex edid index).toNat = index.toNat + (blockSkip (edid index.toNat)).toNat + 1 := by
  have hskip := blockSkip_le (edid index.toNat)
  rw [nextIndex, UInt8.toNat_add, UInt8.toNat_add]
  have hone : (1 : UInt8).toNat = 1 := rfl
  omega

/-- With an offset of at most 222 the loop over the data blocks ends. -/
theorem walkEnds_of_le {offset : UInt8} (hoffset : offset.toNat ≤ 222) : WalkEnds edid offset := by
  have hgrows : ∀ k index : Nat, ∀ i : UInt8, i.toNat = index → 222 ≤ index + k →
      ∃ n, ¬ ((nextIndex edid)^[n] i < offset) := by
    intro k
    induction k with
    | zero =>
      intro index i hi hle
      refine ⟨0, fun hlt => ?_⟩
      have hlt' : i.toNat < offset.toNat := hlt
      omega
    | succ k ih =>
      intro index i hi hle
      by_cases hin : i < offset
      · have hlt : i.toNat < offset.toNat := hin
        have hnext : (nextIndex edid i).toNat = i.toNat + (blockSkip (edid i.toNat)).toNat + 1 :=
          nextIndex_toNat (by omega)
        obtain ⟨n, hn⟩ := ih _ (nextIndex edid i) rfl (by omega)
        exact ⟨n + 1, hn⟩
      · exact ⟨0, hin⟩
  exact hgrows 222 4 4 rfl (by omega)

theorem loopsEnd_of_offset_le (hoffset : (edid 2).toNat ≤ 222) : LoopsEnd env edid cfg specs := by
  rw [loopsEnd_iff]
  intro _ n
  rw [headers]
  split
  · obtain ⟨k, hk⟩ : WalkEnds edid (edid 2) := walkEnds_of_le hoffset
    exact nodup_walk_of_ends hk n
  · exact List.nodup_nil

end AndroidPatch.Hdmi
