import AndroidPatch.Misc.Run
import AndroidPatch.Nfc.Pn544

/-!
# The regulators of the pn544

`pn544_enable` and `pn544_disable` count the use of the regulators. A change of the mode that cannot enable
them again leaves the device cold with its file still open, and `pn544_close` disables them once more.
-/

namespace AndroidPatch.Nfc.Pn544

variable {h : Header} {crcCcitt : UInt16 → List UInt8 → UInt16}

/-- The operation changes the mode, and the regulators are not enabled again. -/
def Sys.switchFails (s : Sys) : FileOp → Bool
  | .setFwMode (some val) rc =>
      s.dev.state != .cold && s.dev.state != (if val ≠ 0 then .fwReady else .ready) && decide (rc < 0)
  | _ => false

/-- The number of failed changes of the mode in a run. -/
def failures (h : Header) (crcCcitt : UInt16 → List UInt8 → UInt16) : Sys → List FileOp → Nat
  | _, [] => 0
  | s, e :: es =>
      (s.switchFails e).toNat +
        match fileStep h crcCcitt s e with
        | none => 0
        | some s' => failures h crcCcitt s' es

/-- The device is in use exactly when its regulators are on. -/
def Sys.Powered (s : Sys) : Prop := s.dev.regs = if s.dev.state = .cold then 0 else 1

/-- One while the device is in use. -/
def State.use : State → Int
  | .cold => 0
  | .fwReady => 1
  | .ready => 1

theorem State.use_eq (st : State) : st.use = if st = .cold then 0 else 1 := by
  cases st <;> rfl

/-- What the counts are after `failed` failed changes: `closed` files have been closed while the device was
    cold, each after one of the failures. -/
def Sys.Accounts (s : Sys) (failed : Nat) : Prop :=
  ∃ closed : Nat, closed ≤ failed ∧ s.dev.regs = s.dev.state.use - closed ∧
    (s.opens : Int) = s.dev.state.use + failed - closed

/-! ## One operation -/

theorem write_frame (h : Header) (crcCcitt : UInt16 → List UInt8 → UInt16) (d : Device) (user : List UInt8) (copy : Copy) (r1 r2 : Send) :
    (d.write h crcCcitt user copy r1 r2).2.2.state = d.state ∧
      (d.write h crcCcitt user copy r1 r2).2.2.regs = d.regs := by
  unfold Device.write
  by_cases hcold : d.state = .cold
  · rw [if_pos hcold]
    exact ⟨rfl, rfl⟩
  · by_cases hcount : user.length < (if d.state = .fwReady then h.fwHeaderSize else h.llcMinSize)
    · simp [hcold, hcount]
    · cases copy <;> simp only [Device.copyIn, if_neg hcold, if_neg hcount, and_self]

theorem read_frame (d : Device) (count : Nat) (nonblock interrupted : Bool) (r1 r2 : Recv) (copied : Bool) :
    (d.read h count nonblock interrupted r1 r2 copied).2.2.state = d.state ∧
      (d.read h count nonblock interrupted r1 r2 copied).2.2.regs = d.regs := by
  unfold Device.read
  dsimp only
  split
  · exact ⟨rfl, rfl⟩
  · split
    · exact ⟨rfl, rfl⟩
    · split
      · exact ⟨rfl, rfl⟩
      · split
        · exact ⟨rfl, rfl⟩
        · split <;> exact ⟨rfl, rfl⟩

/-- What an operation does to the state, the regulators and the number of open files. -/
theorem fileStep_cases {s s' : Sys} {e : FileOp} (hstep : fileStep h crcCcitt s e = some s') :
    (s'.dev.state = s.dev.state ∧ s'.dev.regs = s.dev.regs ∧ s'.opens = s.opens ∧
      s.switchFails e = false) ∨
    -- the device is switched on for a new file
    (s.dev.state = .cold ∧ s'.dev.state = .ready ∧ s'.dev.regs = s.dev.regs + 1 ∧
      s'.opens = s.opens + 1 ∧ s.switchFails e = false) ∨
    -- a file is closed
    (s'.dev.state = .cold ∧ s'.dev.regs = s.dev.regs - 1 ∧ s.opens = s'.opens + 1 ∧
      s.switchFails e = false) ∨
    -- the mode is changed
    (s.dev.state ≠ .cold ∧ s'.dev.state ≠ .cold ∧ s'.dev.regs = s.dev.regs ∧ s'.opens = s.opens ∧
      s.switchFails e = false) ∨
    (s.dev.state ≠ .cold ∧ s'.dev.state = .cold ∧ s'.dev.regs = s.dev.regs - 1 ∧ s'.opens = s.opens ∧
      s.switchFails e = true) := by
  cases e with
  | openFile rc =>
    simp only [fileStep, Option.some.injEq] at hstep
    subst hstep
    by_cases hcold : s.dev.state = .cold
    · have hopen : s.dev.openFile rc = s.dev.enable false rc := if_neg (not_not_intro hcold)
      by_cases hrc : rc < 0
      · have hoff : s.dev.enable false rc = (rc, s.dev) := if_pos hrc
        left
        rw [hopen, hoff]
        exact ⟨rfl, rfl, if_neg (by omega), rfl⟩
      · right; left
        rw [hopen, Device.enable, if_neg hrc]
        exact ⟨hcold, rfl, rfl, rfl, rfl⟩
    · have hopen : s.dev.openFile rc = (ebusy, s.dev) := if_pos hcold
      left
      rw [hopen]
      exact ⟨rfl, rfl, rfl, rfl⟩
  | release =>
    simp only [fileStep] at hstep
    split at hstep
    · cases hstep
    · rename_i hopens
      cases hstep
      right; right; left
      refine ⟨rfl, rfl, ?_, rfl⟩
      dsimp only
      omega
  | read count nonblock interrupted r1 r2 copied =>
    simp only [fileStep] at hstep
    split at hstep
    · cases hstep
    · cases hstep
      obtain ⟨hstate, hregs⟩ := read_frame (h := h) s.dev count nonblock interrupted r1 r2 copied
      exact .inl ⟨hstate, hregs, rfl, rfl⟩
  | write user copy r1 r2 =>
    simp only [fileStep] at hstep
    split at hstep
    · cases hstep
    · cases hstep
      obtain ⟨hstate, hregs⟩ := write_frame h crcCcitt s.dev user copy r1 r2
      exact .inl ⟨hstate, hregs, rfl, rfl⟩
  | getFwMode | poll =>
    simp only [fileStep] at hstep
    split at hstep
    · cases hstep
    · cases hstep
      exact .inl ⟨rfl, rfl, rfl, rfl⟩
  | irq => cases hstep; exact .inl ⟨rfl, rfl, rfl, rfl⟩
  | suspend => cases hstep; exact .inl ⟨rfl, rfl, rfl, rfl⟩
  | setFwMode val rc =>
    simp only [fileStep] at hstep
    split at hstep
    · cases hstep
    · cases hstep
      by_cases hcold : s.dev.state = .cold
      · have hset : s.dev.setFwMode val rc = (enodev, s.dev) := if_pos hcold
        left
        rw [hset]
        refine ⟨rfl, rfl, rfl, ?_⟩
        cases val with
        | none => rfl
        | some val => rw [Sys.switchFails, hcold]; rfl
      · cases val with
        | none =>
          have hset : s.dev.setFwMode none rc = (efault, s.dev) := if_neg hcold
          left
          rw [hset]
          exact ⟨rfl, rfl, rfl, rfl⟩
        | some val =>
          obtain ⟨mode, hmode⟩ : ∃ mode, mode = (if val ≠ 0 then State.fwReady else .ready) := ⟨_, rfl⟩
          have hon : mode ≠ .cold := by
            rw [hmode]
            split <;> exact State.noConfusion
          have hfails : s.switchFails (.setFwMode (some val) rc) =
              (s.dev.state != .cold && s.dev.state != mode && decide (rc < 0)) := by
            rw [hmode]; rfl
          by_cases hsame : s.dev.state = mode
          · have hset : s.dev.setFwMode (some val) rc = (0, s.dev) := by
              rw [Device.setFwMode, if_neg hcold]
              exact if_pos (hsame.trans hmode)
            left
            rw [hset, hfails, hsame, bne_self_eq_false, Bool.and_false, Bool.false_and]
            exact ⟨rfl, rfl, rfl, rfl⟩
          · have hset : s.dev.setFwMode (some val) rc = s.dev.disable.enable (val ≠ 0) rc := by
              rw [Device.setFwMode, if_neg hcold]
              exact if_neg (hmode ▸ hsame)
            have hne : (s.dev.state != .cold && s.dev.state != mode) = true := by
              simp only [hcold, hsame, bne_iff_ne, ne_eq, not_false_eq_true, Bool.and_eq_true, and_self]
            rw [hset, hfails, hne, Bool.true_and, Device.enable]
            by_cases hrc : rc < 0
            · right; right; right; right
              rw [if_pos hrc, decide_eq_true hrc]
              exact ⟨hcold, rfl, rfl, rfl, rfl⟩
            · right; right; right; left
              rw [if_neg hrc, decide_eq_false hrc]
              refine ⟨hcold, ?_, Int.sub_add_cancel _ _, rfl, rfl⟩
              dsimp only
              split <;> exact State.noConfusion

/-- An operation keeps the account. -/
theorem Sys.Accounts.step {s s' : Sys} {e : FileOp} {failed : Nat} (hs : s.Accounts failed)
    (hstep : fileStep h crcCcitt s e = some s') :
    s'.Accounts (failed + (s.switchFails e).toNat) := by
  obtain ⟨closed, hle, hregs, hopens⟩ := hs
  have hon : ∀ st : State, st ≠ .cold → st.use = 1 := by
    intro st hst
    rw [State.use_eq, if_neg hst]
  rcases fileStep_cases hstep with ⟨hst, hr, ho, hf⟩ | ⟨hst, hst', hr, ho, hf⟩ | ⟨hst', hr, ho, hf⟩ |
    ⟨hst, hst', hr, ho, hf⟩ | ⟨hst, hst', hr, ho, hf⟩
  · refine ⟨closed, ?_⟩
    rw [hf, hst, hr, ho]
    exact ⟨hle, hregs, hopens⟩
  · refine ⟨closed, ?_⟩
    rw [hst, State.use] at hregs hopens
    rw [hf, hst', hr, ho, State.use]
    simp only [Bool.toNat_false]
    omega
  · by_cases hcold : s.dev.state = .cold
    · refine ⟨closed + 1, ?_⟩
      rw [hcold, State.use] at hregs hopens
      rw [hf, hst', hr, State.use]
      simp only [Bool.toNat_false]
      omega
    · refine ⟨closed, ?_⟩
      rw [hon _ hcold] at hregs hopens
      rw [hf, hst', hr, State.use]
      simp only [Bool.toNat_false]
      omega
  · refine ⟨closed, ?_⟩
    rw [hon _ hst] at hregs hopens
    rw [hf, hon _ hst', hr, ho]
    simp only [Bool.toNat_false]
    omega
  · refine ⟨closed, ?_⟩
    rw [hon _ hst] at hregs hopens
    rw [hf, hst', hr, ho, State.use]
    simp only [Bool.toNat_true]
    omega

/-! ## Runs -/

theorem Sys.Accounts.run {s s' : Sys} {es : List FileOp} {failed : Nat} (hs : s.Accounts failed)
    (hrun : runSteps (fileStep h crcCcitt) s es = some s') :
    s'.Accounts (failed + failures h crcCcitt s es) := by
  induction es generalizing s failed with
  | nil =>
    cases hrun
    exact hs
  | cons e es ih =>
    obtain ⟨t, hstep, hrest⟩ := runSteps_cons_eq_some.mp hrun
    rw [failures, hstep, ← Nat.add_assoc]
    exact ih (hs.step hstep) hrest

/-- In every run the regulators are used once for each open file, less once for each change of the mode
    that has failed. So when the last file is closed they have been disabled once too often for each such
    failure; and where no change fails, there is at most one open file, and the device is in use exactly
    while they are on. -/
theorem regulators_account {es : List FileOp} {s : Sys}
    (hrun : runSteps (fileStep h crcCcitt) .probed es = some s) :
    s.dev.regs = (s.opens : Int) - failures h crcCcitt .probed es ∧
    (s.opens = 0 → s.dev.state = .cold ∧ s.dev.regs = -(failures h crcCcitt .probed es : Int)) ∧
    (failures h crcCcitt .probed es = 0 → s.opens ≤ 1 ∧ s.Powered) := by
  have hprobed : Sys.probed.Accounts 0 := ⟨0, Nat.le_refl 0, rfl, rfl⟩
  obtain ⟨closed, hle, hregs, hopens⟩ := hprobed.run hrun
  rw [Nat.zero_add] at hle hopens
  rw [State.use_eq] at hregs hopens
  refine ⟨by omega, fun hnone => ?_, fun hfail => ?_⟩
  · split at hregs
    · rename_i hcold
      exact ⟨hcold, by omega⟩
    · rename_i hcold
      rw [if_neg hcold] at hopens
      omega
  · have hzero : closed = 0 := by omega
    rw [hzero, Int.natCast_zero, Int.sub_zero] at hregs
    refine ⟨?_, hregs⟩
    split at hopens <;> omega

/-- The change to the firmware mode fails, and the file is closed. -/
theorem regulators_account_failed :
    ∃ s, runSteps (fileStep ⟨0x21, 0x400, 2, 3, 3⟩ fun _ _ => 0) .probed
        [.openFile 0, .setFwMode (some 1) (-5), .release] = some s ∧ s.dev.regs = -1 := by
  have hrun : runSteps (fileStep ⟨0x21, 0x400, 2, 3, 3⟩ fun _ _ => 0) .probed
    [.openFile 0, .setFwMode (some 1) (-5), .release] = some _ := rfl
  exact ⟨_, hrun, ((regulators_account hrun).2.1 rfl).2⟩

end AndroidPatch.Nfc.Pn544
