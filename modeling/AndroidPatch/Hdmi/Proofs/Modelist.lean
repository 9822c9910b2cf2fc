import AndroidPatch.Hdmi.Proofs.PlugState

/-!
# The list of modes and the sink it belongs to

`mxc_hdmi_cable_connected` keeps the list when a read leaves the bytes that were in `hdmi->edid` before.
They may be those of the read before it, which has failed or found no modes.
-/

namespace AndroidPatch.Hdmi

/-! ## The list of a sink -/

/-- The list that belongs to a read that has succeeded. -/
def EdidOutcome.list {Var : Type} (c : FbCore Var) (r : EdidOutcome) : List VideoMode :=
  if r.specs.modedb = [] then c.defaultModelist else c.edidRebuildModelist r.specs

namespace MxcHdmi

variable {Var : Type} {c : FbCore Var} {s s' : MxcHdmi Var}

/-- A sink is read a second time. -/
def ReadsAgain (s : MxcHdmi Var) (r1 : EdidOutcome) : Prop :=
  s.readEdidStatus r1 = .noModes ∨ s.readEdidStatus r1 = .fail

instance (s : MxcHdmi Var) (r1 : EdidOutcome) : Decidable (s.ReadsAgain r1) :=
  inferInstanceAs (Decidable (_ ∨ _))

/-- The list that belongs to the last read of a sink that has succeeded, or the default list. -/
def sinkList (c : FbCore Var) (s : MxcHdmi Var) (r1 r2 : EdidOutcome) : List VideoMode :=
  if s.ReadsAgain r1 ∧ 0 ≤ r2.rc then r2.list c
  else if 0 ≤ r1.rc then r1.list c
  else c.defaultModelist

/-- The status of the last read of a sink. -/
def lastStatus (s : MxcHdmi Var) (r1 r2 : EdidOutcome) : EdidStatus :=
  if s.ReadsAgain r1 then (s.readEdid r1).readEdidStatus r2 else s.readEdidStatus r1

/-- A status that is not `HDMI_EDID_SAME` and the list that is taken for it. -/
theorem takeEdid_readEdid {r : EdidOutcome} (hsame : s.readEdidStatus r ≠ .same) :
    ((s.readEdid r).takeEdid c (s.readEdidStatus r)).modelist =
      if 0 ≤ r.rc then r.list c else c.defaultModelist := by
  by_cases hfail : r.rc < 0
  · have hstatus : s.readEdidStatus r = .fail := by simp [readEdidStatus, hfail]
    rw [hstatus, if_neg (by omega)]
    rfl
  · have hrc : 0 ≤ r.rc := by omega
    by_cases hbytes : s.edid = r.edid
    · exact absurd (by simp [readEdidStatus, hfail, hbytes]) hsame
    · by_cases hmodes : r.specs.modedb = []
      · have hstatus : s.readEdidStatus r = .noModes := by simp [readEdidStatus, hfail, hbytes, hmodes]
        rw [hstatus, if_pos hrc, EdidOutcome.list, if_pos hmodes]
        rfl
      · have hstatus : s.readEdidStatus r = .success := by simp [readEdidStatus, hfail, hbytes, hmodes]
        rw [hstatus, if_pos hrc, EdidOutcome.list, if_neg hmodes]
        rfl

/-- The default list belongs to a first read that is made again. -/
theorem ReadsAgain.list {r1 : EdidOutcome} (h : s.ReadsAgain r1) :
    (if 0 ≤ r1.rc then r1.list c else c.defaultModelist) = c.defaultModelist := by
  unfold ReadsAgain readEdidStatus at h
  by_cases hfail : r1.rc < 0
  · rw [if_neg (by omega)]
  · by_cases hbytes : s.edid = r1.edid
    · simp [hfail, hbytes] at h
    · by_cases hmodes : r1.specs.modedb = []
      · simp [EdidOutcome.list, hmodes]
      · simp [hfail, hbytes, hmodes] at h

/-- The reads of a sink, with the status of the last one. -/
theorem connect_eq (s : MxcHdmi Var) (r1 r2 : EdidOutcome) : s.connect c r1 r2 =
    (readEdid { s with cablePlugin := true } (if s.ReadsAgain r1 then r2 else r1)).takeEdid c
      (s.lastStatus r1 r2) := by
  by_cases hagain : s.ReadsAgain r1
  · have hread : readEdidTwice { s with cablePlugin := true } r1 r2 =
        ((s.readEdid r1).readEdidStatus r2, readEdid { s with cablePlugin := true } r2) := if_pos hagain
    rw [connect, hread, lastStatus, if_pos hagain, if_pos hagain]
  · have hread : readEdidTwice { s with cablePlugin := true } r1 r2 =
        (s.readEdidStatus r1, readEdid { s with cablePlugin := true } r1) := if_neg hagain
    rw [connect, hread, lastStatus, if_neg hagain, if_neg hagain]

/-- A sink whose last read finds the bytes of the read before it keeps the list that was there. -/
theorem connect_same {r1 r2 : EdidOutcome} (h : s.lastStatus r1 r2 = .same) :
    (s.connect c r1 r2).modelist = s.modelist := by
  rw [connect_eq, h]
  rfl

/-- The other sinks get the list that belongs to them. -/
theorem connect_other {r1 r2 : EdidOutcome} (h : s.lastStatus r1 r2 ≠ .same) :
    (s.connect c r1 r2).modelist = s.sinkList c r1 r2 := by
  rw [connect_eq]
  by_cases hagain : s.ReadsAgain r1
  · have hsecond := takeEdid_readEdid (s := readEdid { s with cablePlugin := true } r1) (c := c) (r := r2)
    simp only [lastStatus, if_pos hagain] at h ⊢
    refine (hsecond h).trans ?_
    by_cases hrc : 0 ≤ r2.rc
    · simp [sinkList, hagain, hrc]
    · simp [sinkList, hrc, hagain.list]
  · have hfirst := takeEdid_readEdid (s := { s with cablePlugin := true }) (c := c) (r := r1)
    simp only [lastStatus, if_neg hagain] at h ⊢
    refine (hfirst h).trans ?_
    simp [sinkList, hagain]

/-- The reads of the sink that is plugged. -/
def plugs (s : MxcHdmi Var) : HdmiEvent Var → Option (EdidOutcome × EdidOutcome)
  | .hotplugWorker _ r1 r2 => if s.latestIntrStat && s.phyPol0 then some (r1, r2) else none
  | _ => none

/-- The list is left to the plugs. -/
theorem hdmiStep_modelist {e : HdmiEvent Var} (hstep : hdmiStep c s e = some s') :
    s'.modelist = (s.plugs e).elim s.modelist fun r => (s.connect c r.1 r.2).modelist := by
  cases e with
  | hotplug hpd =>
    cases hstep
    simp only [plugs, Option.elim, MxcHdmi.hotplug]
    split <;> rfl
  | hotplugWorker setVar r1 r2 =>
    cases hstep
    by_cases hintr : s.latestIntrStat = true
    · by_cases hpol : s.phyPol0 = true
      · have hset := (setMode_same (c := c) setVar (s.connect c r1 r2)).modelist
        simpa [plugs, hotplugWorker, cableConnected, hintr, hpol] using hset
      · have hdisabled := (phyDisable_setUp s).sameSink.modelist
        simpa [plugs, hotplugWorker, cableDisconnected, hintr, hpol] using hdisabled
    · simp [plugs, hotplugWorker, hintr]
  | fb event =>
    cases hstep
    exact (fbEvent_same s event).modelist
  | powerOn =>
    cases hstep
    exact (phyInit_setUp s).sameSink.modelist
  | powerOff =>
    cases hstep
    exact (phyDisable_setUp s).sameSink.modelist
  | storeRgbOutEnable value =>
    cases hstep
    exact (setup_setUp _).sameSink.modelist
  | storeHdcpEnable value =>
    cases hstep
    exact (setup_setUp _).sameSink.modelist

end MxcHdmi

/-! ## Sinks in turn -/

/-- The driver, and the list that belongs to the sink that was plugged last. -/
structure Plugging (Var : Type) where
  hdmi : MxcHdmi Var
  owed : List VideoMode

def plugStep {Var : Type} (c : FbCore Var) (s : Plugging Var) (e : HdmiEvent Var) :
    Option (Plugging Var) :=
  (hdmiStep c s.hdmi e).map fun hdmi =>
    ⟨hdmi, (s.hdmi.plugs e).elim s.owed fun r => s.hdmi.sinkList c r.1 r.2⟩

namespace Plugging

variable {Var : Type} {c : FbCore Var} {s s' : Plugging Var}

/-- `mxc_hdmi_set_mode` finds the list that belongs to the sink. -/
def FindsSinkList (c : FbCore Var) (s : Plugging Var) (e : HdmiEvent Var) : Prop :=
  ∀ r ∈ s.hdmi.plugs e, (s.hdmi.connect c r.1 r.2).modelist = s.hdmi.sinkList c r.1 r.2

/-- The condition: a sink whose last read finds the bytes of the read before it has the list of the sink
    before it. -/
def SameSinkList (c : FbCore Var) (s : Plugging Var) (e : HdmiEvent Var) : Prop :=
  ∀ r ∈ s.hdmi.plugs e, s.hdmi.lastStatus r.1 r.2 = .same → s.hdmi.sinkList c r.1 r.2 = s.owed

instance (s : Plugging Var) (e : HdmiEvent Var) : Decidable (s.SameSinkList c e) :=
  inferInstanceAs (Decidable (∀ r ∈ s.hdmi.plugs e,
    s.hdmi.lastStatus r.1 r.2 = .same → s.hdmi.sinkList c r.1 r.2 = s.owed))

/-- The list belongs to the sink that was plugged last. -/
def ListInv (s : Plugging Var) : Prop := s.hdmi.modelist = s.owed

theorem findsSinkList_iff {e : HdmiEvent Var} (h : s.ListInv) :
    s.FindsSinkList c e ↔ s.SameSinkList c e := by
  constructor
  · intro hfinds r hr hsame
    rw [← hfinds r hr, MxcHdmi.connect_same hsame]
    exact h
  · intro hlist r hr
    by_cases hsame : s.hdmi.lastStatus r.1 r.2 = .same
    · rw [MxcHdmi.connect_same hsame, hlist r hr hsame]
      exact h
    · exact MxcHdmi.connect_other hsame

theorem ListInv.step {e : HdmiEvent Var} (hlist : s.SameSinkList c e) (h : s.ListInv)
    (hstep : plugStep c s e = some s') : s'.ListInv := by
  have hfinds : s.FindsSinkList c e := (findsSinkList_iff h).mpr hlist
  obtain ⟨hdmi, hdriver, rfl⟩ := Option.map_eq_some_iff.mp hstep
  have hmodelist := MxcHdmi.hdmiStep_modelist hdriver
  unfold ListInv
  cases hplugs : s.hdmi.plugs e with
  | none =>
    rw [hplugs] at hmodelist
    exact hmodelist.trans h
  | some r =>
    rw [hplugs] at hmodelist
    exact hmodelist.trans (hfinds r hplugs)

end Plugging

open Plugging in
/-- In a run from the state that `mxc_hdmi_disp_init` leaves, every sink finds its list if and only if a
    sink that is answered with `HDMI_EDID_SAME` has the list of the sink before it; before the first sink
    there is the list of `mxc_hdmi_disp_init`. -/
theorem finds_sink_list_iff {Var : Type} {c : FbCore Var} {s0 : MxcHdmi Var} (es : List (HdmiEvent Var))
    (hinit : MxcHdmi.dispInit c = some s0) :
    RunMeets (plugStep c) (FindsSinkList c) ⟨s0, c.initialModelist⟩ es ↔
      RunMeets (plugStep c) (SameSinkList c) ⟨s0, c.initialModelist⟩ es := by
  have hstart : ListInv ⟨s0, c.initialModelist⟩ := by
    obtain ⟨mode, -, rfl⟩ := Option.map_eq_some_iff.mp hinit
    rfl
  exact RunMeets.iff_of_invariant ListInv (fun _ _ h => findsSinkList_iff h)
    (fun _ _ _ hlist h hstep => h.step hlist hstep) hstart

/-! ## Two sinks -/

/-- An EDID that differs from others in the bytes behind the head. -/
def sinkBytes (b : UInt8) : List UInt8 :=
  [0x00, 0xff, 0xff, 0xff, 0xff, 0xff, 0xff, 0x00] ++ List.replicate (edidLength * 4 - 8) b

/-- Reads that find one mode and none. -/
def readMode : EdidOutcome := ⟨0, sinkBytes 1, .zero, ⟨[ceaMode 16], 0, 0⟩⟩
def readNoModes : EdidOutcome := ⟨0, sinkBytes 2, .zero, ⟨[], 0, 0⟩⟩

/-- A sink is plugged, unplugged and about to be plugged again. -/
def replug : List (HdmiEvent VarScreeninfo) :=
  [.hotplug true, .hotplugWorker (fun _ => []) readMode readMode, .hotplug true,
    .hotplugWorker (fun _ => []) readMode readMode, .hotplug true]

/-- The same sink comes back. -/
theorem finds_sink_list_replug :
    RunMeets (plugStep (modeDb xgaMode)) (Plugging.FindsSinkList (modeDb xgaMode))
      ⟨xgaDisplay, (modeDb xgaMode).initialModelist⟩
      (replug ++ [.hotplugWorker (fun _ => []) readMode readMode]) := by
  have hinit : MxcHdmi.dispInit (modeDb xgaMode) = some xgaDisplay := by rfl
  exact (finds_sink_list_iff _ hinit).mpr (by decide +kernel)

/-- A sink without modes comes, and keeps the list of the sink before it: its second read finds the bytes
    of the first. -/
theorem keeps_other_list :
    ¬ RunMeets (plugStep (modeDb xgaMode)) (Plugging.FindsSinkList (modeDb xgaMode))
      ⟨xgaDisplay, (modeDb xgaMode).initialModelist⟩
      (replug ++ [.hotplugWorker (fun _ => []) readNoModes readNoModes]) := by
  intro h
  have hfinds := RunMeets.last h rfl
  exact absurd (hfinds (readNoModes, readNoModes) rfl) (by decide +kernel)

end AndroidPatch.Hdmi
