import AndroidPatch.Hid.Proofs.Frames

/-!
# Frames of the device

A frame is what the device reports at one time, in one packet or in several. The driver ends it where its
counters say so. So the touches of a frame are kept if and only if the counters end it once, behind its last
touch, and its contacts and those that touched before it fit into the panel (`touchesKept_iff`).
-/

namespace AndroidPatch.Hid

namespace MtSlot

variable (last : Usage)

theorem touches_append (c : MtSlot) (es es' : List MtEvent) :
    touches last c (es ++ es') =
      touches last c es ++ touches last (es.foldl (next last) c) es' := by
  induction es generalizing c with
  | nil => rfl
  | cons e es ih => rw [List.cons_append, touches, touches, ih, List.append_assoc, List.foldl_cons]

end MtSlot

/-- The touches behind the value that ends a frame. -/
def FrameCount.touchesBehind (last : Usage) (index : Nat) (c : FrameCount) (contact : MtSlot) :
    List MtEvent → List MtSlot
  | [] => []
  | e :: es =>
      if (c.take last index e).2 = 1 then MtSlot.touches last (contact.next last e) es
      else touchesBehind last index (c.take last index e).1 (contact.next last e) es

namespace MtDevice

variable {td td' ended : MtDevice} {e : MtEvent} {es frame rest : List MtEvent} {last : Usage}
  {maxcontacts : UInt8} {before touches : List MtSlot}

/-! ## One call of `mt_emit_event` -/

/-- `mt_emit_event` is called once while values are taken: for the frame that some of them make, and not
    behind it. -/
theorem syncs_eq_one_iff : syncs (td.mtEvents es).2 = 1 ↔ ∃ frame rest ended,
    es = frame ++ rest ∧ td.mtFrame frame = some ended ∧ syncs (ended.mtEvents rest).2 = 0 := by
  induction es generalizing td with
  | nil =>
    refine iff_of_false Nat.zero_ne_one ?_
    rintro ⟨frame, rest, ended, hsplit, hframe, -⟩
    obtain ⟨rfl, -⟩ := List.append_eq_nil_iff.mp hsplit.symm
    cases hframe
  | cons e es ih =>
    rw [syncs_mtEvents_cons]
    cases hemits : td.emits e with
    | true =>
      rw [if_pos rfl, Nat.add_eq_left]
      constructor
      · intro hrest
        refine ⟨[e], es, (td.mtEvent e).1, rfl, ?_, hrest⟩
        rw [mtFrame, if_pos hemits, if_pos rfl]
      · rintro ⟨frame, rest, ended, hsplit, hframe, hrest⟩
        rcases List.cons_eq_append_iff.mp hsplit with ⟨rfl, -⟩ | ⟨frame, rfl, rfl⟩
        · cases hframe
        · rw [mtFrame, if_pos hemits] at hframe
          by_cases hnil : frame = []
          · rw [if_pos hnil] at hframe
            cases hframe
            rw [hnil]
            exact hrest
          · rw [if_neg hnil] at hframe
            cases hframe
    | false =>
      rw [if_neg Bool.false_ne_true, Nat.zero_add, ih]
      constructor
      · rintro ⟨frame, rest, ended, rfl, hframe, hrest⟩
        refine ⟨e :: frame, rest, ended, rfl, ?_, hrest⟩
        rw [mtFrame, hemits, if_neg Bool.false_ne_true]
        exact hframe
      · rintro ⟨frame, rest, ended, hsplit, hframe, hrest⟩
        rcases List.cons_eq_append_iff.mp hsplit with ⟨rfl, -⟩ | ⟨frame, rfl, rfl⟩
        · cases hframe
        · rw [mtFrame, hemits, if_neg Bool.false_ne_true] at hframe
          exact ⟨frame, rest, ended, rfl, hframe, hrest⟩

/-! ## Values behind a frame -/

theorem syncs_mtEvents_cons_eq_zero (h : syncs (td.mtEvents (e :: es)).2 = 0) :
    td.mtEvent e = (td.taken e, []) ∧ syncs ((td.taken e).mtEvents es).2 = 0 := by
  rw [syncs_mtEvents_cons] at h
  obtain ⟨hemits, hrest⟩ := Nat.add_eq_zero_iff.mp h
  have hevent : td.mtEvent e = (td.taken e, []) := by
    refine mtEvent_of_not_emits (Bool.of_not_eq_true fun htrue => ?_)
    rw [if_pos htrue] at hemits
    cases hemits
  rw [hevent] at hrest
  exact ⟨hevent, hrest⟩

theorem takeAll_of_syncs (h : syncs (td.mtEvents es).2 = 0) : (td.mtEvents es).1 = td.takeAll es := by
  induction es generalizing td with
  | nil => rfl
  | cons e es ih =>
    obtain ⟨hevent, hrest⟩ := syncs_mtEvents_cons_eq_zero h
    rw [mtEvents_cons, hevent]
    exact ih hrest

/-- Values without a touch leave the slots alone. -/
theorem Default.untouched (h : td.Default last maxcontacts) (hquiet : syncs (td.mtEvents es).2 = 0)
    (hnone : MtSlot.touches last td.curdata es = []) :
    (td.mtEvents es).1.slots = td.slots ∧
      RunMeets mtStep (fun td e => td.searched e ≠ some (-1)) td es := by
  induction es generalizing td with
  | nil => exact ⟨rfl, trivial⟩
  | cons e es ih =>
    obtain ⟨hevent, hrest⟩ := syncs_mtEvents_cons_eq_zero hquiet
    obtain ⟨htouch, hnone⟩ := List.append_eq_nil_iff.mp hnone
    obtain ⟨hnext, hcurdata⟩ := h.taken e
    have hcompletes : td.completes e = none :=
      (h.completes e).trans (Option.toList_eq_nil_iff.mp htouch)
    have hfound : td.searched e ≠ some (-1) := by
      rw [searched, hcompletes]
      exact fun hsome => by cases hsome
    rw [← hcurdata] at hnone
    obtain ⟨hslots, hmeets⟩ := ih hnext hrest hnone
    rw [mtEvents_cons, hevent]
    refine ⟨hslots.trans (taken_none h.looksUp hcompletes), hfound, fun td' hstep => ?_⟩
    rw [mtStep, hevent] at hstep
    cases hstep
    exact hmeets

/-- A touch behind a frame has a slot, unless the search for it fails. -/
theorem Placed.behind (h : Placed touches td.slots) (hfilled : Filled before touches td.slots)
    (hdefault : td.Default last maxcontacts) (hquiet : syncs (td.mtEvents es).2 = 0)
    (hfound : RunMeets mtStep (fun td e => td.searched e ≠ some (-1)) td es) :
    Placed (touches ++ MtSlot.touches last td.curdata es) (td.mtEvents es).1.slots := by
  induction es generalizing td touches with
  | nil =>
    rw [MtSlot.touches, List.append_nil]
    exact h
  | cons e es ih =>
    obtain ⟨hevent, hrest⟩ := syncs_mtEvents_cons_eq_zero hquiet
    obtain ⟨hnext, hcurdata⟩ := hdefault.taken e
    have hmeets := hfound.2 (td.taken e) (by rw [mtStep, hevent])
    have hplaced := ih (h.taken hfilled hdefault hfound.1) (hfilled.taken hdefault e) hnext hrest hmeets
    rw [hcurdata, List.append_assoc] at hplaced
    rw [mtEvents_cons, hevent]
    exact hplaced

/-! ## Frames of the device -/

/-- The packets of a frame are taken. -/
def takeFrame (td : MtDevice) (frame : List (List MtEvent)) : Option MtDevice :=
  some (td.mtEvents frame.flatten).1

/-- A frame is ended by one call of `mt_emit_event`, and all its touches are kept. -/
structure Keeps (td : MtDevice) (frame : List (List MtEvent)) : Prop where
  once : syncs (td.mtEvents frame.flatten).2 = 1
  kept : TouchesKept td frame.flatten (td.mtEvents frame.flatten).1

/-- The counters end a frame once, behind its last touch. -/
def Ends (td : MtDevice) (es : List MtEvent) : Prop :=
  (td.count.takeAll td.lastSlotField td.lastFieldIndex es).2 = 1 ∧
    td.count.touchesBehind td.lastSlotField td.lastFieldIndex td.curdata es = []

/-- The counters find the value that ends a frame. -/
theorem Default.touchesBehind_eq (h : td.Default last maxcontacts) (hframe : td.mtFrame frame = some ended)
    (rest : List MtEvent) :
    td.count.touchesBehind last td.lastFieldIndex td.curdata (frame ++ rest) =
      MtSlot.touches last ended.curdata rest := by
  induction frame generalizing td with
  | nil => cases hframe
  | cons e frame ih =>
    obtain ⟨hnext, hcurdata⟩ := h.mtEvent e
    have htake := mtEvent_count td e
    rw [h.lastSlotField, syncs_mtEvent] at htake
    rw [mtFrame] at hframe
    rw [List.cons_append, FrameCount.touchesBehind, htake, ← hcurdata]
    cases hemits : td.emits e with
    | true =>
      rw [hemits, if_pos rfl] at hframe
      by_cases hnil : frame = []
      · rw [if_pos hnil] at hframe
        cases hframe
        rw [if_pos (if_pos rfl), hnil, List.nil_append]
      · rw [if_neg hnil] at hframe
        cases hframe
    | false =>
      rw [hemits, if_neg Bool.false_ne_true] at hframe
      rw [if_neg Bool.false_ne_true, if_neg Nat.zero_ne_one, ← (mtEvent_same td e).lastFieldIndex]
      exact ih hnext hframe

/-- Behind a frame whose touches are kept nothing touches. -/
theorem Idle.touches_behind (h : ended.Idle last maxcontacts)
    (hquiet : syncs (ended.mtEvents rest).2 = 0) (hkept : TouchesKept td (frame ++ rest) (ended.mtEvents rest).1)
    (hended : (td.mtEvents frame).1 = ended) : MtSlot.touches last ended.curdata rest = [] := by
  obtain ⟨-, -, hfilled⟩ := h.filled rest
  have hfound := (RunMeets.append_iff.mp hkept.found).2 ended (by rw [runSteps_mtStep, hended])
  have hstart : Placed [] ended.slots := fun t ht => by cases ht
  have hplaced := hstart.behind (.start h.unique h.unseen) h.toDefault hquiet hfound
  rw [← takeAll_of_syncs hquiet] at hfilled
  refine List.eq_nil_iff_forall_not_mem.mpr fun t ht => ?_
  obtain ⟨s, hs, hseen, -⟩ := hplaced t ht
  obtain ⟨t', -, rfl⟩ := hkept.carried s hs (hfilled.seen s hs hseen).1
  cases hseen

/-- The touches of a frame are kept if the driver has taken all of them for it, and they fit. -/
theorem Idle.touchesKept_append_iff (h : td.Idle last maxcontacts) (hframe : td.mtFrame frame = some ended)
    (hquiet : syncs (ended.mtEvents rest).2 = 0) :
    TouchesKept td (frame ++ rest) (ended.mtEvents rest).1 ↔
      MtSlot.touches last ended.curdata rest = [] ∧ td.Fits (frame ++ rest) := by
  obtain ⟨hidle, hcurdata⟩ := h.mtFrame hframe
  have hended := mtEvents_of_mtFrame hframe
  have htouches : MtSlot.touches last ended.curdata rest = [] →
      MtSlot.touches td.lastSlotField td.curdata (frame ++ rest) =
        MtSlot.touches td.lastSlotField td.curdata frame := by
    intro hnone
    rw [MtSlot.touches_append, h.lastSlotField, ← hcurdata, hnone, List.append_nil]
  constructor
  · intro hkept
    have hnone := hidle.touches_behind hquiet hkept hended
    have hslots := (hidle.untouched hquiet hnone).1
    refine ⟨hnone, ?_⟩
    rw [Fits, htouches hnone]
    refine h.fits_of_all hframe fun t ht => ?_
    rw [← hslots]
    exact hkept.all t (by rw [htouches hnone]; exact ht)
  · rintro ⟨hnone, hfits⟩
    rw [Fits, htouches hnone] at hfits
    obtain ⟨hunique, hcarried, hall, hfound⟩ := h.touchesKept_of_fits hframe hfits
    obtain ⟨hslots, hmeets⟩ := hidle.untouched hquiet hnone
    rw [← hslots] at hunique hcarried hall
    rw [← htouches hnone] at hcarried hall
    refine ⟨hunique, hcarried, hall, RunMeets.append_iff.mpr ⟨hfound, fun td' hrun => ?_⟩⟩
    rw [runSteps_mtStep, hended] at hrun
    cases hrun
    exact hmeets

/-- A frame is kept if and only if the counters end it once, behind its last touch, and its touches fit. -/
theorem Idle.keeps_iff (h : td.Idle last maxcontacts) (frame : List (List MtEvent)) :
    td.Keeps frame ↔ td.Ends frame.flatten ∧ td.Fits frame.flatten := by
  have hcount : (td.count.takeAll td.lastSlotField td.lastFieldIndex frame.flatten).2 =
      syncs (td.mtEvents frame.flatten).2 := by rw [mtEvents_count]
  by_cases honce : syncs (td.mtEvents frame.flatten).2 = 1
  · obtain ⟨taken, rest, ended, hsplit, hframe, hquiet⟩ := syncs_eq_one_iff.mp honce
    have hkept := h.touchesKept_append_iff hframe hquiet
    have hbehind := h.touchesBehind_eq hframe rest
    rw [← hsplit] at hkept hbehind
    have hafter : (td.mtEvents frame.flatten).1 = (ended.mtEvents rest).1 := by
      rw [hsplit, mtEvents_append, mtEvents_of_mtFrame hframe]
    rw [← hafter, ← hbehind, ← h.lastSlotField] at hkept
    constructor
    · intro hkeeps
      obtain ⟨hnone, hfits⟩ := hkept.mp hkeeps.kept
      exact ⟨⟨hcount.trans honce, hnone⟩, hfits⟩
    · rintro ⟨⟨-, hnone⟩, hfits⟩
      exact ⟨honce, hkept.mpr ⟨hnone, hfits⟩⟩
  · exact iff_of_false (fun hkeeps => honce hkeeps.once) fun hends => honce (hcount.symm.trans hends.1.1)

/-- Behind a frame that is kept the next one begins. -/
theorem Idle.takeFrame (h : td.Idle last maxcontacts) {frame : List (List MtEvent)} (hkeeps : td.Keeps frame) :
    (td.mtEvents frame.flatten).1.Idle last maxcontacts := by
  obtain ⟨taken, rest, ended, hsplit, hframe, hquiet⟩ := syncs_eq_one_iff.mp hkeeps.once
  have hended := mtEvents_of_mtFrame hframe
  have hafter : (td.mtEvents frame.flatten).1 = (ended.mtEvents rest).1 := by
    rw [hsplit, mtEvents_append, hended]
  have hkept := hkeeps.kept
  rw [hsplit, mtEvents_append, hended] at hkept
  have hidle := (h.mtFrame hframe).1
  have hslots := (hidle.untouched hquiet (hidle.touches_behind hquiet hkept hended)).1
  rw [hafter]
  refine ⟨(hidle.mtEvents rest).1, ?_, ?_⟩
  · rw [hslots]
    exact hidle.unique
  · rw [hslots]
    exact hidle.unseen

/-! ## Runs of frames -/

/-- Behind a frame whose touches are kept its contacts touch, and no others. -/
theorem TouchesKept.touchingIds_eq (h : TouchesKept td es td') :
    touchingIds td'.slots = touchingIds (MtSlot.touches td.lastSlotField td.curdata es) := by
  ext id
  constructor
  · intro hid
    obtain ⟨s, hs, htouch, rfl⟩ := mem_liveKeys.mp hid
    obtain ⟨t, ⟨earlier, later, htouches, -⟩, rfl⟩ := h.carried s hs htouch
    refine mem_liveKeys.mpr ⟨t, ?_, htouch, rfl⟩
    rw [htouches]
    exact List.mem_append_right _ List.mem_cons_self
  · intro hid
    obtain ⟨t, ht, -, rfl⟩ := mem_liveKeys.mp hid
    obtain ⟨s, hs, htouch, hsame⟩ := h.all t ht
    exact mem_liveKeys.mpr ⟨s, hs, htouch, hsame⟩

/-- The counters end every frame once, behind its last touch: `c` are the counters before the frames, and
    `contact` is what was reported last. -/
def FramesEnd (last : Usage) (index : Nat) : FrameCount → MtSlot → List (List (List MtEvent)) → Prop
  | _, _, [] => True
  | c, contact, frame :: frames =>
      ((c.takeAll last index frame.flatten).2 = 1 ∧ c.touchesBehind last index contact frame.flatten = []) ∧
        FramesEnd last index (c.takeAll last index frame.flatten).1
          (frame.flatten.foldl (MtSlot.next last) contact) frames

/-- The contacts of every frame and those of the one before it fit into the panel: `ids` are the contacts of
    the frame before. -/
def FramesFit (last : Usage) (maxcontacts : UInt8) :
    MtSlot → Finset Int → List (List (List MtEvent)) → Prop
  | _, _, [] => True
  | c, ids, frame :: frames =>
      (ids ∪ touchingIds (MtSlot.touches last c frame.flatten)).card ≤ maxcontacts.toNat ∧
        FramesFit last maxcontacts (frame.flatten.foldl (MtSlot.next last) c)
          (touchingIds (MtSlot.touches last c frame.flatten)) frames

theorem Idle.keepsFrames_iff {frames : List (List (List MtEvent))} {index : Nat}
    (h : td.Idle last maxcontacts) (hindex : td.lastFieldIndex = index) :
    RunMeets MtDevice.takeFrame Keeps td frames ↔
      FramesEnd last index td.count td.curdata frames ∧
        FramesFit last maxcontacts td.curdata (touchingIds td.slots) frames := by
  induction frames generalizing td with
  | nil => exact iff_of_true trivial ⟨trivial, trivial⟩
  | cons frame frames ih =>
    have hfits : td.Fits frame.flatten ↔
        (touchingIds td.slots ∪ touchingIds (MtSlot.touches last td.curdata frame.flatten)).card ≤
          maxcontacts.toNat := by
      rw [Fits, h.lastSlotField, h.maxcontacts]
    have hends : td.Ends frame.flatten ↔
        (td.count.takeAll last index frame.flatten).2 = 1 ∧
          td.count.touchesBehind last index td.curdata frame.flatten = [] := by
      rw [Ends, h.lastSlotField, hindex]
    rw [RunMeets, FramesEnd, FramesFit, ← hfits, ← hends, and_and_and_comm, ← h.keeps_iff frame]
    refine and_congr_right fun hkeeps => ?_
    have hcount := mtEvents_count td frame.flatten
    rw [h.lastSlotField, hindex] at hcount
    have hids := hkeeps.kept.touchingIds_eq
    rw [h.lastSlotField] at hids
    have hnext := ih (h.takeFrame hkeeps) ((mtEvents_same td frame.flatten).lastFieldIndex.trans hindex)
    rw [hids, (h.mtEvents frame.flatten).2] at hnext
    rw [hcount, ← hnext]
    exact ⟨fun hall => hall _ rfl, fun hall td' htd' => Option.some.inj htd' ▸ hall⟩

theorem Idle.run {frames : List (List MtEvent)} (h : td.Idle last maxcontacts)
    (hrun : runSteps MtDevice.mtFrame td frames = some td') : td'.Idle last maxcontacts :=
  runSteps_invariant (Idle last maxcontacts) (fun _ => True)
    (fun _ _ _ _ hidle hframe => (hidle.mtFrame hframe).1) (fun _ _ => trivial) h hrun

/-- The last value of a frame. -/
theorem mtFrame_append {mid : MtDevice} (hquiet : RunMeets mtStep (fun td e => td.emits e = false) td es)
    (hrun : runSteps mtStep td es = some mid) (hemits : mid.emits e = true) :
    td.mtFrame (es ++ [e]) = some (mid.mtEvent e).1 := by
  induction es generalizing td with
  | nil =>
    cases hrun
    rw [List.nil_append, mtFrame, if_pos hemits, if_pos rfl]
  | cons e' es ih =>
    obtain ⟨next, hstep, hrest⟩ := runSteps_cons_eq_some.mp hrun
    have hnext : next = (td.mtEvent e').1 := (Option.some.inj hstep).symm
    rw [List.cons_append, mtFrame, hquiet.1, if_neg Bool.false_ne_true, ← hnext]
    exact ih (hquiet.2 next hstep) hrest

/-- Every run consists of frames, and of the values of one that has not ended. -/
theorem frames_of_run (hrun : runSteps mtStep td es = some td') :
    ∃ frames mid rest, es = List.flatten frames ++ rest ∧ runSteps mtFrame td frames = some mid ∧
      runSteps mtStep mid rest = some td' ∧ RunMeets mtStep (fun td e => td.emits e = false) mid rest := by
  induction es using List.reverseRecOn generalizing td' with
  | nil =>
    cases hrun
    exact ⟨[], td, [], rfl, rfl, rfl, trivial⟩
  | append_singleton es e ih =>
    obtain ⟨t, hes, he⟩ := runSteps_append_eq_some.mp hrun
    rw [runSteps_singleton] at he
    obtain ⟨frames, mid, rest, hsplit, hframes, hrest, hquiet⟩ := ih hes
    by_cases hemits : t.emits e = true
    · have hframe : mid.mtFrame (rest ++ [e]) = some td' := by
        rw [mtFrame_append hquiet hrest hemits]
        exact he
      refine ⟨frames ++ [rest ++ [e]], td', [], by simp [hsplit], ?_, rfl, trivial⟩
      exact runSteps_append_eq_some.mpr ⟨mid, hframes, by rw [runSteps_singleton]; exact hframe⟩
    · refine ⟨frames, mid, rest ++ [e], by simp [hsplit], hframes, ?_, ?_⟩
      · exact runSteps_append_eq_some.mpr ⟨t, hrest, by rw [runSteps_singleton]; exact he⟩
      · refine RunMeets.append_iff.mpr ⟨hquiet, fun t' ht' => ?_⟩
        rw [hrest] at ht'
        cases ht'
        exact ⟨Bool.of_not_eq_true hemits, fun _ _ => trivial⟩

/-- Behind every call of `mt_emit_event` a frame begins. -/
theorem Idle.behind_emit (h : td.Idle last maxcontacts) (hrun : runSteps mtStep td es = some td')
    (hemits : td'.emits e = true) : (td'.mtEvent e).1.Idle last maxcontacts := by
  obtain ⟨frames, mid, rest, -, hframes, hrest, hquiet⟩ := frames_of_run hrun
  exact ((h.run hframes).mtFrame (mtFrame_append hquiet hrest hemits)).1

end MtDevice

open MtDevice in
/-- From every state that a panel of the default class can be in behind a call of `mt_emit_event`, a frame is
    kept if and only if the counters end it once, behind its last touch, and its touches fit into the panel
    together with the contacts that touched before; and in a run of frames all are kept if and only if the
    counters end each of them so and the touches of any two that follow one another fit. -/
theorem touchesKept_iff {maxcontacts : UInt8} {last : Usage} {lastFieldIndex : Nat} :
    (∀ es e td, runSteps mtStep (mtProbe mtClsDefault maxcontacts last lastFieldIndex) es = some td →
      td.emits e = true → ∀ frame,
        ((td.mtEvent e).1.Keeps frame ↔
          (td.mtEvent e).1.Ends frame.flatten ∧ (td.mtEvent e).1.Fits frame.flatten)) ∧
      ∀ frames, RunMeets takeFrame Keeps (mtProbe mtClsDefault maxcontacts last lastFieldIndex) frames ↔
        FramesEnd last lastFieldIndex ⟨0, 0⟩ .zero frames ∧ FramesFit last maxcontacts .zero ∅ frames := by
  have hprobe := Idle.mtProbe maxcontacts last lastFieldIndex
  constructor
  · intro es e td hrun hemits frame
    exact (hprobe.behind_emit hrun hemits).keeps_iff frame
  · intro frames
    have hnone : touchingIds (mtProbe mtClsDefault maxcontacts last lastFieldIndex).slots = ∅ := by
      ext id
      simp [touchingIds, mtProbe, MtSlot.zero]
    rw [hprobe.keepsFrames_iff rfl, hnone]
    rfl

/-! ## One finger after another -/

/-- A panel of the default class for one contact, whose reports end with the value of `HID_GD_Y`. -/
def singlePanel : MtDevice := mtProbe mtClsDefault 1 .y 2

def finger (id : Int) : List MtEvent :=
  [⟨true, 0, .tipSwitch, 1⟩, ⟨true, 1, .contactId, id⟩, ⟨true, 2, .y, 10⟩]

/-- The panel with finger 7. -/
def pressed : MtDevice := (singlePanel.mtEvents (finger 7)).1

theorem touchesKept_iff_finger :
    (pressed.Keeps [finger 8] ↔ pressed.Ends [finger 8].flatten ∧ pressed.Fits [finger 8].flatten) ∧
      (RunMeets MtDevice.takeFrame MtDevice.Keeps singlePanel [[finger 7], [finger 8]] ↔
        MtDevice.FramesEnd .y 2 ⟨0, 0⟩ .zero [[finger 7], [finger 8]] ∧
          MtDevice.FramesFit .y 1 .zero ∅ [[finger 7], [finger 8]]) := by
  have hiff := @touchesKept_iff 1 .y 2
  exact ⟨hiff.1 [⟨true, 0, .tipSwitch, 1⟩, ⟨true, 1, .contactId, 7⟩] ⟨true, 2, .y, 10⟩ _ rfl rfl [finger 8],
    hiff.2 [[finger 7], [finger 8]]⟩

/-- Finger 8 comes in the frame in which finger 7 is gone. -/
theorem not_touchesKept_replaced :
    runSteps MtDevice.takeFrame singlePanel [[finger 7]] = some pressed ∧
      syncs (pressed.mtEvents (finger 8)).2 = 1 ∧
      (touchingIds (MtSlot.touches .y pressed.curdata (finger 8))).card ≤ 1 ∧
      ¬ MtDevice.TouchesKept pressed (finger 8) (pressed.mtEvents (finger 8)).1 := by
  refine ⟨rfl, rfl, by decide, fun hkept => ?_⟩
  obtain ⟨s, hs, htouch, -⟩ := hkept.all ⟨0, 10, 0, 0, 0, 8, true, true⟩ List.mem_cons_self
  have hslots : ∀ s ∈ (pressed.mtEvents (finger 8)).1.slots, s.touchState = false := by decide
  rw [hslots s hs] at htouch
  cases htouch

/-- A frame of two packets with the contact count behind the fingers is ended with the first packet. -/
example : (⟨0, 0⟩ : FrameCount).touchesBehind .y 2 .zero
    [finger 7, [⟨true, 3, .contactCount, 2⟩], finger 8, [⟨true, 3, .contactCount, 0⟩]].flatten ≠ [] := by
  decide

end AndroidPatch.Hid
