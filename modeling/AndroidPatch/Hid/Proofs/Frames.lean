import AndroidPatch.Hid.Proofs.Counters

/-!
# Frames

What the driver takes up to a call of `mt_emit_event` is a frame to it. The slots of contacts that have left
are released only at its end, when the new contacts have been given slots: all contacts of a frame have
slots if and only if they and those that touched before it are not more than the panel has
(`Idle.touchesKept_of_fits`, `Idle.fits_of_all`).
-/

namespace AndroidPatch.Hid

/-! ## What a device reports -/

namespace MtSlot

/-- The contact that is being reported, with a value; absent when the value is not one of a contact's
    report. What is not reported is as in the contact before it. -/
def take (c : MtSlot) (e : MtEvent) : Option MtSlot :=
  if e.claimed then
    match e.usage with
    | .tipSwitch => some { c with touchState := e.value != 0 }
    | .contactId => some { c with contactid := e.value }
    | .tipPressure => some { c with p := e.value }
    | .x => some { c with x := e.value }
    | .y => some { c with y := e.value }
    | .width => some { c with w := e.value }
    | .height => some { c with h := e.value }
    | .inRange | .confidence | .contactCount => some c
    | .other _ => none
  else none

variable (last : Usage)

/-- The contact that is reported after a value; `last` is the last usage of a contact. -/
def next (c : MtSlot) (e : MtEvent) : MtSlot :=
  match c.take e with
  | none => c
  | some c => if e.usage = last then { c with seenInThisFrame := true } else c

/-- The touching contact whose report ends with a value. -/
def touch (c : MtSlot) (e : MtEvent) : Option MtSlot :=
  (c.take e).bind fun c =>
    if e.usage = last ∧ c.touchState = true then some { c with seenInThisFrame := true } else none

/-- The touching contacts that are reported with values, in their order. -/
def touches : MtSlot → List MtEvent → List MtSlot
  | _, [] => []
  | c, e :: es => (touch last c e).toList ++ touches (next last c e) es

end MtSlot

/-- The contacts that touch. -/
def touchingIds (slots : List MtSlot) : Finset Int := liveKeys MtSlot.contactid MtSlot.touchState slots

/-- The last touch of its contact. -/
def LastTouch (touches : List MtSlot) (t : MtSlot) : Prop :=
  ∃ earlier later, touches = earlier ++ t :: later ∧ ∀ t' ∈ later, t'.contactid ≠ t.contactid

/-- Another contact is touched last. -/
theorem LastTouch.append {touches : List MtSlot} {contact t : MtSlot} (h : LastTouch touches t)
    (hne : contact.contactid ≠ t.contactid) :
    LastTouch (touches ++ [contact]) t := by
  obtain ⟨earlier, later, rfl, hlater⟩ := h
  refine ⟨earlier, later ++ [contact], by simp, fun t' ht' => ?_⟩
  rcases List.mem_append.mp ht' with ht' | ht'
  · exact hlater t' ht'
  · rw [List.mem_singleton.mp ht']
    exact hne

theorem LastTouch.new (touches : List MtSlot) (t : MtSlot) : LastTouch (touches ++ [t]) t :=
  ⟨touches, [], rfl, fun _ h => by cases h⟩

namespace MtDevice

/-! ## Frames of the driver -/

/-- `mt_event` before it calls `mt_emit_event`. -/
def taken (td : MtDevice) (e : MtEvent) : MtDevice := (td.takeEvent e).getD td

/-- `mt_event` calls `mt_emit_event`. -/
def emits (td : MtDevice) (e : MtEvent) : Bool :=
  (td.takeEvent e).any fun td => e.fieldIndex = td.lastFieldIndex ∧ td.numExpected ≤ td.numReceived

/-- What the driver takes for a frame: `mt_emit_event` is called after the last of the values, and not
    before. -/
def mtFrame (td : MtDevice) : List MtEvent → Option MtDevice
  | [] => none
  | e :: es =>
      if td.emits e then if es = [] then some (td.mtEvent e).1 else none
      else mtFrame (td.mtEvent e).1 es

/-- What `find_slot_from_contactid` returns while a value is taken, if it is called. -/
def searched (td : MtDevice) (e : MtEvent) : Option Int :=
  (td.completes e).map fun contact => { td with curdata := contact }.findSlotFromContactid

variable {td td' : MtDevice} {e : MtEvent} {es : List MtEvent}

theorem mtEvent_of_emits (h : td.emits e = true) : td.mtEvent e = (td.taken e).mtEmitEvent := by
  unfold emits at h
  unfold mtEvent taken
  cases htaken : td.takeEvent e with
  | none =>
    rw [htaken] at h
    cases h
  | some taken =>
    rw [htaken, Option.any_some, decide_eq_true_iff] at h
    exact if_pos h

theorem mtEvent_of_not_emits (h : td.emits e = false) : td.mtEvent e = (td.taken e, []) := by
  unfold emits at h
  unfold mtEvent taken
  cases htaken : td.takeEvent e with
  | none => rfl
  | some taken =>
    rw [htaken, Option.any_some, decide_eq_false_iff_not] at h
    exact if_neg h

theorem syncs_mtEvent : syncs (td.mtEvent e).2 = if td.emits e then 1 else 0 := by
  cases hemits : td.emits e with
  | true =>
    rw [mtEvent_of_emits hemits, syncs_mtEmitEvent]
    rfl
  | false =>
    rw [mtEvent_of_not_emits hemits]
    rfl

theorem runSteps_mtStep (td : MtDevice) (es : List MtEvent) :
    runSteps mtStep td es = some (td.mtEvents es).1 := by
  induction es generalizing td with
  | nil => rfl
  | cons e es ih => exact ih (td.mtEvent e).1

theorem mtEvents_append (td : MtDevice) (es es' : List MtEvent) :
    (td.mtEvents (es ++ es')).1 = ((td.mtEvents es).1.mtEvents es').1 := by
  induction es generalizing td with
  | nil => rfl
  | cons e es ih => exact ih (td.mtEvent e).1

theorem syncs_mtEvents_cons (td : MtDevice) (e : MtEvent) (es : List MtEvent) :
    syncs (td.mtEvents (e :: es)).2 =
      (if td.emits e then 1 else 0) + syncs ((td.mtEvent e).1.mtEvents es).2 := by
  rw [mtEvents_cons, ← syncs_mtEvent]
  exact List.countP_append

/-- A frame is a run. -/
theorem runSteps_of_mtFrame (h : td.mtFrame es = some td') : runSteps mtStep td es = some td' := by
  induction es generalizing td with
  | nil => cases h
  | cons e es ih =>
    rw [mtFrame] at h
    by_cases hemits : td.emits e = true
    · rw [if_pos hemits] at h
      by_cases hnil : es = []
      · rw [if_pos hnil] at h
        rw [hnil]
        exact h
      · rw [if_neg hnil] at h
        cases h
    · rw [if_neg hemits] at h
      exact ih h

theorem mtEvents_of_mtFrame (h : td.mtFrame es = some td') : (td.mtEvents es).1 = td' :=
  Option.some.inj ((runSteps_mtStep td es).symm.trans (runSteps_of_mtFrame h))

/-! ## A device of the default class -/

/-- Between two values. -/
structure Default (last : Usage) (maxcontacts : UInt8) (td : MtDevice) : Prop where
  mtclass : td.mtclass = mtClsDefault
  lastSlotField : td.lastSlotField = last
  maxcontacts : td.maxcontacts = maxcontacts
  /-- a contact is valid when it touches -/
  valid : td.curvalid = td.curdata.touchState

variable {last : Usage} {maxcontacts : UInt8} {contact : MtSlot}

theorem Default.looksUp (h : td.Default last maxcontacts) : td.mtclass.LooksUp := by
  rw [h.mtclass]
  decide

theorem Default.takeValue (h : td.Default last maxcontacts) (htaken : td.takeValue e = some td') :
    td'.Default last maxcontacts := by
  obtain ⟨hclass, hlast, hmax, hvalid⟩ := h
  have hmeansUp : td.mtclass.has mtQuirkNotSeenMeansUp = true := by
    rw [hclass]
    decide
  have hinrange : td.mtclass.has mtQuirkValidIsInrange = false := by
    rw [hclass]
    decide
  have hconfidence : td.mtclass.has mtQuirkValidIsConfidence = false := by
    rw [hclass]
    decide
  unfold MtDevice.takeValue at htaken
  rw [hmeansUp, hinrange, hconfidence] at htaken
  split at htaken
  case h_11 => cases htaken
  case h_10 =>
    cases htaken
    split <;> exact ⟨hclass, hlast, hmax, hvalid⟩
  case h_2 =>
    cases htaken
    exact ⟨hclass, hlast, hmax, rfl⟩
  all_goals
    cases htaken
    exact ⟨hclass, hlast, hmax, hvalid⟩

/-- The driver has the contact that is being reported in `curdata`. -/
theorem takeValue_curdata (hclaimed : e.claimed = true) :
    (td.takeValue e).map curdata = td.curdata.take e := by
  unfold takeValue MtSlot.take
  rw [if_pos hclaimed]
  rcases e with ⟨claimed, fieldIndex, usage, value⟩
  cases usage
  case inRange | confidence | contactCount =>
    dsimp only
    split <;> rfl
  case tipSwitch =>
    dsimp only
    split <;> rfl
  all_goals rfl

theorem Default.mtCompleteSlot (h : td.Default last maxcontacts) :
    td.mtCompleteSlot.Default last maxcontacts := by
  obtain ⟨hclass, hlast, hmax, hvalid⟩ := h
  unfold MtDevice.mtCompleteSlot store
  dsimp only
  split
  · split <;> exact ⟨hclass, hlast, hmax, hvalid⟩
  · exact ⟨hclass, hlast, hmax, hvalid⟩

theorem mtCompleteSlot_curdata (td : MtDevice) :
    td.mtCompleteSlot.curdata = { td.curdata with seenInThisFrame := true } := by
  unfold mtCompleteSlot store
  dsimp only
  split
  · split <;> rfl
  · rfl

theorem Default.taken (h : td.Default last maxcontacts) (e : MtEvent) :
    (td.taken e).Default last maxcontacts ∧ (td.taken e).curdata = td.curdata.next last e := by
  unfold MtDevice.taken takeEvent MtSlot.next
  by_cases hclaimed : e.claimed = true
  · rw [if_pos hclaimed, ← takeValue_curdata hclaimed]
    cases htaken : td.takeValue e with
    | none => exact ⟨h, rfl⟩
    | some taken =>
      have hdefault := h.takeValue htaken
      have hfield := hdefault.lastSlotField
      by_cases hlast : e.usage = last
      · have hlast' : e.usage = taken.lastSlotField := hlast.trans hfield.symm
        simp only [Option.map_some, Option.getD_some]
        rw [if_pos hlast, if_pos hlast']
        exact ⟨hdefault.mtCompleteSlot, mtCompleteSlot_curdata taken⟩
      · have hlast' : ¬ e.usage = taken.lastSlotField := fun heq => hlast (heq.trans hfield)
        simp only [Option.map_some, Option.getD_some]
        rw [if_neg hlast, if_neg hlast']
        exact ⟨hdefault, rfl⟩
  · have htake : td.curdata.take e = none := if_neg hclaimed
    rw [if_neg hclaimed, htake]
    exact ⟨h, rfl⟩

theorem Default.mtEvent (h : td.Default last maxcontacts) (e : MtEvent) :
    (td.mtEvent e).1.Default last maxcontacts ∧ (td.mtEvent e).1.curdata = td.curdata.next last e := by
  obtain ⟨hdefault, hcurdata⟩ := h.taken e
  cases hemits : td.emits e with
  | true =>
    rw [mtEvent_of_emits hemits]
    exact ⟨⟨hdefault.mtclass, hdefault.lastSlotField, hdefault.maxcontacts, hdefault.valid⟩, hcurdata⟩
  | false =>
    rw [mtEvent_of_not_emits hemits]
    exact ⟨hdefault, hcurdata⟩

theorem Default.mtEvents (h : td.Default last maxcontacts) (es : List MtEvent) :
    (td.mtEvents es).1.Default last maxcontacts ∧
      (td.mtEvents es).1.curdata = es.foldl (MtSlot.next last) td.curdata := by
  induction es generalizing td with
  | nil => exact ⟨h, rfl⟩
  | cons e es ih =>
    obtain ⟨hnext, hcurdata⟩ := h.mtEvent e
    have hrest := ih hnext
    rw [hcurdata] at hrest
    exact hrest

theorem Default.completes (h : td.Default last maxcontacts) (e : MtEvent) :
    td.completes e = td.curdata.touch last e := by
  unfold MtDevice.completes MtSlot.touch
  by_cases hclaimed : e.claimed = true
  · rw [if_pos hclaimed, ← takeValue_curdata hclaimed]
    cases htaken : td.takeValue e with
    | none => rfl
    | some taken =>
      have hdefault := h.takeValue htaken
      simp only [Option.bind_some, Option.map_some, hdefault.lastSlotField, hdefault.valid]
  · have htake : td.curdata.take e = none := if_neg hclaimed
    rw [if_neg hclaimed, htake]
    rfl

/-! ## The search for a slot -/

theorem findSlot_congr {td₁ td₂ : MtDevice} (hslots : td₁.slots = td₂.slots)
    (hcurdata : td₁.curdata = td₂.curdata) :
    td₁.findSlotFromContactid = td₂.findSlotFromContactid := by
  unfold findSlotFromContactid
  rw [hslots, hcurdata]

/-- A contact is dropped when it touches in no slot and no slot is free. -/
theorem findSlot_neg (h : td.findSlotFromContactid = -1) :
    (∀ s ∈ td.slots, s.touchState = true → s.contactid ≠ td.curdata.contactid) ∧
      ∀ s ∈ td.slots, s.seenInThisFrame = true ∨ s.touchState = true := by
  unfold findSlotFromContactid at h
  cases hsame : td.slots.findIdx? fun s => s.contactid == td.curdata.contactid && s.touchState with
  | some i =>
    rw [hsame] at h
    have hneg : (i : Int) = -1 := h
    omega
  | none =>
    rw [hsame] at h
    cases hfree : td.slots.findIdx? fun s => !s.seenInThisFrame && !s.touchState with
    | some i =>
      rw [hfree] at h
      have hneg : (i : Int) = -1 := h
      omega
    | none =>
      constructor
      · intro s hs htouch hcontact
        have hnot := List.findIdx?_eq_none_iff.mp hsame s hs
        simp [htouch, hcontact] at hnot
      · intro s hs
        have hnot := List.findIdx?_eq_none_iff.mp hfree s hs
        simp only [Bool.and_eq_false_iff, Bool.not_eq_false'] at hnot
        exact hnot

theorem mem_store_find (h : td.findSlotFromContactid ≠ -1) :
    td.curdata ∈ (td.store td.findSlotFromContactid).slots := by
  have hplace : ∃ i : Nat, td.findSlotFromContactid = i ∧ i < td.slots.length := by
    unfold findSlotFromContactid at h ⊢
    cases hsame : td.slots.findIdx? fun s => s.contactid == td.curdata.contactid && s.touchState with
    | some i =>
      obtain ⟨s, hslot, -⟩ := findIdx?_getElem? hsame
      exact ⟨i, rfl, (List.getElem?_eq_some_iff.mp hslot).1⟩
    | none =>
      rw [hsame] at h
      cases hfree : td.slots.findIdx? fun s => !s.seenInThisFrame && !s.touchState with
      | some i =>
        obtain ⟨s, hslot, -⟩ := findIdx?_getElem? hfree
        exact ⟨i, rfl, (List.getElem?_eq_some_iff.mp hslot).1⟩
      | none =>
        rw [hfree] at h
        exact absurd rfl h
  obtain ⟨i, hfind, hi⟩ := hplace
  rw [hfind, store_slots hi]
  exact List.mem_set hi _

theorem mem_mtCompleteSlot (hclass : td.mtclass.LooksUp) (hvalid : td.curvalid = true)
    (hcontact : contact = { td.curdata with seenInThisFrame := true })
    (hfound : { td with curdata := contact }.findSlotFromContactid ≠ -1) :
    contact ∈ td.mtCompleteSlot.slots := by
  let seen := { td with curdata := contact }
  have hslot : seen.mtComputeSlot = seen.findSlotFromContactid := mtComputeSlot_eq hclass
  have hmem : contact ∈ (seen.store seen.findSlotFromContactid).slots := mem_store_find hfound
  rw [← hslot] at hmem
  simpa [mtCompleteSlot, hvalid, seen, hcontact] using hmem

/-- A touching contact is stored, unless the search for its slot fails. -/
theorem taken_stored (hclass : td.mtclass.LooksUp) (h : td.completes e = some contact) :
    Stored td.slots contact (td.taken e).slots ∧
      (td.searched e ≠ some (-1) → contact ∈ (td.taken e).slots) := by
  have hsearched : td.searched e = some { td with curdata := contact }.findSlotFromContactid := by
    rw [searched, h]
    rfl
  unfold completes at h
  split at h
  · rename_i hclaimed
    obtain ⟨value, htaken, hcontact⟩ := Option.bind_eq_some_iff.mp h
    split at hcontact
    · rename_i hlast
      have hseen := (Option.some.inj hcontact).symm
      obtain ⟨hslots, hmtclass⟩ := takeValue_slots htaken
      have hvalue : value.mtclass.LooksUp := hmtclass ▸ hclass
      have htd : td.taken e = value.mtCompleteSlot := by
        rw [taken, takeEvent, if_pos hclaimed, htaken]
        exact if_pos hlast.1
      have hstored := mtCompleteSlot_valid hvalue hlast.2
      rw [hslots, ← hseen] at hstored
      rw [htd]
      refine ⟨hstored, fun hfound => mem_mtCompleteSlot hvalue hlast.2 hseen fun hneg => hfound ?_⟩
      have hsame : { value with curdata := contact }.findSlotFromContactid =
          { td with curdata := contact }.findSlotFromContactid := findSlot_congr hslots rfl
      rw [hsearched, ← hsame, hneg]
    · cases hcontact
  · cases h

/-- Without a touching contact the slots are left alone. -/
theorem taken_none (hclass : td.mtclass.LooksUp) (h : td.completes e = none) :
    (td.taken e).slots = td.slots := by
  unfold taken
  cases htaken : td.takeEvent e with
  | none => rfl
  | some td' =>
    obtain ⟨-, ⟨-, hslots⟩ | ⟨contact, hcontact, -⟩⟩ := takeEvent_slots hclass htaken
    · exact hslots
    · rw [h] at hcontact
      cases hcontact

/-! ## What a frame has filled -/

/-- The slots in the middle of a frame: what they were before it, and the touches so far. -/
structure Filled (before touches slots : List MtSlot) : Prop where
  unique : UniqueContacts slots
  length : slots.length = before.length
  seen : ∀ s ∈ slots, s.seenInThisFrame = true → s.touchState = true ∧ LastTouch touches s
  /-- nothing is released -/
  kept : touchingIds before ⊆ touchingIds slots
  within : touchingIds slots ⊆ touchingIds before ∪ touchingIds touches

/-- All touches so far have slots. -/
def Placed (touches slots : List MtSlot) : Prop :=
  ∀ t ∈ touches, ∃ s ∈ slots, s.seenInThisFrame = true ∧ s.contactid = t.contactid

variable {before touches slots slots' : List MtSlot}

theorem Filled.start (hunique : UniqueContacts slots) (hunseen : ∀ s ∈ slots, s.seenInThisFrame = false) :
    Filled slots [] slots where
  unique := hunique
  length := rfl
  seen s hs hseen := by
    rw [hunseen s hs] at hseen
    cases hseen
  kept := Finset.Subset.refl _
  within := Finset.subset_union_left

/-- A slot is that of the contact, or it was there and has no touch of the contact. -/
theorem Stored.mem_cases {s : MtSlot} (h : Stored slots contact slots') (hunique : UniqueContacts slots)
    (hs : s ∈ slots') :
    s = contact ∨ s ∈ slots ∧ (s.touchState = true → s.contactid ≠ contact.contactid) := by
  obtain ⟨j, hj⟩ := List.mem_iff_getElem?.mp hs
  cases h with
  | @again i s' hslot htouch hcontact =>
    rcases UniqueLive.getElem?_set_cases hj with ⟨-, rfl⟩ | ⟨hij, hold⟩
    · exact .inl rfl
    · refine .inr ⟨List.mem_of_getElem? hold, fun htouch' hsame => hij ?_⟩
      exact hunique i j s' s hslot hold htouch htouch' (hcontact.trans hsame.symm)
  | new hslot hfree hnew =>
    rcases UniqueLive.getElem?_set_cases hj with ⟨-, rfl⟩ | ⟨hij, hold⟩
    · exact .inl rfl
    · exact .inr ⟨List.mem_of_getElem? hold, hnew s (List.mem_of_getElem? hold)⟩
  | dropped hnew => exact .inr ⟨hs, hnew s hs⟩

theorem Stored.length (h : Stored slots contact slots') : slots'.length = slots.length := by
  cases h with
  | again hslot htouch hcontact => exact List.length_set
  | new hslot hfree hnew => exact List.length_set
  | dropped hnew => rfl

/-- A contact that touches goes on touching. -/
theorem Stored.touchingIds_subset (h : Stored slots contact slots') (htouch : contact.touchState = true) :
    touchingIds slots ⊆ touchingIds slots' := by
  intro id hid
  obtain ⟨s, hs, hlive, rfl⟩ := mem_liveKeys.mp hid
  obtain ⟨j, hj⟩ := List.mem_iff_getElem?.mp hs
  rcases h.touching hj hlive with hsame | ⟨hnew, hcontact⟩
  · exact mem_liveKeys.mpr ⟨s, List.mem_of_getElem? hsame, hlive, rfl⟩
  · exact mem_liveKeys.mpr ⟨contact, List.mem_of_getElem? hnew, htouch, hcontact⟩

theorem touchingIds_append (ts ts' : List MtSlot) :
    touchingIds (ts ++ ts') = touchingIds ts ∪ touchingIds ts' := liveKeys_append ts ts'

theorem touchingIds_singleton (htouch : contact.touchState = true) :
    touchingIds [contact] = {contact.contactid} := by
  simp [touchingIds, liveKeys, htouch]

/-- A touch is stored, or dropped. -/
theorem Filled.stored (h : Filled before touches slots) (hstored : Stored slots contact slots')
    (htouch : contact.touchState = true) : Filled before (touches ++ [contact]) slots' where
  unique := hstored.unique h.unique
  length := hstored.length.trans h.length
  seen s hs hseen := by
    rcases hstored.mem_cases h.unique hs with rfl | ⟨hold, hne⟩
    · exact ⟨htouch, .new touches s⟩
    · obtain ⟨hlive, hlast⟩ := h.seen s hold hseen
      exact ⟨hlive, hlast.append (hne hlive).symm⟩
  kept := h.kept.trans (hstored.touchingIds_subset htouch)
  within id hid := by
    obtain ⟨s, hs, hlive, rfl⟩ := mem_liveKeys.mp hid
    rw [touchingIds_append, touchingIds_singleton htouch, ← Finset.union_assoc]
    rcases hstored.mem_cases h.unique hs with rfl | ⟨hold, -⟩
    · exact Finset.mem_union_right _ (Finset.mem_singleton_self _)
    · exact Finset.mem_union_left _ (h.within (mem_liveKeys.mpr ⟨s, hold, hlive, rfl⟩))

/-- When a touch is stored, the earlier ones are still there. -/
theorem Placed.stored (hplaced : Placed touches slots) (hfilled : Filled before touches slots)
    (hstored : Stored slots contact slots') (hseen : contact.seenInThisFrame = true)
    (hmem : contact ∈ slots') : Placed (touches ++ [contact]) slots' := by
  intro t ht
  rcases List.mem_append.mp ht with ht | ht
  · obtain ⟨s, hs, hseen', hsame⟩ := hplaced t ht
    obtain ⟨j, hj⟩ := List.mem_iff_getElem?.mp hs
    rcases hstored.touching hj (hfilled.seen s hs hseen').1 with hkept | ⟨-, hcontact⟩
    · exact ⟨s, List.mem_of_getElem? hkept, hseen', hsame⟩
    · exact ⟨contact, hmem, hseen, hcontact.trans hsame⟩
  · rw [List.mem_singleton.mp ht]
    exact ⟨contact, hmem, hseen, rfl⟩

/-- While all contacts fit into the panel, the search for a slot does not fail. -/
theorem Filled.found (h : Filled before touches td.slots) (htouch : contact.touchState = true)
    (hfits : (touchingIds before ∪ touchingIds (touches ++ [contact])).card ≤ before.length) :
    { td with curdata := contact }.findSlotFromContactid ≠ -1 := by
  intro hneg
  obtain ⟨hnew, hnofree⟩ := findSlot_neg hneg
  have hfull : ∀ s ∈ td.slots, s.touchState = true := by
    intro s hs
    rcases hnofree s hs with hseen | hlive
    · exact (h.seen s hs hseen).1
    · exact hlive
  have hcard : (touchingIds td.slots).card = before.length :=
    (UniqueLive.card_liveKeys h.unique hfull).trans h.length
  have hnotin : contact.contactid ∉ touchingIds td.slots := by
    intro hin
    obtain ⟨s, hs, hlive, hsame⟩ := mem_liveKeys.mp hin
    exact hnew s hs hlive hsame
  have hsubset : insert contact.contactid (touchingIds td.slots) ⊆
      touchingIds before ∪ touchingIds (touches ++ [contact]) := by
    rw [touchingIds_append, touchingIds_singleton htouch, ← Finset.union_assoc]
    apply Finset.insert_subset
    · exact Finset.mem_union_right _ (Finset.mem_singleton_self _)
    · exact h.within.trans Finset.subset_union_left
  have hle := Finset.card_le_card hsubset
  rw [Finset.card_insert_of_notMem hnotin, hcard] at hle
  omega

/-! ## A value, and the values of a frame -/

theorem touch_flags {c : MtSlot} (h : c.touch last e = some contact) :
    contact.touchState = true ∧ contact.seenInThisFrame = true := by
  obtain ⟨c', -, hc⟩ := Option.bind_eq_some_iff.mp h
  split at hc
  · rename_i hlast
    cases hc
    exact ⟨hlast.2, rfl⟩
  · cases hc

theorem Filled.taken (h : Filled before touches td.slots) (hdefault : td.Default last maxcontacts)
    (e : MtEvent) :
    Filled before (touches ++ (td.curdata.touch last e).toList) (td.taken e).slots := by
  have hcompletes := hdefault.completes e
  cases htouch : td.curdata.touch last e with
  | none =>
    rw [taken_none hdefault.looksUp (hcompletes.trans htouch), Option.toList_none, List.append_nil]
    exact h
  | some contact =>
    have hstored := (taken_stored hdefault.looksUp (hcompletes.trans htouch)).1
    exact h.stored hstored (touch_flags htouch).1

/-- While the contacts of a frame fit into the panel, the search does not fail. -/
theorem Filled.searched (h : Filled before touches td.slots) (hdefault : td.Default last maxcontacts)
    (e : MtEvent)
    (hfits : (touchingIds before ∪
      touchingIds (touches ++ (td.curdata.touch last e).toList)).card ≤ before.length) :
    td.searched e ≠ some (-1) := by
  rw [MtDevice.searched, hdefault.completes e]
  cases htouch : td.curdata.touch last e with
  | none => exact fun hsome => by cases hsome
  | some contact =>
    rw [htouch] at hfits
    exact fun hneg => h.found (touch_flags htouch).1 hfits (Option.some.inj hneg)

/-- While the search does not fail, the touches have slots. -/
theorem Placed.taken (h : Placed touches td.slots) (hfilled : Filled before touches td.slots)
    (hdefault : td.Default last maxcontacts) (hfound : td.searched e ≠ some (-1)) :
    Placed (touches ++ (td.curdata.touch last e).toList) (td.taken e).slots := by
  have hcompletes := hdefault.completes e
  cases htouch : td.curdata.touch last e with
  | none =>
    rw [taken_none hdefault.looksUp (hcompletes.trans htouch), Option.toList_none, List.append_nil]
    exact h
  | some contact =>
    obtain ⟨hstored, hmem⟩ := taken_stored hdefault.looksUp (hcompletes.trans htouch)
    exact h.stored hfilled hstored (touch_flags htouch).2 (hmem hfound)

/-- The values of a frame, before `mt_emit_event` is called. -/
def takeAll (td : MtDevice) (es : List MtEvent) : MtDevice := es.foldl taken td

theorem mtFrame_eq (h : td.mtFrame es = some td') : td' = (td.takeAll es).mtEmitEvent.1 := by
  induction es generalizing td with
  | nil => cases h
  | cons e es ih =>
    rw [mtFrame] at h
    by_cases hemits : td.emits e = true
    · rw [if_pos hemits, mtEvent_of_emits hemits] at h
      by_cases hnil : es = []
      · rw [if_pos hnil] at h
        rw [hnil]
        exact (Option.some.inj h).symm
      · rw [if_neg hnil] at h
        cases h
    · rw [if_neg hemits, mtEvent_of_not_emits (Bool.of_not_eq_true hemits)] at h
      exact ih h

/-- What the values have filled. -/
theorem Filled.takeAll (h : Filled before touches td.slots) (hdefault : td.Default last maxcontacts)
    (es : List MtEvent) :
    (td.takeAll es).Default last maxcontacts ∧
      (td.takeAll es).curdata = es.foldl (MtSlot.next last) td.curdata ∧
      Filled before (touches ++ MtSlot.touches last td.curdata es) (td.takeAll es).slots := by
  induction es generalizing td touches with
  | nil =>
    rw [MtSlot.touches, List.append_nil]
    exact ⟨hdefault, rfl, h⟩
  | cons e es ih =>
    obtain ⟨hnext, hcurdata⟩ := hdefault.taken e
    have hrest := ih (h.taken hdefault e) hnext
    rw [hcurdata, List.append_assoc] at hrest
    exact hrest

/-- A frame whose contacts fit into the panel. -/
theorem Placed.mtFrame (h : Placed touches td.slots) (hfilled : Filled before touches td.slots)
    (hdefault : td.Default last maxcontacts) (hframe : td.mtFrame es = some td')
    (hfits : (touchingIds before ∪
      touchingIds (touches ++ MtSlot.touches last td.curdata es)).card ≤ before.length) :
    Placed (touches ++ MtSlot.touches last td.curdata es) (td.takeAll es).slots ∧
      RunMeets mtStep (fun td e => td.searched e ≠ some (-1)) td es := by
  induction es generalizing td touches with
  | nil => cases hframe
  | cons e es ih =>
    obtain ⟨hnext, hcurdata⟩ := hdefault.taken e
    rw [MtSlot.touches, ← List.append_assoc] at hfits ⊢
    have hfirst : (touchingIds before ∪
        touchingIds (touches ++ (td.curdata.touch last e).toList)).card ≤ before.length := by
      refine (Finset.card_le_card (Finset.union_subset_union_right ?_)).trans hfits
      rw [touchingIds_append (touches ++ _)]
      exact Finset.subset_union_left
    have hfound := hfilled.searched hdefault e hfirst
    have hplaced := h.taken hfilled hdefault hfound
    have hfilled' := hfilled.taken hdefault e
    rw [mtFrame] at hframe
    by_cases hemits : td.emits e = true
    · rw [if_pos hemits] at hframe
      by_cases hnil : es = []
      · subst hnil
        rw [MtSlot.touches, List.append_nil]
        exact ⟨hplaced, hfound, fun _ _ => trivial⟩
      · rw [if_neg hnil] at hframe
        cases hframe
    · have hevent := mtEvent_of_not_emits (Bool.of_not_eq_true hemits)
      rw [if_neg hemits, hevent] at hframe
      rw [← hcurdata] at hfits ⊢
      obtain ⟨hall, hmeets⟩ := ih hplaced hfilled' hnext hframe hfits
      refine ⟨hall, hfound, fun td₁ hstep => ?_⟩
      rw [mtStep, hevent] at hstep
      cases hstep
      exact hmeets

/-! ## Whole frames -/

/-- Between two frames. -/
structure Idle (last : Usage) (maxcontacts : UInt8) (td : MtDevice) : Prop
    extends Default last maxcontacts td where
  unique : UniqueContacts td.slots
  unseen : ∀ s ∈ td.slots, s.seenInThisFrame = false

theorem Idle.mtProbe (maxcontacts : UInt8) (last : Usage) (lastFieldIndex : Nat) :
    (mtProbe mtClsDefault maxcontacts last lastFieldIndex).Idle last maxcontacts where
  mtclass := rfl
  lastSlotField := rfl
  maxcontacts := rfl
  valid := rfl
  unique := UniqueLive.of_dead fun s hs => by rw [List.eq_of_mem_replicate hs]; rfl
  unseen s hs := by rw [List.eq_of_mem_replicate hs]; rfl

theorem Default.mtEmitEvent_slots (h : td.Default last maxcontacts) :
    td.mtEmitEvent.1.slots = td.slots.map (endFrame true) := by
  have hmeansUp : td.mtclass.has mtQuirkNotSeenMeansUp = true := by
    rw [h.mtclass]
    decide
  simp [mtEmitEvent, endFrame, Function.comp_def, hmeansUp]

theorem Idle.filled (h : td.Idle last maxcontacts) (es : List MtEvent) :
    (td.takeAll es).Default last maxcontacts ∧
      (td.takeAll es).curdata = es.foldl (MtSlot.next last) td.curdata ∧
      Filled td.slots (MtSlot.touches last td.curdata es) (td.takeAll es).slots :=
  (Filled.start h.unique h.unseen).takeAll h.toDefault es

theorem Idle.mtFrame (h : td.Idle last maxcontacts) (hframe : td.mtFrame es = some td') :
    td'.Idle last maxcontacts ∧ td'.curdata = es.foldl (MtSlot.next last) td.curdata := by
  obtain ⟨hdefault, hcurdata, hfilled⟩ := h.filled es
  rw [mtFrame_eq hframe]
  refine ⟨⟨⟨hdefault.mtclass, hdefault.lastSlotField, hdefault.maxcontacts, hdefault.valid⟩, ?_, ?_⟩,
    hcurdata⟩
  · rw [hdefault.mtEmitEvent_slots]
    exact UniqueLive.map hfilled.unique (endFrame_contactid true) (endFrame_touchState true)
  · intro s hs
    rw [hdefault.mtEmitEvent_slots] at hs
    obtain ⟨s', -, rfl⟩ := List.mem_map.mp hs
    rfl

/-- The end of a frame leaves the touches that were seen in it. -/
theorem endFrame_touching {s : MtSlot} :
    (endFrame true s).touchState = true ↔ s.touchState = true ∧ s.seenInThisFrame = true := by
  unfold endFrame MtSlot.release
  cases hseen : s.seenInThisFrame <;> simp

theorem endFrame_seen {s : MtSlot} (hseen : s.seenInThisFrame = true) :
    endFrame true s = { s with seenInThisFrame := false } := by
  simp [endFrame, MtSlot.release, hseen]

/-- The slots that touch after a frame are those of its touches, with what was reported of them last, and
    no search for a slot has failed. -/
structure TouchesKept (before : MtDevice) (frame : List MtEvent) (after : MtDevice) : Prop where
  unique : UniqueContacts after.slots
  carried : ∀ s ∈ after.slots, s.touchState = true →
    ∃ t, LastTouch (MtSlot.touches before.lastSlotField before.curdata frame) t ∧
      s = { t with seenInThisFrame := false }
  all : ∀ t ∈ MtSlot.touches before.lastSlotField before.curdata frame,
    ∃ s ∈ after.slots, s.touchState = true ∧ s.contactid = t.contactid
  found : RunMeets mtStep (fun td e => td.searched e ≠ some (-1)) before frame

/-- The contacts that touch before a frame and those of the frame fit into the panel. -/
def Fits (td : MtDevice) (frame : List MtEvent) : Prop :=
  (touchingIds td.slots ∪ touchingIds (MtSlot.touches td.lastSlotField td.curdata frame)).card ≤
    td.maxcontacts.toNat

theorem Idle.touchesKept_of_fits (h : td.Idle last maxcontacts) (hframe : td.mtFrame es = some td')
    (hfits : td.Fits es) : TouchesKept td es td' := by
  obtain ⟨hdefault, -, hfilled⟩ := h.filled es
  rw [Fits, ← td.slots_length, h.lastSlotField] at hfits
  have hstart : Placed [] td.slots := fun t ht => by cases ht
  obtain ⟨hplaced, hfound⟩ :=
    hstart.mtFrame (.start h.unique h.unseen) h.toDefault hframe hfits
  have hslots : td'.slots = (td.takeAll es).slots.map (endFrame true) := by
    rw [mtFrame_eq hframe, hdefault.mtEmitEvent_slots]
  refine ⟨(h.mtFrame hframe).1.unique, ?_, ?_, hfound⟩
  · intro s hs htouch
    rw [hslots] at hs
    obtain ⟨t, ht, rfl⟩ := List.mem_map.mp hs
    obtain ⟨-, hseen⟩ := endFrame_touching.mp htouch
    rw [h.lastSlotField]
    exact ⟨t, (hfilled.seen t ht hseen).2, endFrame_seen hseen⟩
  · intro t ht
    rw [h.lastSlotField] at ht
    obtain ⟨s, hs, hseen, hsame⟩ := hplaced t ht
    rw [hslots]
    refine ⟨endFrame true s, List.mem_map_of_mem hs, ?_, ?_⟩
    · exact endFrame_touching.mpr ⟨(hfilled.seen s hs hseen).1, hseen⟩
    · exact (endFrame_contactid true s).trans hsame

/-- The slots that touch have room for no more. -/
theorem Idle.fits_of_all (h : td.Idle last maxcontacts) (hframe : td.mtFrame es = some td')
    (hall : ∀ t ∈ MtSlot.touches td.lastSlotField td.curdata es,
      ∃ s ∈ td'.slots, s.touchState = true ∧ s.contactid = t.contactid) : td.Fits es := by
  obtain ⟨hdefault, -, hfilled⟩ := h.filled es
  have hslots : td'.slots = (td.takeAll es).slots.map (endFrame true) := by
    rw [mtFrame_eq hframe, hdefault.mtEmitEvent_slots]
  have hnew : touchingIds (MtSlot.touches td.lastSlotField td.curdata es) ⊆
      touchingIds (td.takeAll es).slots := by
    intro id hid
    obtain ⟨t, ht, -, rfl⟩ := mem_liveKeys.mp hid
    obtain ⟨s', hs', htouch, hsame⟩ := hall t ht
    rw [hslots] at hs'
    obtain ⟨s, hs, rfl⟩ := List.mem_map.mp hs'
    exact mem_liveKeys.mpr ⟨s, hs, endFrame_touchState true s htouch,
      (endFrame_contactid true s).symm.trans hsame⟩
  calc (touchingIds td.slots ∪ touchingIds (MtSlot.touches td.lastSlotField td.curdata es)).card
      ≤ (touchingIds (td.takeAll es).slots).card :=
        Finset.card_le_card (Finset.union_subset hfilled.kept hnew)
    _ ≤ (td.takeAll es).slots.length := card_liveKeys_le
    _ = td.slots.length := hfilled.length
    _ = td.maxcontacts.toNat := td.slots_length

end MtDevice

end AndroidPatch.Hid
