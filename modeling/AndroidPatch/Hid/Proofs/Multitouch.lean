import AndroidPatch.Hid.Multitouch
import AndroidPatch.Misc.Run
import AndroidPatch.Misc.Slots

/-!
# A contact and its slot

While a contact touches there is one slot for it, and its reports go there.
-/

namespace AndroidPatch.Hid

/-- The slot of a contact is looked up, and not given by the contact. -/
def MtClass.LooksUp (c : MtClass) : Prop :=
  c.has mtQuirkSlotIsContactid = false ∧ c.has mtQuirkCypress = false ∧
    c.has mtQuirkSlotIsContactnumber = false ∧ c.has mtQuirkSlotIsContactidMinusOne = false

instance (c : MtClass) : Decidable c.LooksUp := inferInstanceAs (Decidable (_ ∧ _ ∧ _ ∧ _))

/-- The devices of seven classes have their slots given. -/
theorem mtClassOf_looksUp_iff (driverData : Nat) :
    (mtClassOf driverData).LooksUp ↔
      driverData ∉ [0x0003, 0x0004, 0x0005, 0x0006, 0x0101, 0x0102, 0x0103] := by
  by_cases hknown : driverData ∈ mtClasses.map MtClass.name
  · have hall : ∀ d ∈ mtClasses.map MtClass.name, (mtClassOf d).LooksUp ↔
        d ∉ [0x0003, 0x0004, 0x0005, 0x0006, 0x0101, 0x0102, 0x0103] := by decide
    exact hall driverData hknown
  · have hdefault : mtClassOf driverData = mtClsDefault := by
      have hnone : mtClasses.find? (fun c => driverData == c.name) = none := by
        rw [List.find?_eq_none]
        intro c hc hname
        exact hknown (List.mem_map.mpr ⟨c, hc, (beq_iff_eq.mp hname).symm⟩)
      rw [mtClassOf, hnone]
      rfl
    rw [hdefault]
    have hnames : ∀ d ∈ [0x0003, 0x0004, 0x0005, 0x0006, 0x0101, 0x0102, 0x0103],
        d ∈ mtClasses.map MtClass.name := by decide
    exact ⟨fun _ hmem => hknown (hnames driverData hmem), fun _ => by decide⟩

/-- No two slots that touch have one contact. -/
def UniqueContacts (slots : List MtSlot) : Prop := UniqueLive MtSlot.contactid MtSlot.touchState slots

namespace MtDevice

variable {td td' : MtDevice} {e : MtEvent} {contact : MtSlot} {i : Nat}

/-! ## What a value does to the slots -/

/-- The slots after a contact has been completed: it is stored in the slot in which it touches, or, where
    it does not, in one that does not touch; or it is dropped. -/
inductive Stored (slots : List MtSlot) (contact : MtSlot) : List MtSlot → Prop
  | again {i : Nat} {s : MtSlot} (hslot : slots[i]? = some s) (htouch : s.touchState = true)
      (hcontact : s.contactid = contact.contactid) : Stored slots contact (slots.set i contact)
  | new {i : Nat} {s : MtSlot} (hslot : slots[i]? = some s) (hfree : s.touchState = false)
      (hnew : ∀ s ∈ slots, s.touchState = true → s.contactid ≠ contact.contactid) :
      Stored slots contact (slots.set i contact)
  | dropped (hnew : ∀ s ∈ slots, s.touchState = true → s.contactid ≠ contact.contactid) :
      Stored slots contact slots

theorem store_slots (hi : i < td.slots.length) : (td.store i).slots = td.slots.set i td.curdata := by
  have hmax : (i : Int) < td.maxcontacts.toNat := by
    rw [← td.slots_length]
    exact Int.ofNat_lt.mpr hi
  simp [store, hmax]

theorem store_none : (td.store (-1)).slots = td.slots := by
  simp [store]

theorem mtComputeSlot_eq (hclass : td.mtclass.LooksUp) : td.mtComputeSlot = td.findSlotFromContactid := by
  obtain ⟨h1, h2, h3, h4⟩ := hclass
  simp [mtComputeSlot, h1, h2, h3, h4]

/-- The two passes of the search. -/
theorem store_find (td : MtDevice) :
    Stored td.slots td.curdata (td.store td.findSlotFromContactid).slots := by
  unfold findSlotFromContactid
  cases hsame : td.slots.findIdx? fun s => s.contactid == td.curdata.contactid && s.touchState with
  | some i =>
    obtain ⟨s, hslot, hs⟩ := findIdx?_getElem? hsame
    simp only [Bool.and_eq_true, beq_iff_eq] at hs
    rw [store_slots (List.getElem?_eq_some_iff.mp hslot).1]
    exact .again hslot hs.2 hs.1
  | none =>
    have hnew : ∀ s ∈ td.slots, s.touchState = true → s.contactid ≠ td.curdata.contactid := by
      intro s hs htouch hcontact
      have hnot := List.findIdx?_eq_none_iff.mp hsame s hs
      simp [htouch, hcontact] at hnot
    cases hfree : td.slots.findIdx? fun s => !s.seenInThisFrame && !s.touchState with
    | some i =>
      obtain ⟨s, hslot, hs⟩ := findIdx?_getElem? hfree
      simp only [Bool.and_eq_true, Bool.not_eq_true'] at hs
      rw [store_slots (List.getElem?_eq_some_iff.mp hslot).1]
      exact .new hslot hs.2 hnew
    | none =>
      simp only []
      rw [store_none]
      exact .dropped hnew

/-- The valid contact that a value completes. -/
def completes (td : MtDevice) (e : MtEvent) : Option MtSlot :=
  if e.claimed then
    (td.takeValue e).bind fun td =>
      if e.usage = td.lastSlotField ∧ td.curvalid then some { td.curdata with seenInThisFrame := true }
      else none
  else none

theorem takeValue_slots (h : td.takeValue e = some td') :
    td'.slots = td.slots ∧ td'.mtclass = td.mtclass := by
  unfold takeValue at h
  split at h
  case h_11 => cases h
  all_goals
    cases h
    try split
    all_goals exact ⟨rfl, rfl⟩

theorem mtCompleteSlot_invalid (h : td.curvalid = false) : td.mtCompleteSlot.slots = td.slots := by
  simp [mtCompleteSlot, h]

theorem mtCompleteSlot_valid (hclass : td.mtclass.LooksUp) (h : td.curvalid = true) :
    Stored td.slots { td.curdata with seenInThisFrame := true } td.mtCompleteSlot.slots := by
  let seen := { td with curdata := { td.curdata with seenInThisFrame := true } }
  have hslot : seen.mtComputeSlot = seen.findSlotFromContactid := mtComputeSlot_eq hclass
  have hstored := store_find seen
  rw [← hslot] at hstored
  simpa [mtCompleteSlot, h, seen] using hstored

theorem mtCompleteSlot_mtclass (td : MtDevice) : td.mtCompleteSlot.mtclass = td.mtclass := by
  unfold mtCompleteSlot store
  dsimp only
  split
  · split <;> rfl
  · rfl

/-- A value stores the contact that it completes, and leaves the slots alone if there is none. -/
theorem takeEvent_slots (hclass : td.mtclass.LooksUp) (h : td.takeEvent e = some td') :
    td'.mtclass = td.mtclass ∧
      (td.completes e = none ∧ td'.slots = td.slots ∨
        ∃ contact, td.completes e = some contact ∧ Stored td.slots contact td'.slots) := by
  unfold takeEvent at h
  split at h
  · rename_i hclaimed
    obtain ⟨taken, htaken, rfl⟩ := Option.map_eq_some_iff.mp h
    obtain ⟨hslots, hmtclass⟩ := takeValue_slots htaken
    by_cases hlast : e.usage = taken.lastSlotField
    · rw [if_pos hlast, mtCompleteSlot_mtclass]
      refine ⟨hmtclass, ?_⟩
      by_cases hvalid : taken.curvalid = true
      · have hstored := mtCompleteSlot_valid (hmtclass ▸ hclass) hvalid
        rw [hslots] at hstored
        exact .inr ⟨_, by simp [completes, hclaimed, htaken, hlast, hvalid], hstored⟩
      · rw [mtCompleteSlot_invalid (Bool.of_not_eq_true hvalid)]
        exact .inl ⟨by simp [completes, hclaimed, htaken, hvalid], hslots⟩
    · rw [if_neg hlast]
      exact ⟨hmtclass, .inl ⟨by simp [completes, hclaimed, htaken, hlast], hslots⟩⟩
  · cases h

/-- What completes a contact is handled. -/
theorem takeEvent_of_completes (h : td.completes e = some contact) :
    ∃ td', td.takeEvent e = some td' := by
  unfold completes at h
  split at h
  · rename_i hclaimed
    obtain ⟨taken, htaken, -⟩ := Option.bind_eq_some_iff.mp h
    exact ⟨_, by rw [takeEvent, if_pos hclaimed, htaken]; rfl⟩
  · cases h

/-- At the end of a report slots are released, and are no longer seen. -/
def endFrame (notSeenMeansUp : Bool) (s : MtSlot) : MtSlot :=
  { s.release notSeenMeansUp with seenInThisFrame := false }

theorem endFrame_contactid (b : Bool) (s : MtSlot) : (endFrame b s).contactid = s.contactid := by
  unfold endFrame MtSlot.release
  split <;> rfl

theorem endFrame_touchState (b : Bool) (s : MtSlot) (h : (endFrame b s).touchState = true) :
    s.touchState = true := by
  unfold endFrame MtSlot.release at h
  split at h
  · cases h
  · exact h

/-- A step: what the value stores, and what the end of the report releases. -/
theorem mtStep_cases (hclass : td.mtclass.LooksUp) (h : mtStep td e = some td') :
    td'.mtclass = td.mtclass ∧
      ∃ slots, (slots = td.slots ∨ ∃ contact, Stored td.slots contact slots) ∧
        (td'.slots = slots ∨ ∃ b, td'.slots = slots.map (endFrame b)) := by
  cases h
  cases htaken : td.takeEvent e with
  | none =>
    have hevent : td.mtEvent e = (td, []) := by simp [mtEvent, htaken]
    rw [hevent]
    exact ⟨rfl, td.slots, .inl rfl, .inl rfl⟩
  | some taken =>
    obtain ⟨hmtclass, hslots⟩ := takeEvent_slots hclass htaken
    have hstored : taken.slots = td.slots ∨ ∃ contact, Stored td.slots contact taken.slots := by
      rcases hslots with ⟨-, hsame⟩ | ⟨contact, -, hstored⟩
      · exact .inl hsame
      · exact .inr ⟨contact, hstored⟩
    by_cases hlast : e.fieldIndex = taken.lastFieldIndex ∧ taken.numExpected ≤ taken.numReceived
    · have hevent : td.mtEvent e = taken.mtEmitEvent := by simp [mtEvent, htaken, hlast]
      rw [hevent]
      refine ⟨hmtclass, taken.slots, hstored, .inr ⟨taken.mtclass.has mtQuirkNotSeenMeansUp, ?_⟩⟩
      simp [mtEmitEvent, endFrame, Function.comp_def]
    · have hevent : td.mtEvent e = (taken, []) := by simp [mtEvent, htaken, hlast]
      rw [hevent]
      exact ⟨hmtclass, taken.slots, hstored, .inl rfl⟩

/-! ## One slot for a contact -/

theorem Stored.unique {slots slots' : List MtSlot} (hstored : Stored slots contact slots')
    (h : UniqueContacts slots) : UniqueContacts slots' := by
  cases hstored with
  | again hslot htouch hcontact =>
    refine UniqueLive.set h fun j s' hj htouch' hcontact' => ?_
    exact h j _ s' _ hj hslot htouch' htouch (hcontact'.trans hcontact.symm)
  | new hslot hfree hnew =>
    refine UniqueLive.set h fun j s' hj htouch' hcontact' => ?_
    exact absurd hcontact' (hnew s' (List.mem_of_getElem? hj) htouch')
  | dropped hnew => exact h

/-- The class looks slots up, and there is one slot for a contact. -/
structure ContactInv (td : MtDevice) : Prop where
  looksUp : td.mtclass.LooksUp
  unique : UniqueContacts td.slots

theorem ContactInv.step (h : td.ContactInv) (hstep : mtStep td e = some td') : td'.ContactInv := by
  obtain ⟨hmtclass, slots, hstored, hended⟩ := mtStep_cases h.looksUp hstep
  refine ⟨hmtclass ▸ h.looksUp, ?_⟩
  have hunique : UniqueContacts slots := by
    rcases hstored with rfl | ⟨contact, hstored⟩
    · exact h.unique
    · exact hstored.unique h.unique
  rcases hended with hsame | ⟨b, hended⟩
  · rw [hsame]
    exact hunique
  · rw [hended]
    exact UniqueLive.map hunique (endFrame_contactid b) (endFrame_touchState b)

theorem ContactInv.mtProbe {mtclass : MtClass} (hclass : mtclass.LooksUp) (maxcontacts : UInt8)
    (lastSlotField : Usage) (lastFieldIndex : Nat) :
    (mtProbe mtclass maxcontacts lastSlotField lastFieldIndex).ContactInv where
  looksUp := hclass
  unique := UniqueLive.of_dead fun s hs => by rw [List.eq_of_mem_replicate hs]; rfl

/-! ## A slot that is kept -/

/-- The slot is that of the contact. -/
def Holds (td : MtDevice) (i : Nat) (id : Int) : Prop := ∃ s, td.slots[i]? = some s ∧ s.contactid = id

def Touches (td : MtDevice) (i : Nat) : Prop := ∃ s, td.slots[i]? = some s ∧ s.touchState = true

theorem Touches.touchState {s : MtSlot} (h : td.Touches i) (hslot : td.slots[i]? = some s) :
    s.touchState = true := by
  obtain ⟨s', hslot', htouch⟩ := h
  rw [hslot] at hslot'
  cases hslot'
  exact htouch

/-- A slot that touches stays as it is, or the contact is stored in it that touches in it. -/
theorem Stored.touching {slots slots' : List MtSlot} {s : MtSlot} (hstored : Stored slots contact slots')
    (hslot : slots[i]? = some s) (htouch : s.touchState = true) :
    slots'[i]? = some s ∨ slots'[i]? = some contact ∧ contact.contactid = s.contactid := by
  have hi : i < slots.length := (List.getElem?_eq_some_iff.mp hslot).1
  cases hstored with
  | @again j s' hslot' htouch' hcontact =>
    by_cases hij : j = i
    · subst hij
      rw [hslot] at hslot'
      cases hslot'
      exact .inr ⟨by simp [hi], hcontact.symm⟩
    · exact .inl ((List.getElem?_set_ne hij).trans hslot)
  | @new j s' hslot' hfree hnew =>
    have hij : j ≠ i := by
      rintro rfl
      rw [hslot] at hslot'
      cases hslot'
      rw [htouch] at hfree
      cases hfree
    exact .inl ((List.getElem?_set_ne hij).trans hslot)
  | dropped hnew => exact .inl hslot

/-- A slot that touches is not given to another contact. -/
theorem Stored.holds {slots slots' : List MtSlot} {s : MtSlot} (hstored : Stored slots contact slots')
    (hslot : slots[i]? = some s) (htouch : s.touchState = true) :
    ∃ s', slots'[i]? = some s' ∧ s'.contactid = s.contactid := by
  rcases hstored.touching hslot htouch with hsame | ⟨hnew, hcontact⟩
  · exact ⟨s, hsame, rfl⟩
  · exact ⟨contact, hnew, hcontact⟩

theorem Holds.step {id : Int} (hinv : td.ContactInv) (htouch : td.Touches i) (h : td.Holds i id)
    (hstep : mtStep td e = some td') : td'.Holds i id := by
  obtain ⟨s, hslot, rfl⟩ := h
  obtain ⟨-, slots, hstored, hended⟩ := mtStep_cases hinv.looksUp hstep
  have hkept : ∃ s', slots[i]? = some s' ∧ s'.contactid = s.contactid := by
    rcases hstored with rfl | ⟨contact, hstored⟩
    · exact ⟨s, hslot, rfl⟩
    · exact hstored.holds hslot (htouch.touchState hslot)
  obtain ⟨s', hslot', hcontact⟩ := hkept
  rcases hended with hsame | ⟨b, hended⟩
  · exact ⟨s', by rw [hsame]; exact hslot', hcontact⟩
  · refine ⟨endFrame b s', ?_, (endFrame_contactid b s').trans hcontact⟩
    rw [hended, List.getElem?_map, hslot']
    rfl

/-- A report of a contact that touches goes to its slot. -/
theorem Holds.stored {id : Int} (hinv : td.ContactInv) (htouch : td.Touches i) (h : td.Holds i id)
    (hcompletes : td.completes e = some contact) (hid : contact.contactid = id) :
    ∃ td', td.takeEvent e = some td' ∧ td'.slots = td.slots.set i contact := by
  obtain ⟨s, hslot, rfl⟩ := h
  obtain ⟨taken, htaken⟩ := takeEvent_of_completes hcompletes
  refine ⟨taken, htaken, ?_⟩
  obtain ⟨-, ⟨hnone, -⟩ | ⟨contact', hcontact, hstored⟩⟩ := takeEvent_slots hinv.looksUp htaken
  · rw [hcompletes] at hnone
    cases hnone
  · rw [hcompletes] at hcontact
    cases hcontact
    generalize taken.slots = slots at hstored ⊢
    cases hstored with
    | @again j s' hslot' htouch' hcontact' =>
      have hij : j = i :=
        hinv.unique j i s' s hslot' hslot htouch' (htouch.touchState hslot) (hcontact'.trans hid)
      rw [hij]
    | new hslot' hfree hnew =>
      exact absurd hid.symm (hnew s (List.mem_of_getElem? hslot) (htouch.touchState hslot))
    | dropped hnew =>
      exact absurd hid.symm (hnew s (List.mem_of_getElem? hslot) (htouch.touchState hslot))

/-- Over a run in which the slot touches before every value. -/
theorem Holds.run {id : Int} {es : List MtEvent} (hinv : td.ContactInv) (h : td.Holds i id)
    (hkeeps : RunMeets mtStep (fun td _ => td.Touches i) td es)
    (hrun : runSteps mtStep td es = some td') :
    td'.ContactInv ∧ td'.Holds i id :=
  runSteps_invariant_of_meets (fun td => td.ContactInv ∧ td.Holds i id)
    (fun _ _ _ htouch h hstep => ⟨h.1.step hstep, Holds.step h.1 htouch h.2 hstep⟩) hkeeps ⟨hinv, h⟩ hrun

end MtDevice

open MtDevice in
/-- No two slots that touch have one contact, and the valid reports of a contact go to the slot in which
    it touches for as long as that slot touches. -/
theorem contact_identity {mtclass : MtClass} (hclass : mtclass.LooksUp) {maxcontacts : UInt8}
    {lastSlotField : Usage} {lastFieldIndex : Nat} {past : List MtEvent} {td : MtDevice}
    (hpast : runSteps mtStep (mtProbe mtclass maxcontacts lastSlotField lastFieldIndex) past = some td) :
    UniqueContacts td.slots ∧
      ∀ i slot, td.slots[i]? = some slot → slot.touchState = true →
        ∀ es e later, RunMeets mtStep (fun td _ => td.Touches i) td (es ++ [e]) →
          runSteps mtStep td es = some later →
          ∀ contact, later.completes e = some contact → contact.contactid = slot.contactid →
            ∃ taken, later.takeEvent e = some taken ∧ taken.slots = later.slots.set i contact := by
  have hinv : td.ContactInv :=
    runSteps_invariant ContactInv (fun _ => True) (fun _ _ _ _ h hstep => h.step hstep)
      (fun _ _ => trivial) (.mtProbe hclass maxcontacts lastSlotField lastFieldIndex) hpast
  refine ⟨hinv.unique, ?_⟩
  intro i slot hslot htouch es e later hkeeps hrun contact hcompletes hid
  obtain ⟨hkept, hlast⟩ := RunMeets.append_iff.mp hkeeps
  obtain ⟨hlater, hholds⟩ := Holds.run hinv ⟨slot, hslot, rfl⟩ hkept hrun
  exact hholds.stored hlater (hlast later hrun).1 hcompletes hid

/-! ## A finger -/

/-- A panel of the default class whose contacts end with the value of `HID_GD_Y`. -/
def panel : MtDevice := mtProbe mtClsDefault 2 .y 2

def fingerDown : List MtEvent := [⟨true, 0, .tipSwitch, 1⟩, ⟨true, 1, .contactId, 7⟩]

def fingerAt (y : Int) : MtEvent := ⟨true, 2, .y, y⟩

/-- The panel after the first report of the finger, and before the last value of the second one. -/
def touched : MtDevice := (runSteps mtStep panel (fingerDown ++ [fingerAt 10])).get (by rfl)
def moving : MtDevice := (runSteps mtStep touched fingerDown).get (by rfl)

theorem contact_identity_finger :
    ∃ taken, moving.takeEvent (fingerAt 20) = some taken ∧
      taken.slots = moving.slots.set 0 ⟨0, 20, 0, 0, 0, 7, true, true⟩ := by
  have hclass : mtClsDefault.LooksUp := by decide
  have hpast : runSteps mtStep panel (fingerDown ++ [fingerAt 10]) = some touched := by rfl
  have hrun : runSteps mtStep touched fingerDown = some moving := by rfl
  have hkeeps : RunMeets mtStep (fun td _ => td.Touches 0) touched (fingerDown ++ [fingerAt 20]) := by
    refine ⟨⟨_, rfl, rfl⟩, fun td1 h1 => ?_⟩
    cases h1
    refine ⟨⟨_, rfl, rfl⟩, fun td2 h2 => ?_⟩
    cases h2
    exact ⟨⟨_, rfl, rfl⟩, fun _ _ => trivial⟩
  exact (contact_identity hclass hpast).2 0 ⟨0, 10, 0, 0, 0, 7, true, false⟩ rfl rfl fingerDown
    (fingerAt 20) moving hkeeps hrun _ rfl rfl

end AndroidPatch.Hid
