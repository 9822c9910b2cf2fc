import AndroidPatch.Hid.Mapping
import AndroidPatch.Hid.Proofs.Multitouch

/-!
# The slots of a panel

The number of contacts that the mapping finds is the one that the input layer is told of, and no slot beyond
it is ever reported.
-/

namespace AndroidPatch.Hid

/-- A usage of a touch screen or a touch pad. -/
def FieldUsage.touches (u : FieldUsage) : Bool :=
  match u.application with
  | .touchscreen => true
  | .touchpad => true
  | .other _ => false

def FieldUsage.isContactid (u : FieldUsage) : Bool := u.touches && u.usage == .contactId

/-- The number of contacts that the features give, or 0. -/
def contactLimit (cls : MtClass) (features : List FeatureUsage) : UInt8 :=
  match features.reverse.find? fun f => f.hid = hidDgContactmax with
  | none => 0
  | some f =>
      if cls.mapping.maxcontacts ≠ 0 then cls.mapping.maxcontacts else UInt8.ofNat (f.value % 256).toNat

/-- `MT_DEFAULT_MAXCONTACT` where no limit is known. -/
def orDefault (n : UInt8) : UInt8 := if n = 0 then mtDefaultMaxcontact else n

theorem orDefault_idem (n : UInt8) : orDefault (orDefault n) = orDefault n := by
  by_cases hzero : n = 0
  · rw [hzero]
    rfl
  · have hsame : orDefault n = n := if_neg hzero
    rw [hsame, hsame]

theorem mtMapFeatures_maxcontacts (cls : MtClass) (features : List FeatureUsage) :
    (mtMapFeatures cls features).maxcontacts = contactLimit cls features := by
  unfold mtMapFeatures contactLimit
  induction features using List.reverseRecOn with
  | nil => rfl
  | append_singleton features f ih =>
    rw [List.foldl_append, List.foldl_cons, List.foldl_nil, List.reverse_append, List.reverse_singleton,
      List.singleton_append, List.find?_cons, mtFeatureMapping]
    by_cases hmax : f.hid = hidDgContactmax
    · rw [if_pos hmax, decide_eq_true hmax]
    · rw [if_neg hmax, decide_eq_false hmax]
      exact ih

/-! ## One usage -/

section Usage

variable (cls : MtClass) (m : Mapping) {u : FieldUsage}

theorem noteSlotField_maxcontacts : (m.noteSlotField u).maxcontacts = m.maxcontacts := by
  unfold Mapping.noteSlotField
  split <;> rfl

theorem noteField_maxcontacts : (m.noteField u).maxcontacts = m.maxcontacts := by
  unfold Mapping.noteField
  split <;> rfl

/-- Only a contact is told of with a number of slots, and only it sets that number. -/
theorem mapUsage_contacts (u : FieldUsage) :
    (m.mapUsage cls u).1.maxcontacts =
        (if u.usage == .contactId then orDefault m.maxcontacts else m.maxcontacts) ∧
      ∀ n, .initSlots n ∈ (m.mapUsage cls u).2.1 →
        u.usage = .contactId ∧ n = orDefault m.maxcontacts := by
  unfold Mapping.mapUsage
  cases husage : u.usage with
  | contactId => exact ⟨rfl, fun n hn => ⟨rfl, InputSetup.initSlots.inj (List.mem_singleton.mp hn)⟩⟩
  | other hid =>
    dsimp only
    refine ⟨?_, fun n hn => ?_⟩
    · split
      · exact noteField_maxcontacts m
      · split <;> rfl
    · split at hn
      · cases hn
      · split at hn <;> cases hn
  | contactCount => exact ⟨noteField_maxcontacts m, fun n hn => nomatch hn⟩
  | _ => exact ⟨noteSlotField_maxcontacts m, fun n hn => by simp [setAbs] at hn⟩

theorem mtInputMapping_contacts (u : FieldUsage) :
    (mtInputMapping cls m u).1.maxcontacts =
        (if u.isContactid then orDefault m.maxcontacts else m.maxcontacts) ∧
      ∀ n, .initSlots n ∈ (mtInputMapping cls m u).2.1 →
        u.isContactid = true ∧ n = orDefault m.maxcontacts := by
  obtain ⟨hmax, hinit⟩ := mapUsage_contacts cls m u
  unfold mtInputMapping FieldUsage.isContactid FieldUsage.touches
  cases u.application with
  | other hid => exact ⟨rfl, fun n hn => nomatch hn⟩
  | touchscreen =>
    refine ⟨hmax, fun n hn => ?_⟩
    obtain ⟨husage, hn⟩ := hinit n ((List.mem_cons.mp hn).resolve_left nofun)
    exact ⟨by rw [husage]; rfl, hn⟩
  | touchpad =>
    refine ⟨hmax, fun n hn => ?_⟩
    obtain ⟨husage, hn⟩ := hinit n ((List.mem_cons.mp hn).resolve_left nofun)
    exact ⟨by rw [husage]; rfl, hn⟩

end Usage

/-! ## All usages -/

theorem mtMapInputs_cons (cls : MtClass) (m : Mapping) (u : FieldUsage) (inputs : List FieldUsage) :
    mtMapInputs cls m (u :: inputs) =
      ((mtMapInputs cls (mtInputMapping cls m u).1 inputs).1,
        (mtInputMapping cls m u).2.1 ++ (mtMapInputs cls (mtInputMapping cls m u).1 inputs).2) := rfl

theorem mtMapInputs_maxcontacts (cls : MtClass) (m : Mapping) (inputs : List FieldUsage) :
    (mtMapInputs cls m inputs).1.maxcontacts =
      if inputs.any FieldUsage.isContactid then orDefault m.maxcontacts else m.maxcontacts := by
  induction inputs generalizing m with
  | nil => rfl
  | cons u inputs ih =>
    rw [mtMapInputs_cons, List.any_cons, ih, (mtInputMapping_contacts cls m u).1]
    cases u.isContactid with
    | false => rfl
    | true => simp [orDefault_idem]

theorem initSlots_mem (cls : MtClass) (m : Mapping) (inputs : List FieldUsage) {n : UInt8}
    (hn : .initSlots n ∈ (mtMapInputs cls m inputs).2) :
    inputs.any FieldUsage.isContactid = true ∧ n = orDefault m.maxcontacts := by
  induction inputs generalizing m with
  | nil => cases hn
  | cons u inputs ih =>
    obtain ⟨hmax, hinit⟩ := mtInputMapping_contacts cls m u
    rw [mtMapInputs_cons] at hn
    rw [List.any_cons]
    rcases List.mem_append.mp hn with hn | hn
    · obtain ⟨hcontact, hn⟩ := hinit n hn
      exact ⟨by rw [hcontact]; rfl, hn⟩
    · obtain ⟨hany, hn⟩ := ih _ hn
      rw [hmax] at hn
      refine ⟨by rw [hany, Bool.or_true], hn.trans ?_⟩
      split
      · exact orDefault_idem _
      · rfl

/-! ## Slots that are reported -/

namespace MtDevice

/-- A list of values is taken. -/
def mtEvents (td : MtDevice) : List MtEvent → MtDevice × List InputEvent
  | [] => (td, [])
  | e :: es =>
      let (td, out) := td.mtEvent e
      let (td, outs) := td.mtEvents es
      (td, out ++ outs)

variable {td td' : MtDevice} {e : MtEvent}

theorem mtEvents_cons (td : MtDevice) (e : MtEvent) (es : List MtEvent) :
    td.mtEvents (e :: es) =
      (((td.mtEvent e).1.mtEvents es).1, (td.mtEvent e).2 ++ ((td.mtEvent e).1.mtEvents es).2) := rfl

/-- What a device does not change. -/
structure SameFields (td td' : MtDevice) : Prop where
  lastSlotField : td'.lastSlotField = td.lastSlotField
  lastFieldIndex : td'.lastFieldIndex = td.lastFieldIndex
  maxcontacts : td'.maxcontacts = td.maxcontacts

theorem SameFields.refl (td : MtDevice) : td.SameFields td := ⟨rfl, rfl, rfl⟩

theorem SameFields.trans {td'' : MtDevice} (h : td.SameFields td') (h' : td'.SameFields td'') :
    td.SameFields td'' :=
  ⟨h'.1.trans h.1, h'.2.trans h.2, h'.3.trans h.3⟩

theorem takeValue_same (h : td.takeValue e = some td') : td.SameFields td' := by
  unfold takeValue at h
  split at h
  case h_11 => cases h
  all_goals
    cases h
    try split
    all_goals exact ⟨rfl, rfl, rfl⟩

theorem mtCompleteSlot_same (td : MtDevice) : td.SameFields td.mtCompleteSlot := by
  unfold mtCompleteSlot store
  dsimp only
  split
  · split <;> exact ⟨rfl, rfl, rfl⟩
  · exact ⟨rfl, rfl, rfl⟩

theorem takeEvent_same (h : td.takeEvent e = some td') : td.SameFields td' := by
  unfold takeEvent at h
  split at h
  · obtain ⟨taken, htaken, rfl⟩ := Option.map_eq_some_iff.mp h
    have hsame := takeValue_same htaken
    split
    · exact hsame.trans (mtCompleteSlot_same taken)
    · exact hsame
  · cases h

theorem mtEvent_same (td : MtDevice) (e : MtEvent) : td.SameFields (td.mtEvent e).1 := by
  unfold mtEvent
  cases htaken : td.takeEvent e with
  | none => exact .refl td
  | some taken =>
    have hsame := takeEvent_same htaken
    dsimp only
    split
    · exact hsame.trans ⟨rfl, rfl, rfl⟩
    · exact hsame

theorem mtSlot_mem_emitted {i : Nat} (hi : .mtSlot i ∈ td.mtEmitEvent.2) : i < td.maxcontacts.toNat := by
  rw [← td.slots_length]
  rcases List.mem_append.mp hi with hi | hi
  · obtain ⟨⟨s, j⟩, hs, hi⟩ := List.mem_flatMap.mp hi
    have hj : j < td.slots.length := by
      simpa using (List.mem_zipIdx hs).2.1
    have hij : i = j := by
      unfold MtSlot.events at hi
      split at hi <;> simpa using hi
    rwa [hij]
  · simp at hi

theorem mtSlot_mem_event {i : Nat} (hi : .mtSlot i ∈ (td.mtEvent e).2) : i < td.maxcontacts.toNat := by
  unfold mtEvent at hi
  cases htaken : td.takeEvent e with
  | none =>
    rw [htaken] at hi
    cases hi
  | some taken =>
    rw [htaken] at hi
    dsimp only at hi
    split at hi
    · rw [← (takeEvent_same htaken).maxcontacts]
      exact mtSlot_mem_emitted hi
    · cases hi

theorem mtSlot_mem {es : List MtEvent} {i : Nat} (hi : .mtSlot i ∈ (td.mtEvents es).2) :
    i < td.maxcontacts.toNat := by
  induction es generalizing td with
  | nil => cases hi
  | cons e es ih =>
    rw [mtEvents_cons] at hi
    rcases List.mem_append.mp hi with hi | hi
    · exact mtSlot_mem_event hi
    · have hlater := ih hi
      rwa [(mtEvent_same td e).maxcontacts] at hlater

end MtDevice

/-- For every class of devices, whatever the features and the fields: the input layer is told of as many
    slots as the driver has, and of at least one; no run reports a slot beyond them; and a limit of the class
    counts only where the device has the feature for it, and without any limit there are ten slots. -/
theorem slots_announced (driverData : Nat) (features : List FeatureUsage) (inputs : List FieldUsage) :
    (∀ n, .initSlots n ∈ (mtProbeMapped driverData features inputs).2 →
      n = (mtProbeMapped driverData features inputs).1.maxcontacts ∧ n ≠ 0) ∧
    (∀ es i, .mtSlot i ∈ ((mtProbeMapped driverData features inputs).1.mtEvents es).2 →
      i < (mtProbeMapped driverData features inputs).1.maxcontacts.toNat) ∧
    (mtProbeMapped driverData features inputs).1.maxcontacts =
      if inputs.any FieldUsage.isContactid ∧ contactLimit (mtClassOf driverData) features = 0 then
        mtDefaultMaxcontact
      else contactLimit (mtClassOf driverData) features := by
  have hmax : (mtProbeMapped driverData features inputs).1.maxcontacts =
      if inputs.any FieldUsage.isContactid then orDefault (contactLimit (mtClassOf driverData) features)
      else contactLimit (mtClassOf driverData) features := by
    rw [← mtMapFeatures_maxcontacts]
    exact mtMapInputs_maxcontacts _ _ inputs
  refine ⟨fun n hn => ?_, fun es i hi => MtDevice.mtSlot_mem hi, ?_⟩
  · obtain ⟨hany, hn⟩ := initSlots_mem _ _ inputs hn
    rw [mtMapFeatures_maxcontacts] at hn
    rw [hmax, if_pos hany, ← hn]
    refine ⟨rfl, ?_⟩
    rw [hn, orDefault]
    split
    · decide
    · assumption
  · rw [hmax]
    by_cases hany : inputs.any FieldUsage.isContactid = true
    · simp only [hany, true_and, if_true]
      rfl
    · rw [if_neg hany, if_neg fun h => hany h.1]

end AndroidPatch.Hid
