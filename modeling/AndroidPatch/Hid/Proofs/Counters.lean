import AndroidPatch.Hid.Proofs.Mapping

/-!
# Counters

When the driver calls `mt_emit_event` depends on two counters only (`FrameCount`), and these on the values
that it takes.
-/

namespace AndroidPatch.Hid

/-- The contacts received and the contacts expected. -/
structure FrameCount where
  received : UInt8
  expected : UInt8
  deriving DecidableEq, Repr

def MtDevice.count (td : MtDevice) : FrameCount := ⟨td.numReceived, td.numExpected⟩

def Usage.handled : Usage → Bool
  | .other _ => false
  | _ => true

/-- The driver handles a value itself. -/
def MtEvent.handled (e : MtEvent) : Bool := e.claimed && e.usage.handled

/-- The contacts expected after a value. -/
def expectedAfter (x : UInt8) (e : MtEvent) : UInt8 :=
  if e.usage = .contactCount ∧ e.value ≠ 0 then UInt8.ofNat (e.value % 256).toNat else x

/-- The contacts expected after some values. -/
def counted (x : UInt8) (es : List MtEvent) : UInt8 := es.foldl expectedAfter x

theorem expectedAfter_of_ne {x : UInt8} {e : MtEvent} (h : e.usage ≠ .contactCount) : expectedAfter x e = x :=
  if_neg fun hcount => h hcount.1

/-- How many frames have been ended. -/
def syncs (out : List InputEvent) : Nat := out.countP (· == .sync)

namespace FrameCount

/-- The counters after a value, and how many frames it ends. -/
def take (last : Usage) (index : Nat) (c : FrameCount) (e : MtEvent) : FrameCount × Nat :=
  if e.handled then
    let received := if e.usage = last then c.received + 1 else c.received
    let expected := expectedAfter c.expected e
    if e.fieldIndex = index ∧ expected ≤ received then (⟨0, expected⟩, 1) else (⟨received, expected⟩, 0)
  else (c, 0)

def takeAll (last : Usage) (index : Nat) (c : FrameCount) : List MtEvent → FrameCount × Nat
  | [] => (c, 0)
  | e :: es =>
      let (c, n) := c.take last index e
      let (c, k) := c.takeAll last index es
      (c, n + k)

variable {last : Usage} {index : Nat} {c : FrameCount} {es es' : List MtEvent}

theorem takeAll_cons (e : MtEvent) : c.takeAll last index (e :: es) =
    (((c.take last index e).1.takeAll last index es).1,
      (c.take last index e).2 + ((c.take last index e).1.takeAll last index es).2) := rfl

theorem takeAll_append : c.takeAll last index (es ++ es') =
    (((c.takeAll last index es).1.takeAll last index es').1,
      (c.takeAll last index es).2 + ((c.takeAll last index es).1.takeAll last index es').2) := by
  induction es generalizing c with
  | nil => simp [takeAll]
  | cons e es ih =>
    rw [List.cons_append, takeAll_cons, ih, takeAll_cons, Nat.add_assoc]

/-- Values that end no slot and are not of the last field. -/
theorem takeAll_quiet (h : ∀ e ∈ es, e.claimed = true ∧ e.usage ≠ last ∧ e.fieldIndex ≠ index) :
    c.takeAll last index es = (⟨c.received, counted c.expected es⟩, 0) := by
  induction es generalizing c with
  | nil => rfl
  | cons e es ih =>
    obtain ⟨hclaimed, hlast, hindex⟩ := h e List.mem_cons_self
    have htake : c.take last index e = (⟨c.received, expectedAfter c.expected e⟩, 0) := by
      unfold take MtEvent.handled
      rw [hclaimed, Bool.true_and]
      cases hhandled : e.usage.handled with
      | true => simp [hlast, hindex]
      | false =>
        have hcount : e.usage ≠ .contactCount := by
          intro hcount
          rw [hcount] at hhandled
          cases hhandled
        simp [expectedAfter_of_ne hcount]
    rw [takeAll_cons, htake, ih fun e' he' => h e' (List.mem_cons_of_mem _ he')]
    rfl

end FrameCount

theorem counted_of_forall {x : UInt8} {es : List MtEvent} (h : ∀ e ∈ es, e.usage ≠ .contactCount) :
    counted x es = x := by
  induction es with
  | nil => rfl
  | cons e es ih =>
    rw [counted, List.foldl_cons, expectedAfter_of_ne (h e List.mem_cons_self)]
    exact ih fun e' he' => h e' (List.mem_cons_of_mem _ he')

theorem counted_append (x : UInt8) (es es' : List MtEvent) :
    counted x (es ++ es') = counted (counted x es) es' :=
  List.foldl_append

namespace MtDevice

variable {td td' : MtDevice} {e : MtEvent}

theorem takeValue_eq_none_iff : td.takeValue e = none ↔ e.usage.handled = false := by
  unfold takeValue
  cases e.usage <;> simp [Usage.handled]

theorem takeValue_count (h : td.takeValue e = some td') :
    td'.count = ⟨td.numReceived, expectedAfter td.numExpected e⟩ := by
  by_cases hcount : e.usage = .contactCount
  · rw [takeValue, hcount] at h
    obtain rfl := Option.some.inj h
    by_cases hvalue : e.value = 0 <;> simp [count, expectedAfter, hcount, hvalue]
  · rw [expectedAfter_of_ne hcount]
    unfold takeValue at h
    split at h
    case h_10 =>
      rename_i hcount'
      exact absurd hcount' hcount
    case h_11 => cases h
    all_goals
      cases h
      try split
      all_goals rfl

theorem mtCompleteSlot_count (td : MtDevice) :
    td.mtCompleteSlot.count = ⟨td.numReceived + 1, td.numExpected⟩ := by
  unfold mtCompleteSlot store count
  dsimp only
  split
  · split <;> rfl
  · rfl

theorem syncs_mtEmitEvent (td : MtDevice) : syncs td.mtEmitEvent.2 = 1 := by
  have hslots : ∀ s i, InputEvent.sync ∉ MtSlot.events s i := by
    intro s i hmem
    unfold MtSlot.events at hmem
    split at hmem <;> simp at hmem
  unfold syncs mtEmitEvent
  dsimp only
  rw [List.countP_append, List.countP_eq_zero.mpr]
  · rfl
  · intro event hevent
    obtain ⟨⟨s, i⟩, -, hevent⟩ := List.mem_flatMap.mp hevent
    intro hsync
    rw [eq_of_beq hsync] at hevent
    exact hslots s i hevent

theorem takeEvent_count (h : td.takeEvent e = some td') :
    e.handled = true ∧
      td'.count = ⟨if e.usage = td.lastSlotField then td.numReceived + 1 else td.numReceived,
        expectedAfter td.numExpected e⟩ := by
  unfold takeEvent at h
  split at h
  · rename_i hclaimed
    obtain ⟨taken, htaken, rfl⟩ := Option.map_eq_some_iff.mp h
    have husage : e.usage.handled = true := by
      by_contra hnot
      rw [takeValue_eq_none_iff.mpr (Bool.of_not_eq_true hnot)] at htaken
      cases htaken
    have hhandled : e.handled = true := by rw [MtEvent.handled, hclaimed, husage, Bool.true_and]
    have hcount := takeValue_count htaken
    obtain ⟨hreceived, hexpected⟩ := FrameCount.mk.inj hcount
    refine ⟨hhandled, ?_⟩
    rw [(takeValue_same htaken).lastSlotField]
    by_cases hlast : e.usage = td.lastSlotField
    · rw [if_pos hlast, if_pos hlast, mtCompleteSlot_count, hreceived, hexpected]
    · rw [if_neg hlast, if_neg hlast, hcount]
  · cases h

theorem takeEvent_eq_none_iff : td.takeEvent e = none ↔ e.handled = false := by
  unfold takeEvent MtEvent.handled
  split
  · rename_i hclaimed
    rw [Option.map_eq_none_iff, takeValue_eq_none_iff, hclaimed, Bool.true_and]
  · rename_i hclaimed
    rw [Bool.of_not_eq_true hclaimed, Bool.false_and]
    exact iff_of_true rfl rfl

/-- The counters follow the device. -/
theorem mtEvent_count (td : MtDevice) (e : MtEvent) :
    td.count.take td.lastSlotField td.lastFieldIndex e =
      ((td.mtEvent e).1.count, syncs (td.mtEvent e).2) := by
  unfold mtEvent FrameCount.take
  cases htaken : td.takeEvent e with
  | none =>
    rw [takeEvent_eq_none_iff.mp htaken]
    rfl
  | some taken =>
    obtain ⟨hhandled, hcount⟩ := takeEvent_count htaken
    obtain ⟨hreceived, hexpected⟩ := FrameCount.mk.inj hcount
    rw [hhandled, if_pos rfl]
    dsimp only [count]
    rw [← hreceived, ← hexpected, (takeEvent_same htaken).lastFieldIndex]
    split
    · exact congrArg (Prod.mk _) (syncs_mtEmitEvent taken).symm
    · rfl

theorem mtEvents_count (td : MtDevice) (es : List MtEvent) :
    td.count.takeAll td.lastSlotField td.lastFieldIndex es =
      ((td.mtEvents es).1.count, syncs (td.mtEvents es).2) := by
  induction es generalizing td with
  | nil => rfl
  | cons e es ih =>
    have hsame := mtEvent_same td e
    have hrest := ih (td.mtEvent e).1
    rw [hsame.lastSlotField, hsame.lastFieldIndex] at hrest
    rw [FrameCount.takeAll_cons, mtEvent_count td e, hrest, mtEvents_cons]
    exact congrArg (Prod.mk _) List.countP_append.symm

theorem mtEvents_same (td : MtDevice) (es : List MtEvent) : td.SameFields (td.mtEvents es).1 := by
  induction es generalizing td with
  | nil => exact .refl td
  | cons e es ih => exact (mtEvent_same td e).trans (ih (td.mtEvent e).1)

end MtDevice

end AndroidPatch.Hid
