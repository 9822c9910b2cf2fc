import Mathlib.Data.List.Basic

/-!
# Multitouch panels

The state of `drivers/hid/hid-multitouch.c` and `mt_event`, which takes one value of a report at a time.
What the driver tells the input layer is returned beside the state; `hiddev` is left out.
-/

namespace AndroidPatch.Hid

/-! ## Classes of devices -/

/-- The quirks. -/
def mtQuirkNotSeenMeansUp : UInt32 := 1
def mtQuirkSlotIsContactid : UInt32 := 2
def mtQuirkCypress : UInt32 := 4
def mtQuirkSlotIsContactnumber : UInt32 := 8
def mtQuirkValidIsInrange : UInt32 := 16
def mtQuirkValidIsConfidence : UInt32 := 32
def mtQuirkEgalaxXyzFixup : UInt32 := 64
def mtQuirkSlotIsContactidMinusOne : UInt32 := 128

/-- `struct mt_class`, without what the mapping of the fields uses. -/
structure MtClass where
  name : Nat
  quirks : UInt32
  deriving DecidableEq, Repr

def MtClass.has (c : MtClass) (quirk : UInt32) : Bool := c.quirks &&& quirk != 0

/-- `MT_CLS_DEFAULT` -/
def mtClsDefault : MtClass := ⟨0x0001, mtQuirkNotSeenMeansUp⟩

/-- `mt_classes` (`hid-multitouch.c:134-180`) -/
def mtClasses : List MtClass :=
  [mtClsDefault,
    ⟨0x0002, mtQuirkValidIsConfidence⟩,
    ⟨0x0003, mtQuirkValidIsConfidence ||| mtQuirkSlotIsContactidMinusOne⟩,
    ⟨0x0004, mtQuirkValidIsInrange ||| mtQuirkSlotIsContactid⟩,
    ⟨0x0005, mtQuirkValidIsInrange ||| mtQuirkSlotIsContactnumber⟩,
    ⟨0x0006, mtQuirkNotSeenMeansUp ||| mtQuirkSlotIsContactid⟩,
    ⟨0x0101, mtQuirkValidIsConfidence ||| mtQuirkSlotIsContactid⟩,
    ⟨0x0102, mtQuirkNotSeenMeansUp ||| mtQuirkCypress⟩,
    ⟨0x0103, mtQuirkSlotIsContactid ||| mtQuirkValidIsInrange ||| mtQuirkEgalaxXyzFixup⟩]

/-- The class that `mt_probe` looks up. -/
def mtClassOf (driverData : Nat) : MtClass :=
  (mtClasses.find? fun c => driverData == c.name).getD mtClsDefault

/-! ## The device -/

/-- `struct mt_slot` -/
structure MtSlot where
  x : Int
  y : Int
  p : Int
  w : Int
  h : Int
  /-- the device ContactID assigned to this slot -/
  contactid : Int
  /-- is the touch valid? -/
  touchState : Bool
  /-- has this slot been updated -/
  seenInThisFrame : Bool
  deriving DecidableEq, Repr

/-- A slot that `kzalloc` has cleared. -/
def MtSlot.zero : MtSlot := ⟨0, 0, 0, 0, 0, 0, false, false⟩

/-- The usages that `mt_event` handles, and the others. -/
inductive Usage where
  | inRange
  | tipSwitch
  | confidence
  | contactId
  | tipPressure
  | x
  | y
  | width
  | height
  | contactCount
  | other (hid : Nat)
  deriving DecidableEq, Repr

/-- `struct mt_device` -/
structure MtDevice where
  curdata : MtSlot
  mtclass : MtClass
  lastFieldIndex : Nat
  lastSlotField : Usage
  numReceived : UInt8
  numExpected : UInt8
  maxcontacts : UInt8
  curvalid : Bool
  slots : List MtSlot
  slots_length : slots.length = maxcontacts.toNat

/-- The device after `mt_probe`; the mapping of the fields has found the number of contacts, the last
    field of a slot and the last field of a report. -/
def mtProbe (mtclass : MtClass) (maxcontacts : UInt8) (lastSlotField : Usage) (lastFieldIndex : Nat) :
    MtDevice where
  curdata := .zero
  mtclass := mtclass
  lastFieldIndex := lastFieldIndex
  lastSlotField := lastSlotField
  numReceived := 0
  numExpected := 0
  maxcontacts := maxcontacts
  curvalid := false
  slots := List.replicate maxcontacts.toNat .zero
  slots_length := List.length_replicate

namespace MtDevice

/-! ## The slot of a contact -/

/-- `cypress_compute_slot` -/
def cypressComputeSlot (td : MtDevice) : Int :=
  if td.curdata.contactid ≠ 0 ∨ td.numReceived = 0 then td.curdata.contactid else -1

/-- `find_slot_from_contactid` (`hid-multitouch.c:115-132`) -/
def findSlotFromContactid (td : MtDevice) : Int :=
  match td.slots.findIdx? fun s => s.contactid == td.curdata.contactid && s.touchState with
  | some i => i
  | none =>
      match td.slots.findIdx? fun s => !s.seenInThisFrame && !s.touchState with
      | some i => i
      | none => -1

/-- `mt_compute_slot` -/
def mtComputeSlot (td : MtDevice) : Int :=
  if td.mtclass.has mtQuirkSlotIsContactid then td.curdata.contactid
  else if td.mtclass.has mtQuirkCypress then td.cypressComputeSlot
  else if td.mtclass.has mtQuirkSlotIsContactnumber then td.numReceived.toNat
  else if td.mtclass.has mtQuirkSlotIsContactidMinusOne then td.curdata.contactid - 1
  else td.findSlotFromContactid

/-- `td->slots[slotnum] = td->curdata`, when the slot exists -/
def store (td : MtDevice) (slotnum : Int) : MtDevice :=
  if 0 ≤ slotnum ∧ slotnum < td.maxcontacts.toNat then
    { td with
      slots := td.slots.set slotnum.toNat td.curdata
      slots_length := by simp [td.slots_length] }
  else td

/-- `mt_complete_slot` (`hid-multitouch.c:383-395`) -/
def mtCompleteSlot (td : MtDevice) : MtDevice :=
  let td := { td with curdata := { td.curdata with seenInThisFrame := true } }
  let td := if td.curvalid then td.store td.mtComputeSlot else td
  { td with numReceived := td.numReceived + 1 }

end MtDevice

/-! ## The input layer -/

inductive AbsCode where
  | mtPositionX
  | mtPositionY
  | mtOrientation
  | mtPressure
  | mtTouchMajor
  | mtTouchMinor
  deriving DecidableEq, Repr

/-- What the driver tells the input layer. -/
inductive InputEvent where
  | mtSlot (i : Nat)
  | mtSlotState (active : Bool)
  | abs (code : AbsCode) (value : Int)
  | mtPointerEmulation
  | sync
  deriving DecidableEq, Repr

namespace MtSlot

/-- The slot as `mt_emit_event` reports it. -/
def release (notSeenMeansUp : Bool) (s : MtSlot) : MtSlot :=
  if notSeenMeansUp && !s.seenInThisFrame then { s with touchState := false } else s

/-- What is reported of a slot. -/
def events (s : MtSlot) (i : Nat) : List InputEvent :=
  [.mtSlot i, .mtSlotState s.touchState] ++
    if s.touchState then
      [.abs .mtPositionX s.x, .abs .mtPositionY s.y, .abs .mtOrientation (if s.w > s.h then 1 else 0),
        .abs .mtPressure s.p, .abs .mtTouchMajor (max s.w s.h / 2), .abs .mtTouchMinor (min s.w s.h / 2)]
    else []

end MtSlot

namespace MtDevice

/-- `mt_emit_event` (`hid-multitouch.c:402-437`) -/
def mtEmitEvent (td : MtDevice) : MtDevice × List InputEvent :=
  let reported := td.slots.map (·.release (td.mtclass.has mtQuirkNotSeenMeansUp))
  ({ td with
      slots := reported.map fun s => { s with seenInThisFrame := false }
      slots_length := by simp [reported, td.slots_length]
      numReceived := 0 },
    reported.zipIdx.flatMap (fun s => s.1.events s.2) ++ [.mtPointerEmulation, .sync])

end MtDevice

/-! ## Values of reports -/

/-- A value for `mt_event`: the input layer has claimed the device, the index of the field, the usage and
    the value. -/
structure MtEvent where
  claimed : Bool
  fieldIndex : Nat
  usage : Usage
  value : Int
  deriving DecidableEq, Repr

namespace MtDevice

/-- The `switch` of `mt_event`; other usages are left to the generic handling. -/
def takeValue (td : MtDevice) (e : MtEvent) : Option MtDevice :=
  let set := e.value != 0
  match e.usage with
  | .inRange => some (if td.mtclass.has mtQuirkValidIsInrange then { td with curvalid := set } else td)
  | .tipSwitch =>
      let td := if td.mtclass.has mtQuirkNotSeenMeansUp then { td with curvalid := set } else td
      some { td with curdata := { td.curdata with touchState := set } }
  | .confidence =>
      some (if td.mtclass.has mtQuirkValidIsConfidence then { td with curvalid := set } else td)
  | .contactId => some { td with curdata := { td.curdata with contactid := e.value } }
  | .tipPressure => some { td with curdata := { td.curdata with p := e.value } }
  | .x => some { td with curdata := { td.curdata with x := e.value } }
  | .y => some { td with curdata := { td.curdata with y := e.value } }
  | .width => some { td with curdata := { td.curdata with w := e.value } }
  | .height => some { td with curdata := { td.curdata with h := e.value } }
  | .contactCount =>
      -- subsequent packets are sent with a count of zero
      some (if e.value ≠ 0 then { td with numExpected := UInt8.ofNat (e.value % 256).toNat } else td)
  | .other _ => none

/-- `mt_event` before it calls `mt_emit_event`; absent when it handles nothing. -/
def takeEvent (td : MtDevice) (e : MtEvent) : Option MtDevice :=
  if e.claimed then
    (td.takeValue e).map fun td => if e.usage = td.lastSlotField then td.mtCompleteSlot else td
  else none

/-- `mt_event` (`hid-multitouch.c:439-507`) -/
def mtEvent (td : MtDevice) (e : MtEvent) : MtDevice × List InputEvent :=
  match td.takeEvent e with
  | none => (td, [])
  | some td =>
      if e.fieldIndex = td.lastFieldIndex ∧ td.numExpected ≤ td.numReceived then td.mtEmitEvent
      else (td, [])

end MtDevice

/-- One value is taken at a time. -/
def mtStep (td : MtDevice) (e : MtEvent) : Option MtDevice := some (td.mtEvent e).1

end AndroidPatch.Hid
