import AndroidPatch.Hid.Multitouch

/-!
# The fields of a multitouch panel

`mt_feature_mapping` and `mt_input_mapping` of `drivers/hid/hid-multitouch.c`, which hid-input calls for the
usages of a device while it is probed: for those of the feature reports first, and then for those of the other
reports in their order. What the driver tells the input layer about the axes is returned beside the state.
Left out are the input mode, and that the bounds of an eGalax axis are written back to its field.
-/

namespace AndroidPatch.Hid

def hidUsagePage : Nat := 0xffff0000
def hidDgContactmax : Nat := 0x000d0055

/-- `MT_DEFAULT_MAXCONTACT` -/
def mtDefaultMaxcontact : UInt8 := 10

/-- What `struct mt_class` has for the mapping; the noise ratios are 0 when they are not given. -/
structure MtClassMapping where
  snMove : Int
  snWidth : Int
  snHeight : Int
  snPressure : Int
  maxcontacts : UInt8
  deriving DecidableEq, Repr

/-- These members of `mt_classes`, by the name of the class. -/
def MtClass.mapping (c : MtClass) : MtClassMapping :=
  match c.name with
  | 0x0004 => ⟨0, 0, 0, 0, 2⟩
  | 0x0005 => ⟨0, 0, 0, 0, 2⟩
  | 0x0006 => ⟨0, 0, 0, 0, 2⟩
  | 0x0101 => ⟨2048, 128, 128, 0, 0⟩
  | 0x0102 => ⟨0, 0, 0, 0, 10⟩
  | 0x0103 => ⟨4096, 0, 0, 32, 2⟩
  | _ => ⟨0, 0, 0, 0, 0⟩

/-! ## Descriptors -/

/-- A usage of a feature report, with the value of its field. -/
structure FeatureUsage where
  hid : Nat
  value : Int
  deriving DecidableEq, Repr

/-- `field->application` -/
inductive Application where
  | touchscreen
  | touchpad
  | other (hid : Nat)
  deriving DecidableEq, Repr

/-- A usage of another report, with what the mapping reads of its field. -/
structure FieldUsage where
  fieldIndex : Nat
  application : Application
  logicalMinimum : Int
  logicalMaximum : Int
  collectionIndex : Nat
  usage : Usage
  deriving DecidableEq, Repr

/-! ## The input layer -/

inductive AxisCode where
  | mt (code : AbsCode)
  | x
  | y
  | pressure
  deriving DecidableEq, Repr

/-- What the driver tells the input layer while the fields are mapped. -/
inductive InputSetup where
  | propDirect
  | propPointer
  | mapAxis (code : AbsCode)
  | mapBtnTouch
  | absParams (code : AxisCode) (minimum maximum fuzz : Int)
  | initSlots (n : UInt8)
  deriving DecidableEq, Repr

/-- `set_abs` -/
def setAbs (code : AxisCode) (minimum maximum snratio : Int) : InputSetup :=
  .absParams code minimum maximum (if snratio ≠ 0 then (maximum - minimum).tdiv snratio else 0)

/-! ## The mapping -/

/-- What the mapping finds: the fields of `struct mt_device` that it sets. -/
structure Mapping where
  maxcontacts : UInt8
  lastMtCollection : Int
  lastSlotField : Usage
  lastFieldIndex : Nat
  deriving DecidableEq, Repr

/-- `kzalloc` has cleared the device, and `mt_probe` has set the collection. -/
def Mapping.start : Mapping := ⟨0, -1, .other 0, 0⟩

/-- `mt_feature_mapping` (`hid-multitouch.c:180-197`) -/
def mtFeatureMapping (cls : MtClass) (m : Mapping) (f : FeatureUsage) : Mapping :=
  if f.hid = hidDgContactmax then
    { m with
      maxcontacts :=
        -- check if the maxcontacts is given by the class
        if cls.mapping.maxcontacts ≠ 0 then cls.mapping.maxcontacts else UInt8.ofNat (f.value % 256).toNat }
  else m

namespace Mapping

/-- The last field of a slot, when it is in the collection of the last contact. -/
def noteSlotField (m : Mapping) (u : FieldUsage) : Mapping :=
  if m.lastMtCollection = u.collectionIndex then
    { m with lastSlotField := u.usage, lastFieldIndex := u.fieldIndex }
  else m

/-- The contact count and the contact maximum are global to the report. -/
def noteField (m : Mapping) (u : FieldUsage) : Mapping :=
  if m.lastMtCollection = u.collectionIndex then { m with lastFieldIndex := u.fieldIndex } else m

/-- `HID_DG_CONTACTID` -/
def noteContactid (m : Mapping) (u : FieldUsage) : Mapping where
  maxcontacts := if m.maxcontacts = 0 then mtDefaultMaxcontact else m.maxcontacts
  lastMtCollection := u.collectionIndex
  lastSlotField := u.usage
  lastFieldIndex := u.fieldIndex

/-- The `switch` of `mt_input_mapping`: what it finds, tells the input layer, and returns. -/
def mapUsage (cls : MtClass) (m : Mapping) (u : FieldUsage) : Mapping × List InputSetup × Int :=
  let egalax := cls.has mtQuirkEgalaxXyzFixup
  let maximum := if egalax then 32760 else u.logicalMaximum
  let c := cls.mapping
  match u.usage with
  | .x =>
      (m.noteSlotField u, [.mapAxis .mtPositionX, setAbs (.mt .mtPositionX) u.logicalMinimum maximum c.snMove,
        setAbs .x u.logicalMinimum maximum c.snMove], 1)
  | .y =>
      (m.noteSlotField u, [.mapAxis .mtPositionY, setAbs (.mt .mtPositionY) u.logicalMinimum maximum c.snMove,
        setAbs .y u.logicalMinimum maximum c.snMove], 1)
  | .inRange => (m.noteSlotField u, [], 1)
  | .confidence => (m.noteSlotField u, [], 1)
  | .tipSwitch => (m.noteSlotField u, [.mapBtnTouch], 1)
  | .contactId =>
      let m := m.noteContactid u
      (m, [.initSlots m.maxcontacts], 1)
  | .width =>
      (m.noteSlotField u, [.mapAxis .mtTouchMajor,
        setAbs (.mt .mtTouchMajor) u.logicalMinimum u.logicalMaximum c.snWidth], 1)
  | .height =>
      (m.noteSlotField u, [.mapAxis .mtTouchMinor,
        setAbs (.mt .mtTouchMinor) u.logicalMinimum u.logicalMaximum c.snHeight,
        .absParams (.mt .mtOrientation) 0 1 0], 1)
  | .tipPressure =>
      let minimum := if egalax then 0 else u.logicalMinimum
      (m.noteSlotField u, [.mapAxis .mtPressure,
        setAbs (.mt .mtPressure) minimum u.logicalMaximum c.snPressure,
        setAbs .pressure minimum u.logicalMaximum c.snPressure], 1)
  | .contactCount => (m.noteField u, [], 1)
  | .other hid =>
      if hid = hidDgContactmax then (m.noteField u, [], -1)
      -- no input-oriented meaning
      else if hid &&& hidUsagePage = 0xff000000 then (m, [], -1)
      else (m, [], 0)

end Mapping

/-- `mt_input_mapping` (`hid-multitouch.c:208-348`): fields of other collections are ignored. -/
def mtInputMapping (cls : MtClass) (m : Mapping) (u : FieldUsage) : Mapping × List InputSetup × Int :=
  match u.application with
  | .touchscreen => let (m, setup, rc) := m.mapUsage cls u; (m, .propDirect :: setup, rc)
  | .touchpad => let (m, setup, rc) := m.mapUsage cls u; (m, .propPointer :: setup, rc)
  | .other _ => (m, [], 0)

/-- What hid-input makes of the usages of a device. -/
def mtMapFeatures (cls : MtClass) (features : List FeatureUsage) : Mapping :=
  features.foldl (mtFeatureMapping cls) .start

def mtMapInputs (cls : MtClass) (m : Mapping) : List FieldUsage → Mapping × List InputSetup
  | [] => (m, [])
  | u :: us =>
      let (m, setup, _) := mtInputMapping cls m u
      let (m, setups) := mtMapInputs cls m us
      (m, setup ++ setups)

/-- The device that `mt_probe` makes, and what the input layer has been told. -/
def mtProbeMapped (driverData : Nat) (features : List FeatureUsage) (inputs : List FieldUsage) :
    MtDevice × List InputSetup :=
  let cls := mtClassOf driverData
  let (m, setup) := mtMapInputs cls (mtMapFeatures cls features) inputs
  (mtProbe cls m.maxcontacts m.lastSlotField m.lastFieldIndex, setup)

end AndroidPatch.Hid
