import AndroidPatch.Misc.Run

/-!
# The battery warnings of the system UI

`PowerUI.java`: the receiver of the broadcasts `ACTION_BATTERY_CHANGED`, `ACTION_SCREEN_OFF` and
`ACTION_SCREEN_ON` with its two dialogs. Broadcasts, clicks and the listeners of the dialogs all run on the
main thread, one after the other. A dialog that is dismissed goes off the screen at once; its
`OnDismissListener` is a message of the handler and runs later, the listeners in their order.
-/

namespace AndroidPatch.SystemUi

/-- `BatteryManager.BATTERY_STATUS_UNKNOWN` -/
def batteryStatusUnknown : Int := 1

/-! ## Dialogs -/

inductive DialogKind where
  | lowBattery
  | invalidCharger
  deriving DecidableEq, Repr

/-- A dialog on the screen; `level` is what the text view of a low battery warning says. -/
structure Window where
  id : Nat
  kind : DialogKind
  level : Int
  deriving DecidableEq, Repr

/-- `PowerUI`, with the dialogs on the screen and the listeners that are to run. A dialog and the text view
    in it are known by the number of the dialog. -/
structure PowerUi where
  batteryLevel : Int
  batteryStatus : Int
  plugType : Int
  invalidCharger : Int
  lowBatteryAlertCloseLevel : Int
  lowBatteryReminderLevels : Int × Int
  invalidChargerDialog : Option Nat
  lowBatteryDialog : Option Nat
  batteryLevelTextView : Option Nat
  screenOffTime : Int
  screen : List Window
  listeners : List DialogKind
  next : Nat

/-- The resources of the configuration. -/
structure Config where
  lowBatteryCloseWarningLevel : Int
  lowBatteryWarningLevel : Int
  criticalBatteryWarningLevel : Int

/-- `start`, where the screen is on (`none`) or off at some time. -/
def start (config : Config) (screenOff : Option Int) : PowerUi where
  batteryLevel := 100
  batteryStatus := batteryStatusUnknown
  plugType := 0
  invalidCharger := 0
  lowBatteryAlertCloseLevel := config.lowBatteryCloseWarningLevel
  lowBatteryReminderLevels := (config.lowBatteryWarningLevel, config.criticalBatteryWarningLevel)
  invalidChargerDialog := none
  lowBatteryDialog := none
  batteryLevelTextView := none
  screenOffTime := screenOff.getD (-1)
  screen := []
  listeners := []
  next := 0

/-- The extras of an `ACTION_BATTERY_CHANGED`. -/
structure BatteryIntent where
  level : Option Int
  status : Option Int
  plugged : Option Int
  invalidCharger : Option Int
  deriving DecidableEq, Repr

/-- What the sound depends on: `LOW_BATTERY_SOUND_TIMEOUT`, `POWER_SOUNDS_ENABLED`, whether there is a
    ringtone at `LOW_BATTERY_SOUND`, and the time. -/
structure SoundSettings where
  silenceAfter : Int
  powerSoundsEnabled : Int
  ringtone : Bool
  elapsedRealtime : Int
  deriving DecidableEq, Repr

namespace PowerUi

/-- `findBatteryLevelBucket` (`PowerUI.java:99-113`); absent where it throws. -/
def findBatteryLevelBucket (ui : PowerUi) (level : Int) : Option Int :=
  if ui.lowBatteryAlertCloseLevel ≤ level then some 1
  else if ui.lowBatteryReminderLevels.1 ≤ level then some 0
  else [(1, ui.lowBatteryReminderLevels.2), (0, ui.lowBatteryReminderLevels.1)].findSome? fun (i, reminder) =>
    if level ≤ reminder then some (-1 - i) else none

/-- `Dialog.dismiss` -/
def dismiss (ui : PowerUi) (id : Nat) : PowerUi :=
  match ui.screen.find? fun w => w.id == id with
  | none => ui
  | some w =>
      { ui with
        screen := ui.screen.filter fun w => w.id != id
        listeners := ui.listeners ++ [w.kind] }

/-- The `onDismiss` of a dialog. -/
def onDismiss (ui : PowerUi) : DialogKind → PowerUi
  | .lowBattery => { ui with lowBatteryDialog := none, batteryLevelTextView := none }
  | .invalidCharger => { ui with invalidChargerDialog := none, batteryLevelTextView := none }

/-- `dismissLowBatteryWarning` -/
def dismissLowBatteryWarning (ui : PowerUi) : PowerUi :=
  match ui.lowBatteryDialog with
  | some id => ui.dismiss id
  | none => ui

/-- `showLowBatteryWarning` (`PowerUI.java:191-245`) -/
def showLowBatteryWarning (ui : PowerUi) : PowerUi :=
  match ui.batteryLevelTextView with
  | some id =>
      { ui with
        screen := ui.screen.map fun w => if w.id = id then { w with level := ui.batteryLevel } else w }
  | none =>
      { ui with
        screen := ui.screen ++ [⟨ui.next, .lowBattery, ui.batteryLevel⟩]
        lowBatteryDialog := some ui.next
        batteryLevelTextView := some ui.next
        next := ui.next + 1 }

/-- Whether `playLowBatterySound` plays (`PowerUI.java:247-279`). -/
def playLowBatterySound (ui : PowerUi) (settings : SoundSettings) : Bool :=
  let offTime := settings.elapsedRealtime - ui.screenOffTime
  if settings.silenceAfter > 0 ∧ ui.screenOffTime > 0 ∧ offTime > settings.silenceAfter then false
  else settings.powerSoundsEnabled == 1 && settings.ringtone

/-- `dismissInvalidChargerDialog` -/
def dismissInvalidChargerDialog (ui : PowerUi) : PowerUi :=
  match ui.invalidChargerDialog with
  | some id => ui.dismiss id
  | none => ui

/-- `showInvalidChargerDialog` (`PowerUI.java:287-309`) -/
def showInvalidChargerDialog (ui : PowerUi) : PowerUi :=
  let ui := ui.dismissLowBatteryWarning
  { ui with
    screen := ui.screen ++ [⟨ui.next, .invalidCharger, 0⟩]
    invalidChargerDialog := some ui.next
    next := ui.next + 1 }

/-- Whether a broadcast calls for a warning. -/
def warns (oldPlugged plugged : Bool) (oldBucket bucket status : Int) : Bool :=
  !plugged && (decide (bucket < oldBucket) || oldPlugged) && decide (status ≠ batteryStatusUnknown) &&
    decide (bucket < 0)

/-- What a broadcast does about the low battery, and whether a sound plays (`PowerUI.java:159-173`). -/
def lowBattery (ui : PowerUi) (settings : SoundSettings) (oldPlugged plugged : Bool)
    (oldBucket bucket : Int) : PowerUi × Bool :=
  if warns oldPlugged plugged oldBucket bucket ui.batteryStatus then
    (ui.showLowBatteryWarning,
      if bucket ≠ oldBucket ∨ oldPlugged then ui.playLowBatterySound settings else false)
  else if plugged ∨ (bucket > oldBucket ∧ bucket > 0) then (ui.dismissLowBatteryWarning, false)
  else if ui.batteryLevelTextView ≠ none then (ui.showLowBatteryWarning, false)
  else (ui, false)

/-- What a broadcast says. -/
def receive (ui : PowerUi) (intent : BatteryIntent) : PowerUi :=
  { ui with
    batteryLevel := intent.level.getD 100
    batteryStatus := intent.status.getD batteryStatusUnknown
    plugType := intent.plugged.getD 1
    invalidCharger := intent.invalidCharger.getD 0 }

/-- `onReceive` of an `ACTION_BATTERY_CHANGED` (`PowerUI.java:117-173`). -/
def onBatteryChanged (old : PowerUi) (intent : BatteryIntent) (settings : SoundSettings) :
    Option (PowerUi × Bool) := do
  let ui := old.receive intent
  let plugged := ui.plugType != 0
  let oldPlugged := old.plugType != 0
  let oldBucket ← ui.findBatteryLevelBucket old.batteryLevel
  let bucket ← ui.findBatteryLevelBucket ui.batteryLevel
  if old.invalidCharger = 0 ∧ ui.invalidCharger ≠ 0 then return (ui.showInvalidChargerDialog, false)
  else if old.invalidCharger ≠ 0 ∧ ui.invalidCharger = 0 then
    return ui.dismissInvalidChargerDialog.lowBattery settings oldPlugged plugged oldBucket bucket
  else if ui.invalidChargerDialog ≠ none then return (ui, false)
  else return ui.lowBattery settings oldPlugged plugged oldBucket bucket

end PowerUi

/-! ## Events -/

inductive Event where
  | batteryChanged (intent : BatteryIntent) (settings : SoundSettings)
  | screenOff (elapsedRealtime : Int)
  | screenOn
  /-- the user closes a dialog -/
  | close (id : Nat)
  /-- the click on the button that shows the power usage -/
  | why
  /-- the next listener runs -/
  | listener
  deriving DecidableEq, Repr

namespace PowerUi

/-- One event, and the sounds that it plays. -/
def react (ui : PowerUi) : Event → Option (PowerUi × Bool)
  | .batteryChanged intent settings => ui.onBatteryChanged intent settings
  | .screenOff elapsedRealtime => some ({ ui with screenOffTime := elapsedRealtime }, false)
  | .screenOn => some ({ ui with screenOffTime := -1 }, false)
  | .close id => if ui.screen.any fun w => w.id == id then some (ui.dismiss id, false) else none
  | .why => some (ui.dismissLowBatteryWarning, false)
  | .listener =>
      match ui.listeners with
      | [] => none
      | kind :: listeners => some ({ ui with listeners := listeners }.onDismiss kind, false)

def step (ui : PowerUi) (e : Event) : Option PowerUi := (ui.react e).map Prod.fst

/-- The sounds of an event. -/
def sounds (ui : PowerUi) (e : Event) : List Unit :=
  match ui.react e with
  | some (_, true) => [()]
  | _ => []

end PowerUi

end AndroidPatch.SystemUi
