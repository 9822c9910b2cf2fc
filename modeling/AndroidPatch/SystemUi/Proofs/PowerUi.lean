import AndroidPatch.Misc.Progress
import AndroidPatch.SystemUi.PowerUi

/-!
# Warnings over whole runs

A discharge is announced with at most two sounds (`sounds_discharging`). As long as the listener of a
dialog runs before the next broadcast, and no broadcast ends an invalid charge and calls for a warning at
once, there is at most one dialog and it says what is the case (`dialogs_consistent`). Where a broadcast
does both, a warning may stay on the screen that nothing but the user can close (`warning_orphaned`).
-/

namespace AndroidPatch.SystemUi

namespace PowerUi

/-! ## Buckets -/

/-- The bucket of a level. -/
def bucket (ui : PowerUi) (level : Int) : Int :=
  if ui.lowBatteryAlertCloseLevel ≤ level then 1
  else if ui.lowBatteryReminderLevels.1 ≤ level then 0
  else if level ≤ ui.lowBatteryReminderLevels.2 then -2
  else -1

/-- It is not possible that it throws. -/
theorem findBatteryLevelBucket_eq (ui : PowerUi) (level : Int) :
    ui.findBatteryLevelBucket level = some (ui.bucket level) := by
  unfold findBatteryLevelBucket bucket
  split
  · rfl
  · split
    · rfl
    · rename_i _ hlow
      by_cases hcritical : level ≤ ui.lowBatteryReminderLevels.2
      · simp [hcritical]
      · have hle : level ≤ ui.lowBatteryReminderLevels.1 := by omega
        simp [hcritical, hle]

/-- The bucket does not go up when the level goes down. -/
theorem bucket_mono (ui : PowerUi) {level level' : Int} (h : level ≤ level') :
    ui.bucket level ≤ ui.bucket level' := by
  unfold bucket
  split_ifs <;> omega

/-- The thresholds. -/
def levels (ui : PowerUi) : Int × Int × Int := (ui.lowBatteryAlertCloseLevel, ui.lowBatteryReminderLevels)

theorem bucket_congr {ui ui' : PowerUi} (h : ui'.levels = ui.levels) : ui'.bucket = ui.bucket := by
  obtain ⟨hclose, hreminder⟩ := Prod.mk.inj h
  funext level
  simp only [bucket, hclose, hreminder]

section Frame

variable (ui : PowerUi)

/-- What the dialogs do not touch. -/
def battery : (Int × Int × Int × Int) × (Int × Int × Int) :=
  ((ui.batteryLevel, ui.batteryStatus, ui.plugType, ui.invalidCharger), ui.levels)

@[simp] theorem dismiss_battery (id : Nat) : (ui.dismiss id).battery = ui.battery := by
  unfold dismiss
  split <;> rfl

@[simp] theorem dismissLowBatteryWarning_battery : ui.dismissLowBatteryWarning.battery = ui.battery := by
  unfold dismissLowBatteryWarning
  split
  · exact ui.dismiss_battery _
  · rfl

@[simp] theorem dismissInvalidChargerDialog_battery :
    ui.dismissInvalidChargerDialog.battery = ui.battery := by
  unfold dismissInvalidChargerDialog
  split
  · exact ui.dismiss_battery _
  · rfl

@[simp] theorem showLowBatteryWarning_battery : ui.showLowBatteryWarning.battery = ui.battery := by
  unfold showLowBatteryWarning
  split <;> rfl

@[simp] theorem showInvalidChargerDialog_battery : ui.showInvalidChargerDialog.battery = ui.battery :=
  ui.dismissLowBatteryWarning_battery

@[simp] theorem onDismiss_battery (kind : DialogKind) : (ui.onDismiss kind).battery = ui.battery := by
  cases kind <;> rfl

@[simp] theorem lowBattery_battery (settings : SoundSettings) (oldPlugged plugged : Bool)
    (oldBucket bucket : Int) :
    (ui.lowBattery settings oldPlugged plugged oldBucket bucket).1.battery = ui.battery := by
  unfold lowBattery
  split
  · exact ui.showLowBatteryWarning_battery
  · split
    · exact ui.dismissLowBatteryWarning_battery
    · split
      · exact ui.showLowBatteryWarning_battery
      · rfl

end Frame

/-! ## A broadcast -/

section Broadcast

variable (old : PowerUi) (intent : BatteryIntent) (settings : SoundSettings)

theorem receive_bucket : (old.receive intent).bucket = old.bucket := rfl

/-- Whether a broadcast calls for a warning. -/
def calls : Bool :=
  warns (old.plugType != 0) ((old.receive intent).plugType != 0) (old.bucket old.batteryLevel)
    (old.bucket (old.receive intent).batteryLevel) (old.receive intent).batteryStatus

/-- What a broadcast does about the low battery, with the buckets. -/
def low (ui : PowerUi) : PowerUi × Bool :=
  ui.lowBattery settings (old.plugType != 0) ((old.receive intent).plugType != 0)
    (old.bucket old.batteryLevel) (old.bucket (old.receive intent).batteryLevel)

/-- A broadcast begins an invalid charge, ends one, comes while its dialog is there, or neither. -/
theorem onBatteryChanged_cases :
    (old.invalidCharger = 0 ∧ (old.receive intent).invalidCharger ≠ 0 ∧
      old.onBatteryChanged intent settings = some ((old.receive intent).showInvalidChargerDialog, false)) ∨
    (old.invalidCharger ≠ 0 ∧ (old.receive intent).invalidCharger = 0 ∧
      old.onBatteryChanged intent settings =
        some (old.low intent settings (old.receive intent).dismissInvalidChargerDialog)) ∨
    ((old.invalidCharger = 0 ↔ (old.receive intent).invalidCharger = 0) ∧ old.invalidChargerDialog ≠ none ∧
      old.onBatteryChanged intent settings = some (old.receive intent, false)) ∨
    ((old.invalidCharger = 0 ↔ (old.receive intent).invalidCharger = 0) ∧ old.invalidChargerDialog = none ∧
      old.onBatteryChanged intent settings = some (old.low intent settings (old.receive intent))) := by
  have heq : old.onBatteryChanged intent settings =
      if old.invalidCharger = 0 ∧ (old.receive intent).invalidCharger ≠ 0 then
        some ((old.receive intent).showInvalidChargerDialog, false)
      else if old.invalidCharger ≠ 0 ∧ (old.receive intent).invalidCharger = 0 then
        some (old.low intent settings (old.receive intent).dismissInvalidChargerDialog)
      else if (old.receive intent).invalidChargerDialog ≠ none then some (old.receive intent, false)
      else some (old.low intent settings (old.receive intent)) := by
    unfold onBatteryChanged
    simp only [findBatteryLevelBucket_eq, receive_bucket, Option.bind_eq_bind, Option.bind_some]
    rfl
  have hdialog : (old.receive intent).invalidChargerDialog = old.invalidChargerDialog := rfl
  rw [heq, hdialog]
  by_cases hold : old.invalidCharger = 0 <;> by_cases hnew : (old.receive intent).invalidCharger = 0 <;>
    by_cases hshown : old.invalidChargerDialog = none <;> simp [hold, hnew, hshown]

theorem low_battery (ui : PowerUi) : (old.low intent settings ui).1.battery = ui.battery :=
  ui.lowBattery_battery settings _ _ _ _

/-- After a broadcast the battery is as the broadcast says. -/
theorem onBatteryChanged_battery {ui : PowerUi} {sound : Bool}
    (h : old.onBatteryChanged intent settings = some (ui, sound)) :
    ui.battery = (old.receive intent).battery := by
  rcases onBatteryChanged_cases old intent settings with ⟨-, -, heq⟩ | ⟨-, -, heq⟩ | ⟨-, -, heq⟩ | ⟨-, -, heq⟩
  · obtain ⟨rfl, -⟩ := Prod.mk.inj (Option.some.inj (heq.symm.trans h))
    exact showInvalidChargerDialog_battery _
  · have hui : ui = _ := (congrArg Prod.fst (Option.some.inj (heq.symm.trans h))).symm
    rw [hui, low_battery, dismissInvalidChargerDialog_battery]
  · obtain ⟨rfl, -⟩ := Prod.mk.inj (Option.some.inj (heq.symm.trans h))
    rfl
  · have hui : ui = _ := (congrArg Prod.fst (Option.some.inj (heq.symm.trans h))).symm
    rw [hui, low_battery]

/-- A sound comes with a warning, and when the bucket falls or the charger is gone. -/
theorem low_sound {ui : PowerUi} (hstatus : ui.batteryStatus = (old.receive intent).batteryStatus)
    (h : (old.low intent settings ui).2 = true) : old.calls intent = true := by
  unfold low lowBattery at h
  rw [hstatus] at h
  split at h
  · assumption
  · split at h
    · cases h
    · split at h <;> cases h

theorem onBatteryChanged_sound {ui : PowerUi}
    (h : old.onBatteryChanged intent settings = some (ui, true)) : old.calls intent = true := by
  rcases onBatteryChanged_cases old intent settings with ⟨-, -, heq⟩ | ⟨-, -, heq⟩ | ⟨-, -, heq⟩ | ⟨-, -, heq⟩
  · cases heq.symm.trans h
  · have hsound := congrArg Prod.snd (Option.some.inj (heq.symm.trans h))
    have hbattery := dismissInvalidChargerDialog_battery (old.receive intent)
    exact low_sound old intent settings (congrArg (fun b => b.1.2.1) hbattery) hsound
  · cases heq.symm.trans h
  · exact low_sound old intent settings rfl (congrArg Prod.snd (Option.some.inj (heq.symm.trans h)))

end Broadcast

/-! ## Sounds -/

/-- The number of reminder levels that are still to come. -/
def remindersLeft (bucket : Int) : Nat := if bucket = -2 then 0 else if bucket = -1 then 1 else 2

theorem bucket_cases (ui : PowerUi) (level : Int) :
    ui.bucket level = 1 ∨ ui.bucket level = 0 ∨ ui.bucket level = -1 ∨ ui.bucket level = -2 := by
  unfold bucket
  split_ifs <;> simp

/-- A broadcast of a discharge: unplugged, and the level has not gone up. -/
def Discharging (ui : PowerUi) : Event → Prop
  | .batteryChanged intent _ => intent.plugged.getD 1 = 0 ∧ intent.level.getD 100 ≤ ui.batteryLevel
  | _ => True

/-- Each sound of a discharge uses up a reminder level. -/
theorem sounds_step {ui ui' : PowerUi} {e : Event} (hplug : ui.plugType = 0) (he : ui.Discharging e)
    (hstep : ui.step e = some ui') :
    ui'.plugType = 0 ∧ (ui.sounds e).length + remindersLeft (ui'.bucket ui'.batteryLevel) ≤
      remindersLeft (ui.bucket ui.batteryLevel) := by
  have hframe : ∀ ui' : PowerUi, ui'.battery = ui.battery →
      ui'.plugType = 0 ∧ 0 + remindersLeft (ui'.bucket ui'.batteryLevel) ≤
        remindersLeft (ui.bucket ui.batteryLevel) := by
    intro ui' hbattery
    have hlevel : ui'.batteryLevel = ui.batteryLevel := congrArg (fun b => b.1.1) hbattery
    have hbucket := bucket_congr (congrArg Prod.snd hbattery)
    rw [hlevel, hbucket, Nat.zero_add]
    exact ⟨(congrArg (fun b => b.1.2.2.1) hbattery).trans hplug, Nat.le_refl _⟩
  cases e with
  | batteryChanged intent settings =>
    obtain ⟨hunplugged, hlevel⟩ := he
    obtain ⟨⟨ui'', sound⟩, hreact, rfl⟩ := Option.map_eq_some_iff.mp hstep
    have hreact' : ui.onBatteryChanged intent settings = some (ui'', sound) := hreact
    have hbattery := onBatteryChanged_battery ui intent settings hreact'
    have hbucket := bucket_congr (congrArg Prod.snd hbattery)
    have hlevel' : ui''.batteryLevel = intent.level.getD 100 := congrArg (fun b => b.1.1) hbattery
    have hmono := ui.bucket_mono hlevel
    refine ⟨(congrArg (fun b => b.1.2.2.1) hbattery).trans hunplugged, ?_⟩
    rw [hbucket, receive_bucket, hlevel']
    cases sound with
    | false =>
      have hsounds : ui.sounds (.batteryChanged intent settings) = [] := by rw [sounds, hreact]
      rw [hsounds]
      rcases ui.bucket_cases ui.batteryLevel with h | h | h | h <;>
        rcases ui.bucket_cases (intent.level.getD 100) with h' | h' | h' | h' <;>
          simp [remindersLeft, h, h'] <;> omega
    | true =>
      have hsounds : ui.sounds (.batteryChanged intent settings) = [()] := by rw [sounds, hreact]
      have hcalls := onBatteryChanged_sound ui intent settings hreact'
      have hlow : ui.bucket (intent.level.getD 100) < ui.bucket ui.batteryLevel ∧
          ui.bucket (intent.level.getD 100) < 0 := by
        have hall : ui.bucket (intent.level.getD 100) < ui.bucket ui.batteryLevel ∧
            ¬ intent.status.getD batteryStatusUnknown = batteryStatusUnknown ∧
            ui.bucket (intent.level.getD 100) < 0 := by
          simpa [calls, warns, receive, hplug, hunplugged, and_assoc] using hcalls
        exact ⟨hall.1, hall.2.2⟩
      rw [hsounds]
      rcases ui.bucket_cases ui.batteryLevel with h | h | h | h <;>
        rcases ui.bucket_cases (intent.level.getD 100) with h' | h' | h' | h' <;>
          simp [remindersLeft, h, h'] <;> omega
  | screenOff elapsedRealtime =>
    cases hstep
    exact hframe _ rfl
  | screenOn =>
    cases hstep
    exact hframe _ rfl
  | close id =>
    simp only [step, react] at hstep
    split at hstep
    · cases hstep
      have hsounds : ui.sounds (.close id) = [] := by
        simp only [sounds, react]
        split <;> simp_all
      rw [hsounds]
      exact hframe _ (ui.dismiss_battery id)
    · cases hstep
  | why =>
    cases hstep
    exact hframe _ ui.dismissLowBatteryWarning_battery
  | listener =>
    simp only [step, react] at hstep
    have hsounds : ui.sounds .listener = [] := by
      simp only [sounds, react]
      cases ui.listeners <;> rfl
    rw [hsounds]
    cases hlisteners : ui.listeners with
    | nil =>
      rw [hlisteners] at hstep
      cases hstep
    | cons kind listeners =>
      rw [hlisteners] at hstep
      cases hstep
      exact hframe _ (onDismiss_battery _ kind)

/-- However the level falls while the device is unplugged, and whatever else happens, a sound plays at most
    once for each reminder level: what is left of them bounds the sounds. -/
theorem sounds_discharging {s s' : PowerUi} {es : List Event} (hplug : s.plugType = 0)
    (hmeets : RunMeets step Discharging s es) (hrun : runSteps step s es = some s') :
    (outputs step sounds s es).length + remindersLeft (s'.bucket s'.batteryLevel) ≤
      remindersLeft (s.bucket s.batteryLevel) := by
  induction es generalizing s with
  | nil =>
    cases hrun
    simp [outputs]
  | cons e es ih =>
    obtain ⟨t, he, hrest⟩ := runSteps_cons_eq_some.mp hrun
    obtain ⟨hplug', hsounds⟩ := sounds_step hplug hmeets.1 he
    have hlater := ih hplug' (hmeets.2 t he) hrest
    rw [outputs, he, Option.elim_some, List.length_append]
    omega

instance (ui : PowerUi) (e : Event) : Decidable (ui.Discharging e) := by
  cases e <;> unfold Discharging <;> infer_instance

def someConfig : Config := ⟨20, 15, 4⟩

def audible : SoundSettings := ⟨0, 1, true, 5⟩

/-- The battery runs down. -/
def runningDown : List Event :=
  [.batteryChanged ⟨some 50, some 3, some 0, some 0⟩ audible,
    .batteryChanged ⟨some 14, some 3, some 0, some 0⟩ audible,
    .batteryChanged ⟨some 12, some 3, some 0, some 0⟩ audible,
    .batteryChanged ⟨some 4, some 3, some 0, some 0⟩ audible]

theorem sounds_discharging_twice :
    ∃ s, runSteps step (start someConfig none) runningDown = some s ∧
      outputs step sounds (start someConfig none) runningDown = [(), ()] ∧
      (outputs step sounds (start someConfig none) runningDown).length +
        remindersLeft (s.bucket s.batteryLevel) ≤ 2 := by
  obtain ⟨s, hrun⟩ : ∃ s, runSteps step (start someConfig none) runningDown = some s := ⟨_, rfl⟩
  exact ⟨s, hrun, rfl, sounds_discharging rfl (by decide) hrun⟩

/-! ## Dialogs -/

/-- The dialogs on the screen, the listeners, and what the fields refer to. -/
def dialogs (ui : PowerUi) : List Window × List DialogKind × Option Nat × Option Nat × Option Nat :=
  (ui.screen, ui.listeners, ui.lowBatteryDialog, ui.batteryLevelTextView, ui.invalidChargerDialog)

/-- The states of the dialogs. Between a dismissal and its listener the fields still refer to the dialog. -/
inductive Consistent (ui : PowerUi) : Prop where
  | idle (h : ui.dialogs = ([], [], none, none, none))
  | warning (w : Window) (h : ui.dialogs = ([w], [], some w.id, some w.id, none))
      (hkind : w.kind = .lowBattery) (hlevel : w.level = ui.batteryLevel) (hplug : ui.plugType = 0)
      (hid : w.id < ui.next)
  | warningClosed (d : Nat) (h : ui.dialogs = ([], [.lowBattery], some d, some d, none))
  | invalid (w : Window) (h : ui.dialogs = ([w], [], none, none, some w.id))
      (hkind : w.kind = .invalidCharger) (hinvalid : ui.invalidCharger ≠ 0)
  | invalidClosed (d : Nat) (h : ui.dialogs = ([], [.invalidCharger], none, none, some d))
  | invalidFirst (w : Window) (d : Nat)
      (h : ui.dialogs = ([w], [.lowBattery], some d, some d, some w.id))
      (hkind : w.kind = .invalidCharger) (hinvalid : ui.invalidCharger ≠ 0) (hne : w.id ≠ d)
  | bothClosed (d d' : Nat)
      (h : ui.dialogs = ([], [.lowBattery, .invalidCharger], some d, some d, some d'))

/-- The listeners have run when a broadcast comes, and it does not both end an invalid charge whose dialog
    is there and call for a warning. -/
def Settled (ui : PowerUi) : Event → Prop
  | .batteryChanged intent _ => ui.listeners = [] ∧
      (ui.invalidChargerDialog ≠ none → ui.invalidCharger ≠ 0 → intent.invalidCharger.getD 0 = 0 →
        ui.calls intent = false)
  | _ => True

instance (ui : PowerUi) (e : Event) : Decidable (ui.Settled e) := by
  cases e <;> unfold Settled <;> infer_instance

theorem dialogs_eq_iff {ui : PowerUi} {screen : List Window} {listeners : List DialogKind}
    {low text invalid : Option Nat} : ui.dialogs = (screen, listeners, low, text, invalid) ↔
      ui.screen = screen ∧ ui.listeners = listeners ∧ ui.lowBatteryDialog = low ∧
        ui.batteryLevelTextView = text ∧ ui.invalidChargerDialog = invalid := by
  simp [dialogs]

section Dismissals

variable {ui : PowerUi} {w : Window} {d : Nat}

theorem dismiss_shown (h : ui.screen = [w]) :
    (ui.dismiss w.id).dialogs = ([], ui.listeners ++ [w.kind], ui.lowBatteryDialog,
      ui.batteryLevelTextView, ui.invalidChargerDialog) := by
  unfold dismiss
  rw [h]
  simp [dialogs]

theorem dismiss_absent (h : ∀ w ∈ ui.screen, w.id ≠ d) : ui.dismiss d = ui := by
  have hfind : ui.screen.find? (fun w => w.id == d) = none := by
    refine List.find?_eq_none.mpr fun w hw => ?_
    simpa using h w hw
  unfold dismiss
  rw [hfind]

theorem dismissLowBatteryWarning_of_none (h : ui.lowBatteryDialog = none) :
    ui.dismissLowBatteryWarning = ui := by
  rw [dismissLowBatteryWarning, h]

theorem dismissLowBatteryWarning_of_some (h : ui.lowBatteryDialog = some d) :
    ui.dismissLowBatteryWarning = ui.dismiss d := by
  rw [dismissLowBatteryWarning, h]

theorem dismissInvalidChargerDialog_of_none (h : ui.invalidChargerDialog = none) :
    ui.dismissInvalidChargerDialog = ui := by
  rw [dismissInvalidChargerDialog, h]

theorem dismissInvalidChargerDialog_of_some (h : ui.invalidChargerDialog = some d) :
    ui.dismissInvalidChargerDialog = ui.dismiss d := by
  rw [dismissInvalidChargerDialog, h]

theorem dismiss_next (ui : PowerUi) (d : Nat) : (ui.dismiss d).next = ui.next := by
  unfold dismiss
  split <;> rfl

theorem showInvalidChargerDialog_invalidCharger (ui : PowerUi) :
    ui.showInvalidChargerDialog.invalidCharger = ui.invalidCharger :=
  congrArg (fun b => b.1.2.2.2) (showInvalidChargerDialog_battery ui)

end Dismissals

section Broadcasts

variable {old ui : PowerUi} {intent : BatteryIntent} {settings : SoundSettings} {w : Window}

/-- What a broadcast does about the low battery: it warns, closes, updates or leaves things as they are. -/
theorem low_cases (hstatus : ui.batteryStatus = (old.receive intent).batteryStatus) :
    (old.calls intent = true ∧ (old.receive intent).plugType = 0 ∧
      (old.low intent settings ui).1 = ui.showLowBatteryWarning) ∨
    (old.calls intent = false ∧ (old.low intent settings ui).1 = ui.dismissLowBatteryWarning) ∨
    (old.calls intent = false ∧ (old.receive intent).plugType = 0 ∧ ui.batteryLevelTextView ≠ none ∧
      (old.low intent settings ui).1 = ui.showLowBatteryWarning) ∨
    (old.calls intent = false ∧ ui.batteryLevelTextView = none ∧ (old.low intent settings ui).1 = ui) := by
  unfold low lowBattery
  rw [hstatus, ← calls]
  cases hcalls : old.calls intent with
  | true =>
    have hplug : (old.receive intent).plugType = 0 := by
      unfold calls warns at hcalls
      simp only [Bool.and_eq_true, Bool.not_eq_true'] at hcalls
      simpa using hcalls.1.1.1
    exact .inl ⟨rfl, hplug, rfl⟩
  | false =>
    right
    rw [if_neg Bool.false_ne_true]
    split
    · exact .inl ⟨rfl, rfl⟩
    · rename_i hclose
      have hplug : (old.receive intent).plugType = 0 := by
        by_contra hne
        exact hclose (.inl (by simpa using hne))
      split
      · rename_i htext
        exact .inr (.inl ⟨rfl, hplug, htext, rfl⟩)
      · rename_i htext
        exact .inr (.inr ⟨rfl, not_not.mp htext, rfl⟩)

/-- A broadcast about the low battery while no dialog is there. -/
theorem consistent_low_idle (h : ui.dialogs = ([], [], none, none, none))
    (hbattery : ui.battery = (old.receive intent).battery) :
    Consistent (old.low intent settings ui).1 := by
  obtain ⟨hscreen, hlisteners, hlow, htext, hinvalid⟩ := dialogs_eq_iff.mp h
  rcases @low_cases old ui intent settings (congrArg (fun b => b.1.2.1) hbattery) with
    ⟨-, hplug, heq⟩ | ⟨-, heq⟩ | ⟨-, -, hne, -⟩ | ⟨-, -, heq⟩
  · have hplug' : ui.plugType = 0 := (congrArg (fun b => b.1.2.2.1) hbattery).trans hplug
    have hshow : ui.showLowBatteryWarning = { ui with
        screen := ui.screen ++ [⟨ui.next, .lowBattery, ui.batteryLevel⟩]
        lowBatteryDialog := some ui.next
        batteryLevelTextView := some ui.next
        next := ui.next + 1 } := by
      rw [showLowBatteryWarning, htext]
    rw [heq, hshow]
    refine .warning ⟨ui.next, .lowBattery, ui.batteryLevel⟩ ?_ rfl rfl hplug' (Nat.lt_succ_self _)
    rw [dialogs_eq_iff]
    exact ⟨by rw [hscreen]; rfl, hlisteners, rfl, rfl, hinvalid⟩
  · rw [heq, dismissLowBatteryWarning_of_none hlow]
    exact .idle h
  · exact absurd htext hne
  · rw [heq]
    exact .idle h

/-- A broadcast about the low battery while the warning is there. -/
theorem consistent_low_warning (h : ui.dialogs = ([w], [], some w.id, some w.id, none))
    (hkind : w.kind = .lowBattery) (hid : w.id < ui.next)
    (hbattery : ui.battery = (old.receive intent).battery) :
    Consistent (old.low intent settings ui).1 := by
  obtain ⟨hscreen, hlisteners, hlow, htext, hinvalid⟩ := dialogs_eq_iff.mp h
  have hupdate : (old.receive intent).plugType = 0 → Consistent ui.showLowBatteryWarning := by
    intro hplug
    have hplug' : ui.plugType = 0 := (congrArg (fun b => b.1.2.2.1) hbattery).trans hplug
    have hshow : ui.showLowBatteryWarning = { ui with
        screen := ui.screen.map fun v => if v.id = w.id then { v with level := ui.batteryLevel } else v } := by
      rw [showLowBatteryWarning, htext]
    rw [hshow]
    refine .warning { w with level := ui.batteryLevel } ?_ hkind rfl hplug' hid
    rw [dialogs_eq_iff]
    exact ⟨by rw [hscreen]; simp, hlisteners, hlow, htext, hinvalid⟩
  rcases @low_cases old ui intent settings (congrArg (fun b => b.1.2.1) hbattery) with
    ⟨-, hplug, heq⟩ | ⟨-, heq⟩ | ⟨-, hplug, -, heq⟩ | ⟨-, hnone, -⟩
  · rw [heq]
    exact hupdate hplug
  · rw [heq, dismissLowBatteryWarning_of_some hlow]
    refine .warningClosed w.id ?_
    rw [dismiss_shown hscreen, hlisteners, hlow, htext, hinvalid, hkind]
    rfl
  · rw [heq]
    exact hupdate hplug
  · rw [htext] at hnone
    cases hnone

theorem consistent_broadcast (h : Consistent old) (hsettled : old.Settled (.batteryChanged intent settings))
    {sound : Bool} (hreact : old.onBatteryChanged intent settings = some (ui, sound)) : Consistent ui := by
  obtain ⟨hnone, hcalm⟩ := hsettled
  have hpending : ∀ {screen listeners low text invalid},
      old.dialogs = (screen, listeners, low, text, invalid) → listeners = [] := by
    intro screen listeners low text invalid h
    exact (dialogs_eq_iff.mp h).2.1.symm.trans hnone
  have hui : ∀ {p : PowerUi × Bool}, old.onBatteryChanged intent settings = some p → ui = p.1 :=
    fun heq => (congrArg Prod.fst (Option.some.inj (heq.symm.trans hreact))).symm
  cases h with
  | idle h =>
    obtain ⟨hscreen, hlisteners, hlow, htext, hinvalid⟩ := dialogs_eq_iff.mp h
    rcases onBatteryChanged_cases old intent settings with
      ⟨-, hcharger, heq⟩ | ⟨-, -, heq⟩ | ⟨-, hdialog, -⟩ | ⟨-, -, heq⟩
    · rw [hui heq]
      refine .invalid ⟨old.next, .invalidCharger, 0⟩ ?_ rfl ?_
      · rw [showInvalidChargerDialog, @dismissLowBatteryWarning_of_none (old.receive intent) hlow,
          dialogs_eq_iff]
        exact ⟨congrArg (· ++ _) hscreen, hlisteners, hlow, htext, rfl⟩
      · rwa [showInvalidChargerDialog_invalidCharger]
    · rw [hui heq, @dismissInvalidChargerDialog_of_none (old.receive intent) hinvalid]
      exact consistent_low_idle h rfl
    · exact absurd hinvalid hdialog
    · rw [hui heq]
      exact consistent_low_idle h rfl
  | warning w h hkind hlevel hplug hid =>
    obtain ⟨hscreen, hlisteners, hlow, htext, hinvalid⟩ := dialogs_eq_iff.mp h
    rcases onBatteryChanged_cases old intent settings with
      ⟨-, hcharger, heq⟩ | ⟨-, -, heq⟩ | ⟨-, hdialog, -⟩ | ⟨-, -, heq⟩
    · rw [hui heq]
      obtain ⟨hscreen', hlisteners', hlow', htext', -⟩ :=
        dialogs_eq_iff.mp (@dismiss_shown (old.receive intent) w hscreen)
      have hnext : ((old.receive intent).dismiss w.id).next = old.next := dismiss_next _ _
      refine .invalidFirst ⟨old.next, .invalidCharger, 0⟩ w.id ?_ rfl ?_ (Nat.ne_of_gt hid)
      · rw [showInvalidChargerDialog, @dismissLowBatteryWarning_of_some (old.receive intent) w.id hlow,
          dialogs_eq_iff]
        refine ⟨?_, ?_, hlow'.trans hlow, htext'.trans htext, congrArg some hnext⟩
        · exact (congrArg (· ++ _) hscreen').trans (by rw [hnext]; rfl)
        · exact hlisteners'.trans (by rw [show (old.receive intent).listeners = [] from hlisteners, hkind]; rfl)
      · rwa [showInvalidChargerDialog_invalidCharger]
    · rw [hui heq, @dismissInvalidChargerDialog_of_none (old.receive intent) hinvalid]
      exact consistent_low_warning h hkind hid rfl
    · exact absurd hinvalid hdialog
    · rw [hui heq]
      exact consistent_low_warning h hkind hid rfl
  | invalid w h hkind hinvalid =>
    obtain ⟨hscreen, hlisteners, hlow, htext, hdialog⟩ := dialogs_eq_iff.mp h
    have hshown : old.invalidChargerDialog ≠ none := by
      rw [hdialog]
      nofun
    rcases onBatteryChanged_cases old intent settings with
      ⟨hvalid, -, -⟩ | ⟨-, hcharger, heq⟩ | ⟨hiff, -, heq⟩ | ⟨-, hnodialog, -⟩
    · exact absurd hvalid hinvalid
    · have hcalls := hcalm hshown hinvalid hcharger
      have hbattery := dismiss_battery (old.receive intent) w.id
      obtain ⟨hscreen', hlisteners', hlow', htext', hdialog'⟩ :=
        dialogs_eq_iff.mp (@dismiss_shown (old.receive intent) w hscreen)
      have hsame : (old.low intent settings ((old.receive intent).dismiss w.id)).1 =
          (old.receive intent).dismiss w.id := by
        rcases @low_cases old _ intent settings (congrArg (fun b => b.1.2.1) hbattery) with
          ⟨htrue, -, -⟩ | ⟨-, heq⟩ | ⟨-, -, hne, -⟩ | ⟨-, -, heq⟩
        · rw [hcalls] at htrue
          cases htrue
        · rw [heq, dismissLowBatteryWarning_of_none (hlow'.trans hlow)]
        · exact absurd (htext'.trans htext) hne
        · exact heq
      rw [hui heq, @dismissInvalidChargerDialog_of_some (old.receive intent) w.id hdialog, hsame]
      refine .invalidClosed w.id (dialogs_eq_iff.mpr
        ⟨hscreen', ?_, hlow'.trans hlow, htext'.trans htext, hdialog'.trans hdialog⟩)
      exact hlisteners'.trans (by rw [show (old.receive intent).listeners = [] from hlisteners, hkind]; rfl)
    · rw [hui heq]
      exact .invalid w h hkind fun hzero => hinvalid (hiff.mpr hzero)
    · exact absurd hnodialog hshown
  | warningClosed d h => cases hpending h
  | invalidClosed d h => cases hpending h
  | invalidFirst w d h => cases hpending h
  | bothClosed d d' h => cases hpending h

end Broadcasts

section Others

variable {ui : PowerUi}

/-- The click on the button closes the warning if it is there. -/
theorem consistent_why (h : Consistent ui) : Consistent ui.dismissLowBatteryWarning := by
  have habsent : ∀ {d : Nat}, ui.lowBatteryDialog = some d → (∀ w ∈ ui.screen, w.id ≠ d) →
      ui.dismissLowBatteryWarning = ui := by
    intro d hlow hne
    rw [dismissLowBatteryWarning_of_some hlow, dismiss_absent hne]
  cases h with
  | idle h =>
    rw [dismissLowBatteryWarning_of_none (dialogs_eq_iff.mp h).2.2.1]
    exact .idle h
  | warning w h hkind =>
    obtain ⟨hscreen, hlisteners, hlow, htext, hinvalid⟩ := dialogs_eq_iff.mp h
    rw [dismissLowBatteryWarning_of_some hlow]
    refine .warningClosed w.id ?_
    rw [dismiss_shown hscreen, hlisteners, hlow, htext, hinvalid, hkind]
    rfl
  | warningClosed d h =>
    obtain ⟨hscreen, -, hlow, -⟩ := dialogs_eq_iff.mp h
    rw [habsent hlow (by rw [hscreen]; nofun)]
    exact .warningClosed d h
  | invalid w h hkind hinvalid =>
    rw [dismissLowBatteryWarning_of_none (dialogs_eq_iff.mp h).2.2.1]
    exact .invalid w h hkind hinvalid
  | invalidClosed d h =>
    rw [dismissLowBatteryWarning_of_none (dialogs_eq_iff.mp h).2.2.1]
    exact .invalidClosed d h
  | invalidFirst w d h hkind hinvalid hne =>
    obtain ⟨hscreen, -, hlow, -⟩ := dialogs_eq_iff.mp h
    rw [habsent hlow (by rw [hscreen]; simpa using hne)]
    exact .invalidFirst w d h hkind hinvalid hne
  | bothClosed d d' h =>
    obtain ⟨hscreen, -, hlow, -⟩ := dialogs_eq_iff.mp h
    rw [habsent hlow (by rw [hscreen]; nofun)]
    exact .bothClosed d d' h

theorem consistent_close (h : Consistent ui) {id : Nat} (hshown : ∃ w ∈ ui.screen, w.id = id) :
    Consistent (ui.dismiss id) := by
  have hnone : ui.screen = [] → False := by
    intro hscreen
    obtain ⟨w, hw, -⟩ := hshown
    rw [hscreen] at hw
    cases hw
  have hone : ∀ {w : Window}, ui.screen = [w] → id = w.id := by
    intro w hscreen
    obtain ⟨v, hv, rfl⟩ := hshown
    rw [hscreen] at hv
    rw [List.mem_singleton.mp hv]
  cases h with
  | idle h => exact (hnone (dialogs_eq_iff.mp h).1).elim
  | warning w h hkind =>
    obtain ⟨hscreen, hlisteners, hlow, htext, hinvalid⟩ := dialogs_eq_iff.mp h
    rw [hone hscreen]
    refine .warningClosed w.id ?_
    rw [dismiss_shown hscreen, hlisteners, hlow, htext, hinvalid, hkind]
    rfl
  | warningClosed d h => exact (hnone (dialogs_eq_iff.mp h).1).elim
  | invalid w h hkind hcharger =>
    obtain ⟨hscreen, hlisteners, hlow, htext, hinvalid⟩ := dialogs_eq_iff.mp h
    rw [hone hscreen]
    refine .invalidClosed w.id ?_
    rw [dismiss_shown hscreen, hlisteners, hlow, htext, hinvalid, hkind]
    rfl
  | invalidClosed d h => exact (hnone (dialogs_eq_iff.mp h).1).elim
  | invalidFirst w d h hkind hcharger hne =>
    obtain ⟨hscreen, hlisteners, hlow, htext, hinvalid⟩ := dialogs_eq_iff.mp h
    rw [hone hscreen]
    refine .bothClosed d w.id ?_
    rw [dismiss_shown hscreen, hlisteners, hlow, htext, hinvalid, hkind]
    rfl
  | bothClosed d d' h => exact (hnone (dialogs_eq_iff.mp h).1).elim

theorem consistent_listener (h : Consistent ui) {kind : DialogKind} {listeners : List DialogKind}
    (hlisteners : ui.listeners = kind :: listeners) :
    Consistent ({ ui with listeners := listeners }.onDismiss kind) := by
  have hpending : ∀ {screen ls low text invalid}, ui.dialogs = (screen, ls, low, text, invalid) →
      ls = kind :: listeners := by
    intro screen ls low text invalid h
    exact (dialogs_eq_iff.mp h).2.1.symm.trans hlisteners
  cases h with
  | idle h => cases hpending h
  | warning w h => cases hpending h
  | warningClosed d h =>
    obtain ⟨hscreen, -, -, -, hinvalid⟩ := dialogs_eq_iff.mp h
    cases hpending h
    exact .idle (dialogs_eq_iff.mpr ⟨hscreen, rfl, rfl, rfl, hinvalid⟩)
  | invalid w h => cases hpending h
  | invalidClosed d h =>
    obtain ⟨hscreen, -, hlow, -, -⟩ := dialogs_eq_iff.mp h
    cases hpending h
    exact .idle (dialogs_eq_iff.mpr ⟨hscreen, rfl, hlow, rfl, rfl⟩)
  | invalidFirst w d h hkind hcharger =>
    obtain ⟨hscreen, -, -, -, hinvalid⟩ := dialogs_eq_iff.mp h
    cases hpending h
    exact .invalid w (dialogs_eq_iff.mpr ⟨hscreen, rfl, rfl, rfl, hinvalid⟩) hkind hcharger
  | bothClosed d d' h =>
    obtain ⟨hscreen, -, -, -, hinvalid⟩ := dialogs_eq_iff.mp h
    cases hpending h
    exact .invalidClosed d' (dialogs_eq_iff.mpr ⟨hscreen, rfl, rfl, rfl, hinvalid⟩)

end Others

theorem consistent_step {ui ui' : PowerUi} {e : Event} (hsettled : ui.Settled e) (h : Consistent ui)
    (hstep : ui.step e = some ui') : Consistent ui' := by
  have hscreen : ∀ t : Int, Consistent { ui with screenOffTime := t } := by
    intro t
    cases h with
    | idle h => exact .idle h
    | warning w h hkind hlevel hplug hid => exact .warning w h hkind hlevel hplug hid
    | warningClosed d h => exact .warningClosed d h
    | invalid w h hkind hcharger => exact .invalid w h hkind hcharger
    | invalidClosed d h => exact .invalidClosed d h
    | invalidFirst w d h hkind hcharger hne => exact .invalidFirst w d h hkind hcharger hne
    | bothClosed d d' h => exact .bothClosed d d' h
  cases e with
  | batteryChanged intent settings =>
    obtain ⟨⟨ui'', sound⟩, hreact, rfl⟩ := Option.map_eq_some_iff.mp hstep
    exact consistent_broadcast h hsettled hreact
  | screenOff elapsedRealtime =>
    cases hstep
    exact hscreen _
  | screenOn =>
    cases hstep
    exact hscreen _
  | close id =>
    simp only [step, react] at hstep
    split at hstep
    · rename_i hany
      cases hstep
      obtain ⟨w, hw, hid⟩ := List.any_eq_true.mp hany
      exact consistent_close h ⟨w, hw, by simpa using hid⟩
    · cases hstep
  | why =>
    cases hstep
    exact consistent_why h
  | listener =>
    simp only [step, react] at hstep
    cases hlisteners : ui.listeners with
    | nil =>
      rw [hlisteners] at hstep
      cases hstep
    | cons kind listeners =>
      rw [hlisteners] at hstep
      cases hstep
      exact consistent_listener h hlisteners

/-- In every run whose broadcasts find the listeners of earlier dialogs done, and in which none both ends an
    invalid charge whose dialog is there and calls for a warning, the screen shows nothing, or one dialog:
    that of the invalid charger, while the charger is invalid, or the warning with the present level, while
    the device is unplugged. -/
theorem dialogs_consistent {config : Config} {screenOff : Option Int} {ui : PowerUi} {es : List Event}
    (hmeets : RunMeets step Settled (start config screenOff) es)
    (hrun : runSteps step (start config screenOff) es = some ui) :
    ui.screen = [] ∨
      (∃ w, ui.screen = [w] ∧ w.kind = .invalidCharger ∧ ui.invalidCharger ≠ 0) ∨
      ∃ w, ui.screen = [w] ∧ w.kind = .lowBattery ∧ w.level = ui.batteryLevel ∧ ui.plugType = 0 := by
  have hconsistent : Consistent ui := runSteps_invariant_of_meets Consistent
    (fun _ _ _ hsettled h hstep => consistent_step hsettled h hstep) hmeets (.idle rfl) hrun
  cases hconsistent with
  | idle h => exact .inl (dialogs_eq_iff.mp h).1
  | warning w h hkind hlevel hplug =>
    exact .inr (.inr ⟨w, (dialogs_eq_iff.mp h).1, hkind, hlevel, hplug⟩)
  | warningClosed d h => exact .inl (dialogs_eq_iff.mp h).1
  | invalid w h hkind hcharger => exact .inr (.inl ⟨w, (dialogs_eq_iff.mp h).1, hkind, hcharger⟩)
  | invalidClosed d h => exact .inl (dialogs_eq_iff.mp h).1
  | invalidFirst w d h hkind hcharger => exact .inr (.inl ⟨w, (dialogs_eq_iff.mp h).1, hkind, hcharger⟩)
  | bothClosed d d' h => exact .inl (dialogs_eq_iff.mp h).1

/-- The warning, the charger of another device, and the user who closes its dialog. -/
def otherCharger : List Event :=
  [.batteryChanged ⟨some 14, some 3, some 0, some 0⟩ audible,
    .batteryChanged ⟨some 13, some 3, some 1, some 1⟩ audible, .listener,
    .batteryChanged ⟨some 13, some 3, some 1, some 1⟩ audible]

theorem dialogs_consistent_invalid :
    ∃ ui, runSteps step (start someConfig none) otherCharger = some ui ∧
      ui.screen = [⟨1, .invalidCharger, 0⟩] ∧
      (ui.screen = [] ∨ (∃ w, ui.screen = [w] ∧ w.kind = .invalidCharger ∧ ui.invalidCharger ≠ 0) ∨
        ∃ w, ui.screen = [w] ∧ w.kind = .lowBattery ∧ w.level = ui.batteryLevel ∧ ui.plugType = 0) := by
  obtain ⟨ui, hrun⟩ : ∃ ui, runSteps step (start someConfig none) otherCharger = some ui := ⟨_, rfl⟩
  refine ⟨ui, hrun, ?_, dialogs_consistent (by decide) hrun⟩
  cases hrun
  rfl

/-! ## A warning that is left behind -/

/-- A dialog on the screen that no field refers to. -/
structure Orphan (w : Window) (ui : PowerUi) : Prop where
  shown : w ∈ ui.screen
  old : w.id < ui.next
  low : ui.lowBatteryDialog ≠ some w.id
  text : ui.batteryLevelTextView ≠ some w.id
  invalid : ui.invalidChargerDialog ≠ some w.id

namespace Orphan

variable {w : Window} {ui : PowerUi}

theorem dismiss (h : Orphan w ui) {d : Nat} (hne : w.id ≠ d) : Orphan w (ui.dismiss d) := by
  unfold PowerUi.dismiss
  split
  · exact h
  · exact ⟨List.mem_filter.mpr ⟨h.shown, by simpa using hne⟩, h.old, h.low, h.text, h.invalid⟩

theorem dismissLowBatteryWarning (h : Orphan w ui) : Orphan w ui.dismissLowBatteryWarning := by
  unfold PowerUi.dismissLowBatteryWarning
  split
  · rename_i id hid
    exact h.dismiss fun heq => h.low (hid.trans (congrArg some heq.symm))
  · exact h

theorem dismissInvalidChargerDialog (h : Orphan w ui) : Orphan w ui.dismissInvalidChargerDialog := by
  unfold PowerUi.dismissInvalidChargerDialog
  split
  · rename_i id hid
    exact h.dismiss fun heq => h.invalid (hid.trans (congrArg some heq.symm))
  · exact h

theorem fresh (h : Orphan w ui) : some ui.next ≠ some w.id :=
  fun heq => Nat.ne_of_gt h.old (Option.some.inj heq)

theorem showLowBatteryWarning (h : Orphan w ui) : Orphan w ui.showLowBatteryWarning := by
  unfold PowerUi.showLowBatteryWarning
  split
  · rename_i id hid
    have hne : w.id ≠ id := fun heq => h.text (hid.trans (congrArg some heq.symm))
    exact ⟨List.mem_map.mpr ⟨w, h.shown, if_neg hne⟩, h.old, h.low, h.text, h.invalid⟩
  · exact ⟨List.mem_append_left _ h.shown, Nat.lt_succ_of_lt h.old, h.fresh, h.fresh, h.invalid⟩

theorem showInvalidChargerDialog (h : Orphan w ui) : Orphan w ui.showInvalidChargerDialog := by
  have h' := h.dismissLowBatteryWarning
  exact ⟨List.mem_append_left _ h'.shown, Nat.lt_succ_of_lt h'.old, h'.low, h'.text, h'.fresh⟩

theorem lowBattery (h : Orphan w ui) (settings : SoundSettings) (oldPlugged plugged : Bool)
    (oldBucket bucket : Int) :
    Orphan w (ui.lowBattery settings oldPlugged plugged oldBucket bucket).1 := by
  unfold PowerUi.lowBattery
  split
  · exact h.showLowBatteryWarning
  · split
    · exact h.dismissLowBatteryWarning
    · split
      · exact h.showLowBatteryWarning
      · exact h

theorem receive (h : Orphan w ui) (intent : BatteryIntent) : Orphan w (ui.receive intent) :=
  ⟨h.shown, h.old, h.low, h.text, h.invalid⟩

theorem onDismiss (h : Orphan w ui) (kind : DialogKind) : Orphan w (ui.onDismiss kind) := by
  cases kind with
  | lowBattery => exact ⟨h.shown, h.old, nofun, nofun, h.invalid⟩
  | invalidCharger => exact ⟨h.shown, h.old, h.low, nofun, nofun⟩

theorem onBatteryChanged (h : Orphan w ui) {intent : BatteryIntent} {settings : SoundSettings}
    {p : PowerUi × Bool} (hreact : ui.onBatteryChanged intent settings = some p) : Orphan w p.1 := by
  have h' := h.receive intent
  rcases onBatteryChanged_cases ui intent settings with ⟨-, -, heq⟩ | ⟨-, -, heq⟩ | ⟨-, -, heq⟩ | ⟨-, -, heq⟩ <;>
    obtain rfl := Option.some.inj (heq.symm.trans hreact)
  · exact h'.showInvalidChargerDialog
  · exact h'.dismissInvalidChargerDialog.lowBattery settings _ _ _ _
  · exact h'
  · exact h'.lowBattery settings _ _ _ _

theorem step (h : Orphan w ui) {ui' : PowerUi} {e : Event} (he : e ≠ .close w.id)
    (hstep : ui.step e = some ui') : Orphan w ui' := by
  cases e with
  | batteryChanged intent settings =>
    obtain ⟨p, hreact, rfl⟩ := Option.map_eq_some_iff.mp hstep
    exact h.onBatteryChanged hreact
  | screenOff elapsedRealtime =>
    cases hstep
    exact ⟨h.shown, h.old, h.low, h.text, h.invalid⟩
  | screenOn =>
    cases hstep
    exact ⟨h.shown, h.old, h.low, h.text, h.invalid⟩
  | close id =>
    simp only [PowerUi.step, react] at hstep
    split at hstep
    · cases hstep
      exact h.dismiss fun heq => he (congrArg Event.close heq.symm)
    · cases hstep
  | why =>
    cases hstep
    exact h.dismissLowBatteryWarning
  | listener =>
    simp only [PowerUi.step, react] at hstep
    cases hlisteners : ui.listeners with
    | nil =>
      rw [hlisteners] at hstep
      cases hstep
    | cons kind listeners =>
      rw [hlisteners] at hstep
      cases hstep
      have h' : Orphan w { ui with listeners := listeners } := ⟨h.shown, h.old, h.low, h.text, h.invalid⟩
      exact h'.onDismiss kind

end Orphan

/-- The dialog of the invalid charger is on the screen and no listener is to run. -/
theorem Consistent.of_invalid {ui : PowerUi} (h : Consistent ui) {w : Window} (hscreen : ui.screen = [w])
    (hkind : w.kind = .invalidCharger) (hlisteners : ui.listeners = []) :
    ui.dialogs = ([w], [], none, none, some w.id) ∧ ui.invalidCharger ≠ 0 := by
  have hempty : ∀ {listeners low text invalid}, ui.dialogs ≠ ([], listeners, low, text, invalid) := by
    intro listeners low text invalid h
    cases hscreen.symm.trans (dialogs_eq_iff.mp h).1
  cases h with
  | idle h => exact absurd h hempty
  | warning v h hv =>
    cases hscreen.symm.trans (dialogs_eq_iff.mp h).1
    cases hkind.symm.trans hv
  | warningClosed d h => exact absurd h hempty
  | invalid v h hv hcharger =>
    cases hscreen.symm.trans (dialogs_eq_iff.mp h).1
    exact ⟨h, hcharger⟩
  | invalidClosed d h => exact absurd h hempty
  | invalidFirst v d h => cases hlisteners.symm.trans (dialogs_eq_iff.mp h).2.1
  | bothClosed d d' h => exact absurd h hempty

/-- A warning that is called for comes up where no text view is known. -/
theorem low_of_calls {old ui : PowerUi} {intent : BatteryIntent} (settings : SoundSettings)
    (hbattery : ui.battery = (old.receive intent).battery) (hcalls : old.calls intent = true)
    (htext : ui.batteryLevelTextView = none) : (old.low intent settings ui).1 =
      { ui with
        screen := ui.screen ++ [⟨ui.next, .lowBattery, ui.batteryLevel⟩]
        lowBatteryDialog := some ui.next
        batteryLevelTextView := some ui.next
        next := ui.next + 1 } := by
  rcases @low_cases old ui intent settings (congrArg (fun b => b.1.2.1) hbattery) with
    ⟨-, -, heq⟩ | ⟨hfalse, -⟩ | ⟨hfalse, -⟩ | ⟨hfalse, -⟩
  · rw [heq, showLowBatteryWarning, htext]
  · rw [hcalls] at hfalse
    cases hfalse
  · rw [hcalls] at hfalse
    cases hfalse
  · rw [hcalls] at hfalse
    cases hfalse

/-- Whether a broadcast takes the warning off the screen. -/
def closes (old : PowerUi) (intent : BatteryIntent) : Bool :=
  (old.receive intent).plugType != 0 ||
    decide (old.bucket (old.receive intent).batteryLevel > old.bucket old.batteryLevel ∧
      old.bucket (old.receive intent).batteryLevel > 0)

/-- A broadcast that neither calls for a warning nor takes one off, where no text view is known. -/
theorem low_of_quiet {old ui : PowerUi} {intent : BatteryIntent} (settings : SoundSettings)
    (hstatus : ui.batteryStatus = (old.receive intent).batteryStatus) (hcalls : old.calls intent = false)
    (hcloses : old.closes intent = false) (htext : ui.batteryLevelTextView = none) :
    (old.low intent settings ui).1 = ui := by
  unfold low lowBattery
  unfold closes at hcloses
  rw [hstatus, ← calls, hcalls, htext]
  simp only [Bool.or_eq_false_iff, decide_eq_false_iff_not] at hcloses
  simp [hcloses.1, hcloses.2]

/-- The events after which a warning that is alone on the screen is there still: broadcasts without an
    invalid charger, which do nothing up to the listener of the other dialog and then neither call for a
    warning nor take one off, and no click of the user. -/
def Leaves (ui : PowerUi) : Event → Prop
  | .batteryChanged intent _ => intent.invalidCharger.getD 0 = 0 ∧
      (ui.invalidChargerDialog = none → ui.calls intent = false ∧ ui.closes intent = false)
  | .close _ | .why => False
  | _ => True

instance (ui : PowerUi) (e : Event) : Decidable (ui.Leaves e) := by
  cases e <;> unfold Leaves <;> infer_instance

/-- A warning is alone on the screen, and the listener of the other dialog is to run. -/
structure Awaited (w : Window) (ui : PowerUi) : Prop where
  dialogs : ∃ d, ui.dialogs = ([w], [.invalidCharger], some w.id, some w.id, some d)
  next : ui.next = w.id + 1
  charger : ui.invalidCharger = 0

/-- The listener has run: the text view is not known any more. -/
structure Forgotten (w : Window) (ui : PowerUi) : Prop where
  dialogs : ui.dialogs = ([w], [], some w.id, none, none)
  next : ui.next = w.id + 1
  charger : ui.invalidCharger = 0

/-- A broadcast ends the invalid charge and calls for a warning: it comes up while the listener of the other
    dialog is still to run. -/
theorem awaited_of_ends {ui ui' : PowerUi} {w : Window} (hscreen : ui.screen = [w])
    (hdialogs : ui.dialogs = ([w], [], none, none, some w.id)) (hkind : w.kind = .invalidCharger)
    (hcharger : ui.invalidCharger ≠ 0) {intent : BatteryIntent} {settings : SoundSettings}
    (hends : intent.invalidCharger.getD 0 = 0) (hcalls : ui.calls intent = true)
    (hstep : ui.step (.batteryChanged intent settings) = some ui') :
    Awaited ⟨ui.next, .lowBattery, intent.level.getD 100⟩ ui' := by
  obtain ⟨⟨ui1, sound⟩, hreact, rfl⟩ := Option.map_eq_some_iff.mp hstep
  have hreact' : ui.onBatteryChanged intent settings = some (ui1, sound) := hreact
  have hbattery := onBatteryChanged_battery ui intent settings hreact'
  obtain ⟨-, hlisteners, hlow, htext, hdialog⟩ := dialogs_eq_iff.mp hdialogs
  rcases onBatteryChanged_cases ui intent settings with
    ⟨hzero, -⟩ | ⟨-, -, heq⟩ | ⟨hiff, -⟩ | ⟨hiff, -⟩
  · exact absurd hzero hcharger
  · have hclosed := @dismiss_shown (ui.receive intent) w hscreen
    obtain ⟨hscreen', hlisteners', hlow', htext', hdialog'⟩ := dialogs_eq_iff.mp hclosed
    have hdismiss := dismiss_battery (ui.receive intent) w.id
    rw [@dismissInvalidChargerDialog_of_some (ui.receive intent) w.id hdialog] at heq
    have hfst : ui1 = _ := (congrArg Prod.fst (Option.some.inj (heq.symm.trans hreact'))).symm
    rw [low_of_calls settings hdismiss hcalls (htext'.trans htext)] at hfst
    have hnext : ((ui.receive intent).dismiss w.id).next = ui.next := dismiss_next _ _
    have hlevel : ((ui.receive intent).dismiss w.id).batteryLevel = intent.level.getD 100 :=
      congrArg (fun b => b.1.1) hdismiss
    refine ⟨⟨w.id, ?_⟩, ?_, (congrArg (fun b => b.1.2.2.2) hbattery).trans hends⟩
    · rw [show (ui1, sound).1 = ui1 from rfl, hfst]
      refine dialogs_eq_iff.mpr ⟨?_, ?_, ?_, ?_, hdialog'.trans hdialog⟩
      · rw [hscreen', hnext, hlevel]
        rfl
      · exact hlisteners'.trans
          (by rw [show (ui.receive intent).listeners = [] from hlisteners, hkind]; rfl)
      · exact congrArg some hnext
      · exact congrArg some hnext
    · rw [show (ui1, sound).1 = ui1 from rfl, hfst]
      exact congrArg (· + 1) hnext
  · exact absurd (hiff.mpr hends) hcharger
  · exact absurd (hiff.mpr hends) hcharger

/-- Up to the listener nothing changes; it forgets the text view. -/
theorem Awaited.step {w : Window} {ui ui' : PowerUi} {e : Event} (h : Awaited w ui)
    (he : ui.Leaves e) (hstep : ui.step e = some ui') :
    (e ≠ .listener ∧ Awaited w ui') ∨ (e = .listener ∧ Forgotten w ui') := by
  obtain ⟨⟨d, hdialogs⟩, hnext, hcharger⟩ := h
  obtain ⟨hscreen, hlisteners, hlow, -, hdialog⟩ := dialogs_eq_iff.mp hdialogs
  cases e with
  | batteryChanged intent settings =>
    obtain ⟨⟨ui1, sound⟩, hreact, rfl⟩ := Option.map_eq_some_iff.mp hstep
    have hreact' : ui.onBatteryChanged intent settings = some (ui1, sound) := hreact
    refine .inl ⟨nofun, ?_⟩
    rcases onBatteryChanged_cases ui intent settings with
      ⟨-, hne, -⟩ | ⟨hne, -⟩ | ⟨-, -, heq⟩ | ⟨-, hnone, -⟩
    · exact absurd he.1 hne
    · exact absurd hcharger hne
    · cases heq.symm.trans hreact'
      exact ⟨⟨d, hdialogs⟩, hnext, he.1⟩
    · cases hdialog.symm.trans hnone
  | screenOff elapsedRealtime =>
    cases hstep
    exact .inl ⟨nofun, ⟨d, hdialogs⟩, hnext, hcharger⟩
  | screenOn =>
    cases hstep
    exact .inl ⟨nofun, ⟨d, hdialogs⟩, hnext, hcharger⟩
  | close id => exact he.elim
  | why => exact he.elim
  | listener =>
    simp only [PowerUi.step, react, hlisteners, Option.map_some, Option.some.injEq] at hstep
    subst hstep
    exact .inr ⟨rfl, dialogs_eq_iff.mpr ⟨hscreen, rfl, hlow, rfl, rfl⟩, hnext, hcharger⟩

theorem Forgotten.step {w : Window} {ui ui' : PowerUi} {e : Event} (h : Forgotten w ui)
    (he : ui.Leaves e) (hstep : ui.step e = some ui') : Forgotten w ui' := by
  obtain ⟨hdialogs, hnext, hcharger⟩ := h
  obtain ⟨-, hlisteners, -, htext, hdialog⟩ := dialogs_eq_iff.mp hdialogs
  cases e with
  | batteryChanged intent settings =>
    obtain ⟨⟨ui1, sound⟩, hreact, rfl⟩ := Option.map_eq_some_iff.mp hstep
    have hreact' : ui.onBatteryChanged intent settings = some (ui1, sound) := hreact
    obtain ⟨hcalls, hcloses⟩ := he.2 hdialog
    rcases onBatteryChanged_cases ui intent settings with
      ⟨-, hne, -⟩ | ⟨hne, -⟩ | ⟨-, hne, -⟩ | ⟨-, -, heq⟩
    · exact absurd he.1 hne
    · exact absurd hcharger hne
    · exact absurd hdialog hne
    · have hfst : ui1 = _ := (congrArg Prod.fst (Option.some.inj (heq.symm.trans hreact'))).symm
      have hquiet := @low_of_quiet ui (ui.receive intent) intent settings rfl hcalls hcloses htext
      rw [show (ui1, sound).1 = ui1 from rfl, hfst, hquiet]
      exact ⟨hdialogs, hnext, he.1⟩
  | screenOff elapsedRealtime =>
    cases hstep
    exact ⟨hdialogs, hnext, hcharger⟩
  | screenOn =>
    cases hstep
    exact ⟨hdialogs, hnext, hcharger⟩
  | close id => exact he.elim
  | why => exact he.elim
  | listener =>
    simp only [PowerUi.step, react, hlisteners, Option.map_none, reduceCtorEq] at hstep

theorem Forgotten.run {w : Window} {ui ui' : PowerUi} {es : List Event} (h : Forgotten w ui)
    (hmeets : RunMeets PowerUi.step Leaves ui es) (hrun : runSteps PowerUi.step ui es = some ui') : Forgotten w ui' :=
  runSteps_invariant_of_meets (Forgotten w) (fun _ _ _ he h hstep => h.step he hstep) hmeets h hrun

/-- By the time that the listener has run, the text view is forgotten. -/
theorem Awaited.run {w : Window} {ui ui' : PowerUi} {es : List Event} (h : Awaited w ui)
    (hmeets : RunMeets PowerUi.step Leaves ui es) (hlistener : .listener ∈ es)
    (hrun : runSteps PowerUi.step ui es = some ui') : Forgotten w ui' := by
  induction es generalizing ui with
  | nil => exact absurd hlistener List.not_mem_nil
  | cons e es ih =>
    obtain ⟨t, hstep, hrest⟩ := runSteps_cons_eq_some.mp hrun
    rcases h.step hmeets.1 hstep with ⟨hne, ht⟩ | ⟨-, ht⟩
    · exact ih ht (hmeets.2 t hstep) ((List.mem_cons.mp hlistener).resolve_left hne.symm) hrest
    · exact ht.run (hmeets.2 t hstep) hrest

/-- The next warning that is called for is another dialog, and no field refers to the first one. -/
theorem Forgotten.warns {w : Window} {ui ui' : PowerUi} {intent : BatteryIntent}
    {settings : SoundSettings} (h : Forgotten w ui) (hvalid : intent.invalidCharger.getD 0 = 0)
    (hcalls : ui.calls intent = true) (hstep : ui.step (.batteryChanged intent settings) = some ui') :
    ui'.screen = [w, ⟨w.id + 1, .lowBattery, intent.level.getD 100⟩] ∧ Orphan w ui' := by
  obtain ⟨hdialogs, hnext, hcharger⟩ := h
  obtain ⟨hscreen, -, -, htext, hdialog⟩ := dialogs_eq_iff.mp hdialogs
  obtain ⟨⟨ui1, sound⟩, hreact, rfl⟩ := Option.map_eq_some_iff.mp hstep
  have hreact' : ui.onBatteryChanged intent settings = some (ui1, sound) := hreact
  rcases onBatteryChanged_cases ui intent settings with
    ⟨-, hne, -⟩ | ⟨hne, -⟩ | ⟨-, hne, -⟩ | ⟨-, -, heq⟩
  · exact absurd hvalid hne
  · exact absurd hcharger hne
  · exact absurd hdialog hne
  · have hfst : ui1 = _ := (congrArg Prod.fst (Option.some.inj (heq.symm.trans hreact'))).symm
    rw [low_of_calls settings rfl hcalls htext] at hfst
    have hshown : ui1.screen = [w, ⟨w.id + 1, .lowBattery, intent.level.getD 100⟩] := by
      rw [hfst]
      exact (congrArg (· ++ _) hscreen).trans (by rw [← hnext]; rfl)
    have hlow : ui1.lowBatteryDialog = some (w.id + 1) := by
      rw [hfst]
      exact congrArg some hnext
    have htext' : ui1.batteryLevelTextView = some (w.id + 1) := by
      rw [hfst]
      exact congrArg some hnext
    have hinvalid : ui1.invalidChargerDialog = none := by
      rw [hfst]
      exact hdialog
    have hlater : ui1.next = w.id + 2 := by
      rw [hfst]
      exact congrArg (· + 1) hnext
    refine ⟨hshown, ?_, ?_, ?_, ?_, ?_⟩
    · rw [hshown]
      exact List.mem_cons_self
    · rw [hlater]
      exact Nat.lt_add_of_pos_right (Nat.succ_pos 1)
    · rw [hlow]
      simp
    · rw [htext']
      simp
    · rw [hinvalid]
      simp

/-- Where a broadcast ends an invalid charge and calls for a warning at once, the listener of the dialog that
    goes forgets the text view of the one that comes. When a warning is called for again there are two, and
    in every run from there the first one stays as it is, plugged or not, until the user closes it. -/
theorem warning_orphaned {config : Config} {screenOff : Option Int} {es between es' : List Event}
    {ui ui1 ui2 ui3 ui' : PowerUi} (hmeets : RunMeets step Settled (start config screenOff) es)
    (hrun : runSteps step (start config screenOff) es = some ui) {w : Window} (hscreen : ui.screen = [w])
    (hkind : w.kind = .invalidCharger) (hlisteners : ui.listeners = []) {intent1 intent2 : BatteryIntent}
    {settings1 settings2 : SoundSettings} (hends : intent1.invalidCharger.getD 0 = 0)
    (hcalls1 : ui.calls intent1 = true) (h1 : ui.step (.batteryChanged intent1 settings1) = some ui1)
    (hleaves : RunMeets step Leaves ui1 between) (hlistener : .listener ∈ between)
    (h2 : runSteps step ui1 between = some ui2) (hvalid : intent2.invalidCharger.getD 0 = 0)
    (hcalls2 : ui2.calls intent2 = true) (h3 : ui2.step (.batteryChanged intent2 settings2) = some ui3)
    (hopen : ∀ e ∈ es', e ≠ .close ui.next) (hrun' : runSteps step ui3 es' = some ui') :
    ui3.screen = [⟨ui.next, .lowBattery, intent1.level.getD 100⟩,
        ⟨ui.next + 1, .lowBattery, intent2.level.getD 100⟩] ∧
      ⟨ui.next, .lowBattery, intent1.level.getD 100⟩ ∈ ui'.screen := by
  have hconsistent : Consistent ui := runSteps_invariant_of_meets Consistent
    (fun _ _ _ hsettled h hstep => consistent_step hsettled h hstep) hmeets (.idle rfl) hrun
  obtain ⟨hdialogs, hcharger⟩ := hconsistent.of_invalid hscreen hkind hlisteners
  have hawaited := awaited_of_ends hscreen hdialogs hkind hcharger hends hcalls1 h1
  obtain ⟨hscreen3, horphan⟩ := (hawaited.run hleaves hlistener h2).warns hvalid hcalls2 h3
  refine ⟨hscreen3, ?_⟩
  exact (runSteps_invariant (Orphan ⟨ui.next, .lowBattery, intent1.level.getD 100⟩)
    (fun e => e ≠ .close ui.next) (fun _ _ _ he h hstep => h.step he hstep) hopen horphan hrun').shown

/-- The battery gets low while an invalid charger is there, which is then unplugged; it runs down, and at
    last the right one is plugged in. -/
theorem warning_orphaned_plugged :
    ∃ ui ui', runSteps step (start someConfig none)
        [.batteryChanged ⟨some 30, some 3, some 1, some 1⟩ audible] = some ui ∧
      runSteps step ui [.batteryChanged ⟨some 14, some 3, some 0, some 0⟩ audible, .listener,
        .batteryChanged ⟨some 13, some 3, some 0, some 0⟩ audible,
        .batteryChanged ⟨some 4, some 3, some 0, some 0⟩ audible,
        .batteryChanged ⟨some 5, some 2, some 1, some 0⟩ audible] = some ui' ∧
      ⟨1, .lowBattery, 14⟩ ∈ ui'.screen := by
  obtain ⟨ui, hrun⟩ : ∃ ui, runSteps step (start someConfig none)
      [.batteryChanged ⟨some 30, some 3, some 1, some 1⟩ audible] = some ui := ⟨_, rfl⟩
  cases hrun
  refine ⟨_, _, rfl, rfl, ?_⟩
  exact (@warning_orphaned someConfig none [.batteryChanged ⟨some 30, some 3, some 1, some 1⟩ audible]
    [.listener, .batteryChanged ⟨some 13, some 3, some 0, some 0⟩ audible]
    [.batteryChanged ⟨some 5, some 2, some 1, some 0⟩ audible] _ _ _ _ _ (by decide) rfl
    ⟨0, .invalidCharger, 0⟩ rfl rfl rfl ⟨some 14, some 3, some 0, some 0⟩ ⟨some 4, some 3, some 0, some 0⟩
    audible audible rfl rfl rfl (by decide) (by decide) rfl rfl rfl rfl (by decide) rfl).2

end PowerUi

end AndroidPatch.SystemUi
