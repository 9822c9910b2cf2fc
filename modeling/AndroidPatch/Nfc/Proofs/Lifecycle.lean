import AndroidPatch.Nfc.Lifecycle

/-!
# What is lost when the NFC devices come and go

Each probe is followed through its labels once, and the account of every run comes from
`Driver.Spec.held_eq_start`: what the pn544 loses are the platform resources of a device whose platform has no
hook to free them, and what the pn533 loses is the reference to the USB device.
-/

namespace AndroidPatch.Nfc

namespace Pn544

/-! ## The pn544 -/

/-- The platform gives its resources. -/
def Environment.granted (env : Environment) : Bool :=
  env.pdata.any fun pdata => pdata.requestResources == some 0

/-- The platform has a hook that frees them. -/
def Environment.frees (env : Environment) : Bool := env.pdata.any PlatformData.freeResources

/-- A probe gets platform resources that nothing frees. -/
def Environment.loses (env : Environment) : Bool :=
  env.info && (env.buf && (0 ≤ env.regulators && (env.granted && !env.frees)))

/-- What is taken for good. -/
abbrev owed (b : Bool) : List Resource := oneIf b .platform

/-- What a probe that succeeds has taken. -/
def taken (pdata : PlatformData) : Multiset Resource :=
  .miscdev ::ₘ consIf pdata.test .nfcTest (.irq ::ₘ .platform ::ₘ {.regulators, .buf, .info})

/-- What a bound device gives back. -/
def keeps (env : Environment) : Multiset Resource :=
  match env.pdata with
  | none => 0
  | some pdata =>
    .miscdev ::ₘ consIf pdata.test .nfcTest
      (.irq ::ₘ consIf pdata.freeResources .platform {.regulators, .buf, .info})

section Labels

variable (h : Multiset Resource) (pdata : PlatformData)

theorem applyAll_errReg : applyAll (.regulators ::ₘ .buf ::ₘ .info ::ₘ h) errReg = some h := by
  simp [errReg, errKmalloc, errBufAlloc]

theorem applyAll_errRes :
    applyAll (.platform ::ₘ {.regulators, .buf, .info}) (errRes pdata) =
      some (owed (!pdata.freeResources)) := by
  cases hfree : pdata.freeResources with
  | true =>
    rw [errRes, handleIf, hfree]
    exact (applyAll_give _ _ _).trans (applyAll_errReg 0)
  | false =>
    rw [errRes, handleIf, hfree]
    exact applyAll_add (applyAll_errReg 0) {.platform}

theorem applyAll_errSysfs :
    applyAll (consIf pdata.test .nfcTest (.irq ::ₘ h)) (errSysfs pdata) = applyAll h (errRes pdata) := by
  rw [errSysfs, applyAll_handleIf_give, errIrq, applyAll_give]

end Labels

theorem applyAll_remove (env : Environment) : applyAll (keeps env) (remove env) = some 0 := by
  rw [keeps, remove]
  cases env.pdata with
  | none => rfl
  | some pdata =>
    rw [applyAll_give, applyAll_errSysfs, errRes, applyAll_handleIf_give]
    exact applyAll_errReg 0

theorem ne_zero_of_decide {rc : Int} (h : decide (0 ≤ rc) = false) : rc ≠ 0 := by
  intro hrc
  simp [hrc] at h

theorem probeRequested_ends (env : Environment) (pdata : PlatformData) :
    ∃ c, Ends (.platform ::ₘ {.regulators, .buf, .info}) (probeRequested env pdata) c (taken pdata)
      (owed (!pdata.freeResources)) := by
  have hres := applyAll_errRes pdata
  have hirq : applyAll (.irq ::ₘ .platform ::ₘ {.regulators, .buf, .info}) (errIrq pdata) =
      some (owed (!pdata.freeResources)) := by
    rw [errIrq, applyAll_give, hres]
  have hsysfs : applyAll (consIf pdata.test .nfcTest (.irq ::ₘ .platform ::ₘ {.regulators, .buf, .info}))
      (errSysfs pdata) = some (owed (!pdata.freeResources)) := by
    rw [applyAll_errSysfs, hres]
  exact ⟨_, .attempt hres ne_zero_of_decide
    (.attemptIf hirq (fun h => of_decide_eq_false h) (.attempt hsysfs ne_zero_of_decide .nil))⟩

/-- It is taken for good, or given back. -/
theorem taken_eq {env : Environment} {pdata : PlatformData} (hpdata : env.pdata = some pdata) :
    taken pdata = owed (!pdata.freeResources) + keeps env := by
  rw [taken, keeps, hpdata]
  dsimp only
  generalize pdata.freeResources = free
  generalize pdata.test = test
  revert free test
  decide

theorem probePlatform_ends (env : Environment) :
    ∃ c, Ends {.regulators, .buf, .info} (probePlatform env) c
      (owed (env.granted && !env.frees) + keeps env)
      (owed (env.granted && !env.frees)) := by
  have hreg := applyAll_errReg 0
  rw [probePlatform, Environment.granted, Environment.frees]
  cases hpdata : env.pdata with
  | none => exact ⟨false, .fails hreg (by decide)⟩
  | some pdata =>
    dsimp only [Option.any_some]
    cases pdata.requestResources with
    | none => exact ⟨false, .fails hreg (by decide)⟩
    | some r =>
      by_cases hr : r = 0
      · obtain ⟨c, hends⟩ := probeRequested_ends env pdata
        rw [taken_eq hpdata] at hends
        subst hr
        exact ⟨c, hends⟩
      · have hreq : (r == 0) = false := beq_false_of_ne hr
        refine ⟨false, ?_⟩
        simpa [attempt, oneIf, hr, hreq] using Ends.fails hreg hr

theorem probe_ends (env : Environment) :
    ∃ c, Ends 0 (probe env) c (owed env.loses + keeps env) (owed env.loses) := by
  have henomem : ∀ {ok : Bool}, ok = false → enomem ≠ 0 := fun _ => by decide
  obtain ⟨c, hends⟩ := probePlatform_ends env
  exact ⟨_, .attempt_oneIf rfl henomem (.attempt_oneIf rfl henomem
    (.attempt_oneIf rfl ne_zero_of_decide hends))⟩

theorem driver_spec :
    driver.Spec (fun _ env => owed env.loses) (fun _ => keeps) (fun _ _ => True) fun _ => False where
  bound _ env hrc := by
    obtain ⟨c, hends⟩ := probe_ends env
    exact hends.bound hrc
  failed _ env hrc := by
    obtain ⟨c, hends⟩ := probe_ends env
    exact hends.failed hrc
  debt_spared _ _ _ := False.elim
  removed _ env _ := applyAll_remove env
  unsound _ _ _ _ hnot := absurd trivial hnot

/-- However often the device comes and goes and whatever its probes run into, nothing is given back that is
    not there, the bound device has what it needs, and all that is lost are the platform resources that a
    probe got on a platform without a hook to free them, once for each such probe. -/
theorem platform_lost {es : List (DriverEvent Environment)} {s : Driver.State Unit Environment Resource}
    (hrun : runSteps driver.step (Driver.start ()) es = some s) :
    s.held = some (Multiset.replicate (es.countP (DriverEvent.binds Environment.loses)) .platform +
      s.bound.elim 0 keeps) := by
  have hheld := (driver_spec.held_eq_start hrun).1
    (.of_forall (fun e _ s => by cases e <;> simp [Driver.Sound]) _)
  rw [hheld, Driver.outputs_debts_eq (fun _ _ => rfl) hrun]
  rfl

/-- A device whose platform does not free its resources comes, goes and fails to come back. -/
def comeAndGo : List (DriverEvent Environment) :=
  [.bind ⟨true, true, 0, some ⟨some 0, false, true⟩, 0, 0, 0⟩, .unbind,
    .bind ⟨true, true, 0, some ⟨some 0, false, true⟩, 0, 0, -16⟩]

theorem platform_lost_twice :
    ∃ s, runSteps driver.step (Driver.start ()) comeAndGo = some s ∧ s.held = some {.platform, .platform} :=
  ⟨_, rfl, (platform_lost (rfl : runSteps driver.step (Driver.start ()) comeAndGo = some _)).trans rfl⟩

end Pn544

namespace Pn533

/-! ## The pn533 -/

/-- The reference to the USB device, as what is taken for good. -/
abbrev owed (b : Bool) : List Resource := oneIf b .udev

/-- The probe returns 0 with an NFC device. -/
def Environment.attaches (env : Environment) : Bool := (probe env).2 == 0 && env.nfcDev

/-- What a probe that returns 0 has taken: where the NFC device could not be allocated, nothing. -/
def taken (env : Environment) : Multiset Resource :=
  if env.nfcDev then {.registration, .nfcDev, .wq, .outUrb, .inUrb, .udev, .dev} else 0

/-- What a bound device gives back. -/
def keeps (env : Environment) : Multiset Resource :=
  if env.nfcDev then {.registration, .nfcDev, .wq, .inUrb, .outUrb, .dev} else 0

theorem taken_eq (env : Environment) : taken env = owed (0 == (0 : Int) && env.nfcDev) + keeps env := by
  rw [taken, keeps]
  cases env.nfcDev with
  | true => decide
  | false => rfl

section Labels

theorem applyAll_error : ∀ inUrb outUrb : Bool,
    applyAll (consIf outUrb .outUrb (consIf inUrb .inUrb {.udev, .dev})) (error inUrb outUrb) = some 0 := by
  decide

theorem applyAll_destroyWq : applyAll {.wq, .outUrb, .inUrb, .udev, .dev} destroyWq = some 0 :=
  (applyAll_give _ _ _).trans (applyAll_error true true)

theorem applyAll_freeNfcDev : applyAll {.nfcDev, .wq, .outUrb, .inUrb, .udev, .dev} freeNfcDev = some 0 :=
  (applyAll_give _ _ _).trans applyAll_destroyWq

theorem applyAll_unregisterNfcDev :
    applyAll {.registration, .nfcDev, .wq, .outUrb, .inUrb, .udev, .dev} unregisterNfcDev = some 0 :=
  (applyAll_give _ _ _).trans applyAll_freeNfcDev

end Labels

/-- A label that returns 0 is taken for the end of the routine. -/
theorem hollow_ends (rc : Int) {rest : Routine Resource} :
    Ends {.wq, .outUrb, .inUrb, .udev, .dev} (attempt false .nfcDev destroyWq rc rest) (decide (rc = 0)) 0 0 :=
  ⟨by simpa [attempt] using applyAll_destroyWq, by simp [attempt]⟩

theorem probeNfcDev_ends (env : Environment) :
    ∃ c, Ends {.wq, .outUrb, .inUrb, .udev, .dev} (probeNfcDev env) c (taken env) 0 := by
  rw [probeNfcDev, taken]
  cases env.nfcDev with
  | true =>
    exact ⟨_, .check applyAll_destroyWq Pn544.ne_zero_of_decide
      (.attempt applyAll_destroyWq nofun
        (.attempt applyAll_freeNfcDev of_decide_eq_false
          (.check applyAll_unregisterNfcDev of_decide_eq_false .nil)))⟩
  | false =>
    -- the failed allocation returns what the firmware was asked for
    exact ⟨_, .check applyAll_destroyWq Pn544.ne_zero_of_decide
      (hollow_ends (getFirmwareVersion env.versionSkb env.versionResp))⟩

theorem probeType_ends (env : Environment) :
    ∃ c, Ends {.wq, .outUrb, .inUrb, .udev, .dev} (probeType env) c (taken env) 0 := by
  obtain ⟨c, hends⟩ := probeNfcDev_ends env
  rw [probeType]
  cases env.deviceType with
  | std => exact ⟨c, hends⟩
  | pasori => exact ⟨c, hends⟩
  | acr122u => exact ⟨_, .check applyAll_destroyWq Pn544.ne_zero_of_decide hends⟩
  | unknown => exact ⟨false, .fails applyAll_destroyWq (by decide)⟩

theorem enomem_ne_zero {ok : Bool} : ok = false → enomem ≠ 0 := fun _ => by decide

/-- The URBs: the label frees those that are there. -/
theorem urbs_end {rest : Routine Resource} {c : Bool} {done : Multiset Resource} (inUrb outUrb : Bool)
    (hrest : Ends {.outUrb, .inUrb, .udev, .dev} rest c done 0) :
    ∃ c, Ends {.udev, .dev} (obtainingIf inUrb .inUrb <| obtainingIf outUrb .outUrb <|
      check (inUrb && outUrb) (error inUrb outUrb) enomem rest) c done 0 := by
  cases hboth : inUrb && outUrb with
  | true =>
    obtain ⟨rfl, rfl⟩ := Bool.and_eq_true_iff.mp hboth
    exact ⟨c, hrest⟩
  | false =>
    exact ⟨_, .obtainingIf (.obtainingIf (.fails (applyAll_error inUrb outUrb) (enomem_ne_zero hboth)))⟩

theorem probe_ends (env : Environment) : ∃ c, Ends 0 (probe env) c (taken env) 0 := by
  obtain ⟨c, htype⟩ := probeType_ends env
  have hwq : Ends {.outUrb, .inUrb, .udev, .dev} (attempt env.wq .wq (error true true) enomem (probeType env))
      (env.wq && c) (taken env) 0 :=
    .attempt (applyAll_error true true) enomem_ne_zero htype
  obtain ⟨c, hurbs⟩ := urbs_end env.inUrb env.outUrb hwq
  exact ⟨_, .attempt rfl enomem_ne_zero (.obtaining (.check rfl (fun _ => by decide) hurbs))⟩

theorem driver_spec :
    driver.Spec (fun _ env => owed env.attaches) (fun _ => keeps) (fun _ env => env.nfcDev = true)
      (· = .registration) where
  bound _ env hrc := by
    obtain ⟨c, hends⟩ := probe_ends env
    have hrc' : (probe env).2 = 0 := hrc
    rw [Environment.attaches, hrc', ← taken_eq]
    exact hends.bound hrc
  failed _ env hrc := by
    obtain ⟨c, hends⟩ := probe_ends env
    have hrc' : ((probe env).2 == 0) = false := beq_false_of_ne hrc
    rw [Environment.attaches, hrc']
    exact hends.failed hrc
  debt_spared _ env r hr := by
    subst hr
    cases env.attaches with
    | true => decide
    | false => decide
  removed _ env hnfc := by
    rw [keeps, if_pos hnfc]
    exact applyAll_gives [Resource.registration, .nfcDev, .wq, .inUrb, .outUrb, .dev]
  unsound _ env h hspared hnot := by
    rw [keeps, if_neg hnot, Multiset.add_zero]
    exact applyAll_give_of_notMem (hspared .registration rfl)

/-- A device whose NFC device could not be allocated is bound all the same, and that it goes is a fault.
    Without such a removal the driver gives back what it has taken and no more, whatever its probes run into,
    but for the reference to the USB device: one is lost for each device that was bound with an NFC device. -/
theorem udev_lost {es : List (DriverEvent Environment)} {s : Driver.State Unit Environment Resource}
    (hrun : runSteps driver.step (Driver.start ()) es = some s) :
    ((∀ past env post, es = past ++ .bind env :: .unbind :: post → env.nfcDev = true) →
      s.held = some (Multiset.replicate (es.countP (DriverEvent.binds Environment.attaches)) .udev +
        s.bound.elim 0 keeps)) ∧
    ∀ past env post, es = past ++ .bind env :: .unbind :: post → env.nfcDev = false → s.held = none := by
  obtain ⟨hgood, hbad⟩ := driver_spec.held_eq_start hrun
  rw [Driver.runMeets_sound_iff hrun] at hgood hbad
  refine ⟨fun hall => ?_, fun past env post hsplit hnfc => hbad fun hall => ?_⟩
  · rw [hgood hall, Driver.outputs_debts_eq (fun _ _ => rfl) hrun]
    rfl
  · exact Bool.false_ne_true (hnfc.symm.trans (hall past env post hsplit))

/-- A device for whose NFC device there may be no memory. -/
def plain (nfcDev : Bool) : Environment :=
  ⟨true, [⟨0x84, true⟩, ⟨0x04, true⟩], true, true, true, .std, 0, true, 0, nfcDev, 0, 0⟩

theorem udev_lost_once :
    (∃ s, runSteps driver.step (Driver.start ()) [.bind (plain true), .unbind] = some s ∧
        s.held = some {.udev}) ∧
      ∃ s, runSteps driver.step (Driver.start ()) [.bind (plain false), .unbind] = some s ∧
        s.held = none := by
  have hgood : runSteps driver.step (Driver.start ()) [.bind (plain true), .unbind] = some _ := rfl
  have hhollow : runSteps driver.step (Driver.start ()) [.bind (plain false), .unbind] = some _ := rfl
  refine ⟨⟨_, rfl, ((udev_lost hgood).1 ?_).trans rfl⟩, _, rfl,
    (udev_lost hhollow).2 [] (plain false) [] rfl rfl⟩
  intro past env post hsplit
  have hmem : DriverEvent.bind env ∈ [.bind (plain true), .unbind] := by simp [hsplit]
  simp only [List.mem_cons, DriverEvent.bind.injEq, reduceCtorEq, List.not_mem_nil, or_false] at hmem
  exact congrArg Environment.nfcDev hmem

end Pn533

end AndroidPatch.Nfc
