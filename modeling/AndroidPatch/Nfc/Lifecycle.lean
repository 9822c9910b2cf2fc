import AndroidPatch.Misc.Holdings
import AndroidPatch.Nfc.Pn544

/-!
# Binding the NFC devices

The probes of `drivers/nfc/pn544.c` and `drivers/nfc/pn533.c`, with the labels they go to when something
fails, and what is done when the device goes. What the kernel answers comes with the environment of a
probe. Left out are the fields that are set on the way and the messages; what the bound device does is in
the other modules.
-/

namespace AndroidPatch.Nfc

namespace Pn544

/-! ## The pn544 -/

def enomem : Int := -12

/-- What a bound pn544 has. -/
inductive Resource where
  | info
  | buf
  | regulators
  | platform
  | irq
  | nfcTest
  | miscdev
  deriving DecidableEq, Repr

/-- The hooks of `struct pn544_nfc_platform_data`: what `request_resources` returns, if it is there, and
    whether the two others are. -/
structure PlatformData where
  requestResources : Option Int
  freeResources : Bool
  test : Bool
  deriving DecidableEq, Repr

/-- What the kernel answers to a probe: whether the memory is there, the platform data of the device, and
    what the calls return. -/
structure Environment where
  info : Bool
  buf : Bool
  regulators : Int
  pdata : Option PlatformData
  irq : Int
  nfcTest : Int
  miscdev : Int
  deriving DecidableEq, Repr

def errBufAlloc : List (Handling Resource) := [.give .info]

def errKmalloc : List (Handling Resource) := .give .buf :: errBufAlloc

def errReg : List (Handling Resource) := .give .regulators :: errKmalloc

def errRes (pdata : PlatformData) : List (Handling Resource) :=
  handleIf pdata.freeResources (.give .platform) ++ errReg

def errIrq (pdata : PlatformData) : List (Handling Resource) := .give .irq :: errRes pdata

def errSysfs (pdata : PlatformData) : List (Handling Resource) :=
  handleIf pdata.test (.give .nfcTest) ++ errIrq pdata

/-- `pn544_probe` when it has the platform resources -/
def probeRequested (env : Environment) (pdata : PlatformData) : Routine Resource :=
  attempt (0 ≤ env.irq) .irq (errRes pdata) env.irq <|
  attemptIf pdata.test (env.nfcTest = 0) .nfcTest (errIrq pdata) env.nfcTest <|
  attempt (0 ≤ env.miscdev) .miscdev (errSysfs pdata) env.miscdev ([], 0)

/-- `pn544_probe` from the platform data on -/
def probePlatform (env : Environment) : Routine Resource :=
  match env.pdata with
  | none => (errReg, einval)
  | some pdata =>
    match pdata.requestResources with
    | none => (errReg, einval)
    | some r => attempt (r = 0) .platform errReg r (probeRequested env pdata)

/-- `pn544_probe` (`pn544.c:714-825`) -/
def probe (env : Environment) : Routine Resource :=
  attempt env.info .info [] enomem <|
  attempt env.buf .buf errBufAlloc enomem <|
  attempt (0 ≤ env.regulators) .regulators errKmalloc env.regulators (probePlatform env)

/-- `pn544_remove` (`pn544.c:827-854`); without platform data no device has been bound. -/
def remove (env : Environment) : List (Handling Resource) :=
  match env.pdata with
  | none => []
  | some pdata => .give .miscdev :: errSysfs pdata

def driver : Driver Unit Environment Resource where
  probe _ env := (probe env, ())
  remove _ env := remove env

end Pn544

namespace Pn533

/-! ## The pn533 -/

def enomem : Int := -12
def enodev : Int := -19
def einval : Int := -22

/-- What a bound pn533 has. -/
inductive Resource where
  | dev
  | udev
  | inUrb
  | outUrb
  | wq
  | nfcDev
  | registration
  deriving DecidableEq, Repr

inductive DeviceType where
  | std
  | pasori
  | acr122u
  | unknown
  deriving DecidableEq, Repr

structure Endpoint where
  bEndpointAddress : UInt8
  bulk : Bool
  deriving DecidableEq, Repr

/-- `usb_endpoint_is_bulk_in`: the direction is the highest bit of the address. -/
def Endpoint.isBulkIn (e : Endpoint) : Bool := e.bulk && e.bEndpointAddress &&& 0x80 == 0x80

def Endpoint.isBulkOut (e : Endpoint) : Bool := e.bulk && e.bEndpointAddress &&& 0x80 == 0

/-- What the kernel and the device answer to a probe. -/
structure Environment where
  dev : Bool
  endpoints : List Endpoint
  inUrb : Bool
  outUrb : Bool
  wq : Bool
  deviceType : DeviceType
  poweron : Int
  versionSkb : Bool
  versionResp : Int
  nfcDev : Bool
  registration : Int
  setup : Int
  deriving DecidableEq, Repr

/-- The addresses that the loop over the endpoints finds: the first one of each kind that is not 0. -/
def findEndpoints (endpoints : List Endpoint) : UInt8 × UInt8 :=
  endpoints.foldl
    (fun (inEndpoint, outEndpoint) e =>
      (if inEndpoint = 0 ∧ e.isBulkIn then e.bEndpointAddress else inEndpoint,
        if outEndpoint = 0 ∧ e.isBulkOut then e.bEndpointAddress else outEndpoint))
    (0, 0)

/-- `pn533_get_firmware_version` (`pn533.c:2436-2460`); a negative response is an error pointer. -/
def getFirmwareVersion (skb : Bool) (resp : Int) : Int :=
  if !skb then enomem else if resp < 0 then resp else 0

def error (inUrb outUrb : Bool) : List (Handling Resource) :=
  handleIf inUrb (.give .inUrb) ++ (handleIf outUrb (.give .outUrb) ++ [.give .udev, .give .dev])

def destroyWq : List (Handling Resource) := .give .wq :: error true true

def freeNfcDev : List (Handling Resource) := .give .nfcDev :: destroyWq

def unregisterNfcDev : List (Handling Resource) := .give .registration :: freeNfcDev

/-- `pn533_probe` from where the firmware is asked for its version -/
def probeNfcDev (env : Environment) : Routine Resource :=
  let rc := getFirmwareVersion env.versionSkb env.versionResp
  check (0 ≤ rc) destroyWq rc <|
  -- rc is still what the firmware was asked for
  attempt env.nfcDev .nfcDev destroyWq rc <|
  attempt (env.registration = 0) .registration freeNfcDev env.registration <|
  check (env.setup = 0) unregisterNfcDev env.setup ([], 0)

/-- `pn533_probe` from the switch on the type of the device on -/
def probeType (env : Environment) : Routine Resource :=
  match env.deviceType with
  | .std => probeNfcDev env
  | .pasori => probeNfcDev env
  | .acr122u => check (0 ≤ env.poweron) destroyWq env.poweron (probeNfcDev env)
  | .unknown => (destroyWq, einval)

/-- `pn533_probe` (`pn533.c:2666-2816`) -/
def probe (env : Environment) : Routine Resource :=
  attempt env.dev .dev [] enomem <|
  obtaining .udev <|
  check ((findEndpoints env.endpoints).1 ≠ 0 ∧ (findEndpoints env.endpoints).2 ≠ 0) (error false false)
    enodev <|
  obtainingIf env.inUrb .inUrb <|
  obtainingIf env.outUrb .outUrb <|
  check (env.inUrb && env.outUrb) (error env.inUrb env.outUrb) enomem <|
  attempt env.wq .wq (error true true) enomem (probeType env)

/-- `pn533_disconnect` (`pn533.c:2818-2848`) -/
def disconnect : List (Handling Resource) :=
  [.give .registration, .give .nfcDev, .give .wq, .give .inUrb, .give .outUrb, .give .dev]

def driver : Driver Unit Environment Resource where
  probe _ env := (probe env, ())
  remove _ _ := disconnect

end Pn533

end AndroidPatch.Nfc
