import Mathlib.Data.Nat.Bitwise

/-!
# The poll cycle of the pn533 driver

How `drivers/nfc/pn533.c` polls for targets: the list of the modulations to be polled, the command
that is sent for one of them, and what is done with its response (`pn533.c:224-301`, `1157-1503`,
`1637-1862`, `2037-2049`).

Only the commands of the poll cycle are modelled. They are answered in the order in which they were
sent; a command that the driver loses is never answered. What the rest of the driver does to the
fields that the cycle reads is arbitrary.
-/

namespace AndroidPatch.Nfc

/-! ## Constants -/

/-- The masks of `linux/nfc.h`. -/
def nfcProtoJewelMask : Nat := 1 <<< 1
def nfcProtoMifareMask : Nat := 1 <<< 2
def nfcProtoFelicaMask : Nat := 1 <<< 3
def nfcProtoIso14443Mask : Nat := 1 <<< 4
def nfcProtoNfcDepMask : Nat := 1 <<< 5
def nfcProtoIso14443BMask : Nat := 1 <<< 6

/-- `linux/errno.h` -/
def enoent : Int := 2
def eagain : Int := 11
def ebusy : Int := 16
def einval : Int := 22
def eproto : Int := 71
def eopnotsupp : Int := 95

/-! ## Modulations -/

/-- `PN533_POLL_MOD_*` and `PN533_LISTEN_MOD`. -/
inductive Modulation where
  | kbps106A
  | kbps212Felica
  | kbps424Felica
  | kbps106Jewel
  | kbps847B
  | listen
  deriving DecidableEq, Repr

/-- The value of the enumerator, which is the index in `poll_mod`. -/
def Modulation.number : Modulation → Nat
  | .kbps106A => 0
  | .kbps212Felica => 1
  | .kbps424Felica => 2
  | .kbps106Jewel => 3
  | .kbps847B => 4
  | .listen => 5

/-- `PN533_POLL_MOD_MAX` -/
def pollModMax : Nat := 5

/-- `struct pn533_poll_modulations`: `maxtg`, `brty` and `initiator_data`, and how many of these
    bytes are sent. -/
structure PollModulations where
  data : List Nat
  len : Nat
  deriving DecidableEq, Repr

/-- `poll_mod` (`pn533.c:246-301`). -/
def pollMod : Modulation → PollModulations
  | .kbps106A => ⟨[1, 0], 2⟩
  | .kbps212Felica => ⟨[1, 1, 0, 0xff, 0xff, 0, 0], 7⟩
  | .kbps424Felica => ⟨[1, 2, 0, 0xff, 0xff, 0, 0], 7⟩
  | .kbps106Jewel => ⟨[1, 4], 2⟩
  | .kbps847B => ⟨[1, 8, 0, 0], 3⟩
  | .listen => ⟨[], 0⟩

/-! ## Targets -/

/-- The payload of a response: the memory from `resp->data` on, and `resp->len`. -/
structure Resp where
  data : Nat → Nat
  len : Nat

/-- The fields of `struct nfc_target` that the parsers fill in. -/
structure NfcTarget where
  supportedProtocols : Nat
  sensRes : Nat
  selRes : Nat
  nfcid1 : List Nat
  sensfRes : List Nat
  deriving DecidableEq, Repr

/-- `memset(&nfc_tgt, 0, sizeof(struct nfc_target))` -/
def NfcTarget.zero : NfcTarget := ⟨0, 0, 0, [], []⟩

/-- `target_data_len < sizeof(..)`, which is a comparison of unsigned numbers. -/
def shorterThan (targetDataLen : Int) (size : Nat) : Bool := (targetDataLen % 0x100000000).toNat < size

/-- `be16_to_cpu` of the bytes at `i`. -/
def be16 (data : Nat → Nat) (i : Nat) : Nat := 0x100 * data i + data (i + 1)

/-- The bytes from `i` on. -/
def bytesAt (data : Nat → Nat) (i n : Nat) : List Nat := (List.range n).map fun k => data (i + k)

def sensResSsd (sensRes : Nat) : Nat := sensRes &&& 0x001f
def sensResPlatconf (sensRes : Nat) : Nat := (sensRes &&& 0x0f00) >>> 8
def platconfJewel : Nat := 0x0c

/-- A configuration of the platform without its bit frame, or the other way round. -/
def sensResInvalid (sensRes : Nat) : Bool :=
  (sensResSsd sensRes = 0 ∧ sensResPlatconf sensRes ≠ platconfJewel) ∨
    (sensResSsd sensRes ≠ 0 ∧ sensResPlatconf sensRes = platconfJewel)

/-- `pn533_target_type_a_is_valid` -/
def targetTypeAIsValid (data : Nat → Nat) (len : Int) : Bool :=
  !shorterThan len 4 && !sensResInvalid (be16 data 0) && (data 2 &&& 0x04) >>> 2 == 0

/-- `pn533_target_found_type_a` -/
def targetFoundTypeA (data : Nat → Nat) (len : Int) : Except Int NfcTarget :=
  if !targetTypeAIsValid data len then .error (-eproto)
  else
    let protocols :=
      match (data 2 &&& 0x60) >>> 5 with
      | 0 => nfcProtoMifareMask
      | 1 => nfcProtoIso14443Mask
      | 2 => nfcProtoNfcDepMask
      | 3 => nfcProtoIso14443Mask ||| nfcProtoNfcDepMask
      | _ => 0
    .ok { NfcTarget.zero with
      supportedProtocols := protocols
      sensRes := be16 data 0
      selRes := data 2
      nfcid1 := bytesAt data 4 (data 3) }

/-- `pn533_target_found_felica` -/
def targetFoundFelica (data : Nat → Nat) (len : Int) : Except Int NfcTarget :=
  if shorterThan len 18 || data 1 != 1 then .error (-eproto)
  else
    .ok { NfcTarget.zero with
      supportedProtocols :=
        if data 2 = 0x01 ∧ data 3 = 0xfe then nfcProtoNfcDepMask else nfcProtoFelicaMask
      sensfRes := bytesAt data 1 9 }

/-- `pn533_target_found_jewel` -/
def targetFoundJewel (data : Nat → Nat) (len : Int) : Except Int NfcTarget :=
  if shorterThan len 6 || sensResInvalid (be16 data 0) then .error (-eproto)
  else
    .ok { NfcTarget.zero with
      supportedProtocols := nfcProtoJewelMask
      sensRes := be16 data 0
      nfcid1 := bytesAt data 2 4 }

/-- `pn533_target_found_type_b` -/
def targetFoundTypeB (data : Nat → Nat) (len : Int) : Except Int NfcTarget :=
  if shorterThan len 13 || data 0 != 0x50 || (data 10 &&& 0x0f) &&& 0x08 != 0 then .error (-eproto)
  else .ok { NfcTarget.zero with supportedProtocols := nfcProtoIso14443BMask }

inductive Parser where
  | typeA
  | felica
  | jewel
  | typeB
  deriving DecidableEq, Repr

def Parser.run : Parser → (Nat → Nat) → Int → Except Int NfcTarget
  | .typeA => targetFoundTypeA
  | .felica => targetFoundFelica
  | .jewel => targetFoundJewel
  | .typeB => targetFoundTypeB

/-- The `switch` of `pn533_target_found`; absent in its default branch. -/
def parserAt (pollModCurr : Nat) : Option Parser :=
  match pollModCurr with
  | 0 => some .typeA
  | 1 => some .felica
  | 2 => some .felica
  | 3 => some .jewel
  | 4 => some .typeB
  | _ => none

/-- `pn533_mod_to_baud` (`pn533.c:2037-2049`). -/
def modToBaud (pollModCurr : Nat) : Int :=
  match pollModCurr with
  | 0 => 0
  | 1 => 1
  | 2 => 2
  | _ => -einval

/-- `pn533_target_found` (`pn533.c:1382-1434`) up to `nfc_targets_found`: the parser, where it
    comes to one, and the target. -/
def targetFound (pollModCurr pollProtocols tg : Nat) (data : Nat → Nat) (len : Int) :
    Option (Option Parser) × Except Int NfcTarget :=
  if tg ≠ 1 then (none, .error (-eproto))
  else
    match parserAt pollModCurr with
    | none => (some none, .error (-eproto))
    | some parser =>
        (some (some parser),
          match parser.run data len with
          | .error rc => .error rc
          | .ok target =>
              if target.supportedProtocols &&& pollProtocols = 0 then .error (-eagain) else .ok target)

/-- `pn533_start_poll_complete` (`pn533.c:1479-1503`), up to the end of the poll. -/
def startPollComplete (pollModCurr pollProtocols : Nat) (resp : Resp) :
    Option (Option Parser) × Except Int NfcTarget :=
  if resp.data 0 ≠ 0 then
    match targetFound pollModCurr pollProtocols (resp.data 1) (fun i => resp.data (i + 2))
      (resp.len - 2) with
    | (parser, .ok target) => (parser, .ok target)
    | (parser, .error _) => (parser, .error (-eagain))
  else (none, .error (-eagain))

/-! ## The list of modulations -/

/-- `poll_mod_active` and `poll_mod_count`. A reset leaves the pointers in the array. -/
structure ModList where
  active : List (Option Modulation)
  count : Nat
  deriving DecidableEq, Repr

/-- `pn533_poll_reset_mod_list` -/
def ModList.reset (l : ModList) : ModList := { l with count := 0 }

/-- `pn533_poll_add_mod` -/
def ModList.add (l : ModList) (m : Modulation) : ModList := ⟨l.active.set l.count (some m), l.count + 1⟩

def ModList.addIf (l : ModList) (c : Bool) (m : Modulation) : ModList := if c then l.add m else l

/-- `poll_mod_active[i]` -/
def ModList.get (l : ModList) (i : Nat) : Option Modulation := (l.active[i]?).join

/-- `pn533_poll_create_mod_list` (`pn533.c:1453-1477`). -/
def ModList.create (l : ModList) (imProtocols tmProtocols : Nat) : ModList :=
  let dep := imProtocols &&& nfcProtoNfcDepMask != 0
  let typeA := imProtocols &&& nfcProtoMifareMask != 0 || imProtocols &&& nfcProtoIso14443Mask != 0 || dep
  let felica := imProtocols &&& nfcProtoFelicaMask != 0 || dep
  ((((((l.reset.addIf typeA .kbps106A).addIf felica .kbps212Felica).addIf felica .kbps424Felica).addIf
    (imProtocols &&& nfcProtoJewelMask != 0) .kbps106Jewel).addIf
    (imProtocols &&& nfcProtoIso14443BMask != 0) .kbps847B).addIf (tmProtocols != 0) .listen)

/-! ## The cycle -/

/-- What a response was handled as. -/
inductive Handling where
  /-- no target, or one with the wrong number -/
  | noTarget
  /-- the parser that was used, if the `switch` has one -/
  | parsed (parser : Option Parser)
  /-- that of the command for the target mode -/
  | initTarget
  deriving DecidableEq, Repr

inductive PollLog where
  /-- the response to the command for a modulation -/
  | handled (sent : Modulation) (as : Handling)
  /-- the baud rate of a target that was found with a modulation -/
  | baud (found : Modulation) (rate : Int)
  deriving DecidableEq, Repr

structure PollState where
  mods : ModList
  pollModCurr : Nat
  pollProtocols : Nat
  cancelListen : Bool
  tgtAvailableProts : Nat
  tgtActiveProt : Nat
  tgtMode : Nat
  /-- `listen_timer` is armed -/
  listenTimer : Bool
  /-- `poll_work` is queued -/
  pollWork : Bool
  /-- the modulations of the poll commands that were accepted and not answered, in order -/
  commands : List Modulation
  /-- the modulation of the command that has found the last target, until the next poll -/
  found : Option Modulation
  log : List PollLog
  deriving DecidableEq, Repr

/-- The device after its probe. -/
def PollState.init : PollState where
  mods := ⟨List.replicate (pollModMax + 1) none, 0⟩
  pollModCurr := 0
  pollProtocols := 0
  cancelListen := false
  tgtAvailableProts := 0
  tgtActiveProt := 0
  tgtMode := 0
  listenTimer := false
  pollWork := false
  commands := []
  found := none
  log := []

/-- `dev->poll_mod_active[dev->poll_mod_curr]` -/
def PollState.current (s : PollState) : Option Modulation := s.mods.get s.pollModCurr

/-- The index that `pn533_poll_next_mod` stores; it divides by `poll_mod_count`. -/
def PollState.nextMod (s : PollState) : Option Nat :=
  if s.mods.count = 0 then none else some ((s.pollModCurr + 1) % s.mods.count)

/-- `pn533_send_poll_frame` (`pn533.c:1733-1767`), which the caller may see fail. -/
def PollState.sendPollFrame (s : PollState) (accepted : Bool) : Option PollState :=
  s.current.map fun m => if accepted then { s with commands := s.commands ++ [m] } else s

/-- `pn533_start_poll` (`pn533.c:1795-1831`). -/
def PollState.startPoll (s : PollState) (imProtocols tmProtocols : Nat) (gb accepted : Bool) :
    Option PollState :=
  if s.tgtActiveProt ≠ 0 ∨ s.tgtMode ≠ 0 then some s
  else
    let tmProtocols := if gb then tmProtocols else 0
    PollState.sendPollFrame { s with
      pollModCurr := 0
      mods := s.mods.create imProtocols tmProtocols
      pollProtocols := imProtocols
      found := none } accepted

/-- `pn533_wq_poll` (`pn533.c:1769-1793`). To cancel the listening only makes its command fail. -/
def PollState.wqPoll (s : PollState) (accepted : Bool) : Option PollState :=
  s.current.bind fun m =>
    let s := { s with pollWork := false, cancelListen := false }
    (s.sendPollFrame accepted).map fun s =>
      if accepted ∧ (pollMod m).len = 0 ∧ 1 < s.mods.count then { s with listenTimer := true } else s

/-- `pn533_listen_mode_timer` (`pn533.c:1645-1656`). -/
def PollState.timer (s : PollState) : Option PollState :=
  s.nextMod.map fun next =>
    { s with listenTimer := false, cancelListen := true, pollModCurr := next, pollWork := true }

/-- `pn533_init_target_complete` (`pn533.c:1606-1643`); `activated` is what `nfc_tm_activated`
    returns. -/
def PollState.initTargetComplete (s : PollState) (resp : Resp) (activated : Int) : PollState :=
  if resp.len < 18 ∨ resp.data 0 &&& 0x4 = 0 ∨ activated < 0 then s else { s with tgtMode := 1 }

/-- A response in `pn533_poll_complete` (`pn533.c:1658-1716`) to the command for `sent`. -/
def PollState.pollResponse (s : PollState) (sent : Modulation) (resp : Resp) (activated : Int) :
    Option PollState :=
  s.current.bind fun cur =>
    if (pollMod cur).len = 0 then
      some { s.initTargetComplete resp activated with
        listenTimer := false
        log := s.log ++ [.handled sent .initTarget] }
    else
      let (parser, result) := startPollComplete s.pollModCurr s.pollProtocols resp
      let s := { s with log := s.log ++ [.handled sent (parser.elim .noTarget .parsed)] }
      match result with
      | .ok target =>
          some { s with
            mods := s.mods.reset
            tgtAvailableProts := target.supportedProtocols
            found := if (pollMod sent).len = 0 then none else some sent }
      | .error _ =>
          if s.mods.count = 0 then some s
          else s.nextMod.map fun next => { s with pollModCurr := next, pollWork := true }

/-- An error in `pn533_poll_complete`. -/
def PollState.pollError (s : PollState) (rc : Int) : PollState :=
  if rc = -enoent ∧ s.mods.count ≠ 0 then s else { s with mods := s.mods.reset, pollProtocols := 0 }

inductive PollEvent where
  /-- `gb`: there are general bytes; `accepted`: the command is accepted -/
  | startPoll (imProtocols tmProtocols : Nat) (gb accepted : Bool)
  | stopPoll
  | wqPoll (accepted : Bool)
  | timer
  | pollResponse (resp : Resp) (activated : Int)
  | pollError (rc : Int)
  /-- a command that is lost when it should be sent -/
  | lost
  /-- `pn533_dep_link_up` comes to `pn533_mod_to_baud` -/
  | depLinkUp
  | depLinkDown
  /-- the rest of the driver -/
  | other (tgtAvailableProts tgtActiveProt tgtMode : Nat)

def pollStep (s : PollState) : PollEvent → Option PollState
  | .startPoll im tm gb accepted => s.startPoll im tm gb accepted
  | .stopPoll =>
      some { s with
        listenTimer := false
        mods := if s.mods.count = 0 then s.mods else s.mods.reset }
  | .wqPoll accepted => if s.pollWork then s.wqPoll accepted else none
  | .timer => if s.listenTimer then s.timer else none
  | .pollResponse resp activated =>
      match s.commands with
      | [] => none
      | sent :: rest => PollState.pollResponse { s with commands := rest } sent resp activated
  | .pollError rc =>
      match s.commands with
      | [] => none
      | _ :: rest => some (PollState.pollError { s with commands := rest } rc)
  | .lost => some { s with commands := s.commands.tail }
  | .depLinkUp =>
      if s.mods.count = 0 ∧ s.tgtActiveProt = 0 then
        some { s with
          log := s.log ++ (s.found.map fun m => .baud m (modToBaud s.pollModCurr)).toList }
      else none
  | .depLinkDown => some { s with mods := s.mods.reset, tgtActiveProt := 0, tgtMode := 0 }
  | .other available active mode =>
      some { s with tgtAvailableProts := available, tgtActiveProt := active, tgtMode := mode }

/-! ## The accesses to the list -/

/-- `poll_mod_curr` and `poll_mod_count` where the event reads `poll_mod_active[poll_mod_curr]`. -/
def PollState.reads (s : PollState) : PollEvent → Option (Nat × Nat)
  | .startPoll im tm gb _ =>
      if s.tgtActiveProt ≠ 0 ∨ s.tgtMode ≠ 0 then none
      else some (0, (s.mods.create im (if gb then tm else 0)).count)
  | .wqPoll _ => if s.pollWork then some (s.pollModCurr, s.mods.count) else none
  | .pollResponse _ _ =>
      match s.commands with
      | [] => none
      | _ :: _ => some (s.pollModCurr, s.mods.count)
  | _ => none

/-- What `pn533_start_poll_complete` returns for the response. -/
def PollState.pollResult (s : PollState) (resp : Resp) : Except Int NfcTarget :=
  (startPollComplete s.pollModCurr s.pollProtocols resp).2

/-- `poll_mod_count` where the event executes `pn533_poll_next_mod`. -/
def PollState.divides (s : PollState) : PollEvent → Option Nat
  | .timer => if s.listenTimer then some s.mods.count else none
  | .pollResponse resp _ =>
      match s.commands, s.current, s.pollResult resp with
      | _ :: _, some cur, .error _ =>
          if (pollMod cur).len = 0 ∨ s.mods.count = 0 then none else some s.mods.count
      | _, _, _ => none
  | _ => none

end AndroidPatch.Nfc
