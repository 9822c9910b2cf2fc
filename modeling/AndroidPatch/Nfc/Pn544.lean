import AndroidPatch.Misc.Buffer

/-!
# The pn544 driver

The character device of `drivers/nfc/pn544.c`: how a message is read from the chip and written to it over
I2C, in HCI mode and in firmware mode, and what the file operations do to the device. All of them hold
`info->mutex`, so each one is a step; the interrupt comes between them (`Pn544Irq` has it inside a read).

The header `linux/nfc/pn544.h` and `crc_ccitt` are not in the repository and are parameters. The answers of
the I2C bus, of the regulators and of the copies from and to the user come with the operation. Left out are
the file position, the platform hooks, other ioctls and the removal of the driver.
-/

namespace AndroidPatch.Nfc.Pn544

/-! ## What the kernel provides -/

/-- The constants of `linux/nfc/pn544.h`. -/
structure Header where
  msgMaxSize : Nat
  maxI2cTransfer : Nat
  llcHciOverhead : Nat
  llcMinSize : Nat
  fwHeaderSize : Nat
  deriving DecidableEq, Repr

/-- `info->buflen` -/
def Header.buflen (h : Header) : Nat := max h.msgMaxSize h.maxI2cTransfer

/-- What the driver takes for granted: the length of a message is a byte, no message is smaller than the
    overhead says, and a firmware header has the two bytes of a length and fits into the buffer. -/
structure Header.Laws (h : Header) : Prop where
  msgMaxSize : 4 ≤ h.msgMaxSize ∧ h.msgMaxSize ≤ 256
  llcHciOverhead : h.llcHciOverhead ≤ 3
  llcMinSize : h.llcMinSize ≤ 4
  fwHeaderSize : 3 ≤ h.fwHeaderSize ∧ h.fwHeaderSize ≤ h.buflen

def eperm : Int := -1
def eagain : Int := -11
def efault : Int := -14
def ebusy : Int := -16
def enodev : Int := -19
def einval : Int := -22
def emsgsize : Int := -90
def eremoteio : Int := -121
def erestartsys : Int := -512

/-- What `i2c_master_send` returns: the whole length, or something else. -/
inductive Send where
  | all
  | other (rc : Int)
  deriving DecidableEq, Repr

def Send.rc (len : Nat) : Send → Int
  | all => len
  | other rc => rc

/-- What `i2c_master_recv` does: it returns an error, or stores bytes and returns their number. -/
inductive Recv where
  | failed (errno : Nat)
  | got (bytes : List UInt8)
  deriving DecidableEq, Repr

/-- The bytes that are stored when there is room for `n`. -/
def Recv.bytes (n : Nat) : Recv → List UInt8
  | failed _ => []
  | got bytes => bytes.take n

def Recv.rc (n : Nat) : Recv → Int
  | failed errno => -errno
  | got bytes => (bytes.take n).length

/-- `copy_from_user`: it copies everything, or some bytes, and clears the others. -/
inductive Copy where
  | all
  | fault (copied : Nat)
  deriving DecidableEq, Repr

/-! ## Messages on the bus -/

section

variable (h : Header) (crcCcitt : UInt16 → List UInt8 → UInt16)

/-- `check_crc` (`pn544.c:138-163`) -/
def checkCrc (buf : Nat → UInt8) (buflen : Nat) : Int :=
  let len : UInt8 := buf 0 + 1
  if len.toNat < 4 ∨ len.toNat ≠ buflen ∨ h.msgMaxSize < len.toNat then eperm
  else
    let crc := ~~~crcCcitt 0xffff (slice buf 0 (len.toNat - 2))
    if (buf (len.toNat - 2)).toUInt16 ≠ crc &&& 0xff ∨ (buf (len.toNat - 1)).toUInt16 ≠ crc >>> 8 then
      eperm
    else 0

/-- The send with one more try when the chip was in standby: what is returned, and what has been handed
    to `i2c_master_send`. -/
def sendTwice (message : List UInt8) (r1 r2 : Send) : Int × List (List UInt8) :=
  let r := r1.rc message.length
  let (r, sent) :=
    if r = eremoteio then (r2.rc message.length, [message, message]) else (r, [message])
  if r ≠ message.length then (eremoteio, sent) else (r, sent)

/-- `pn544_i2c_write` (`pn544.c:165-193`) -/
def i2cWrite (buf : Nat → UInt8) (len : Nat) (r1 r2 : Send) : Int × List (List UInt8) :=
  if len < 4 ∨ len ≠ (buf 0).toNat + 1 then (einval, [])
  else if checkCrc h crcCcitt buf len ≠ 0 then (einval, [])
  else sendTwice (slice buf 0 len) r1 r2

/-- The length that `pn544_i2c_read` goes on with. -/
def clampLen (len : UInt8) : UInt8 :=
  if len.toNat < h.llcHciOverhead then UInt8.ofNat h.llcHciOverhead
  else if h.msgMaxSize - 1 < len.toNat then UInt8.ofNat (h.msgMaxSize - 1)
  else len

/-- `pn544_i2c_read` (`pn544.c:195-229`) -/
def i2cRead (buf : Nat → UInt8) (buflen : Nat) (r1 r2 : Recv) : Int × (Nat → UInt8) :=
  match r1.bytes 1 with
  | [len] =>
      let len := clampLen h len
      if buflen < 1 + len.toNat then (emsgsize, buf)
      else
        let buf := blit (Function.update buf 0 len) 1 (r2.bytes len.toNat)
        if r2.rc len.toNat ≠ len.toNat then (eremoteio, buf) else (len.toNat + 1, buf)
  | _ => (eremoteio, buf)

/-- The length in the header of a firmware message. -/
def fwLen (buf : Nat → UInt8) : Nat := (buf 1).toNat * 256 + (buf 2).toNat

/-- `pn544_fw_write` (`pn544.c:231-254`) -/
def fwWrite (buf : Nat → UInt8) (len : Nat) (r1 r2 : Send) : Int × List (List UInt8) :=
  if len < h.fwHeaderSize ∨ h.fwHeaderSize + fwLen buf ≠ len then (einval, [])
  else sendTwice (slice buf 0 len) r1 r2

/-- `pn544_fw_read` (`pn544.c:256-286`) -/
def fwRead (buf : Nat → UInt8) (buflen : Nat) (r1 r2 : Recv) : Int × (Nat → UInt8) :=
  if buflen < h.fwHeaderSize then (einval, buf)
  else
    let r := r1.rc h.fwHeaderSize
    let buf := blit buf 0 (r1.bytes h.fwHeaderSize)
    if r < 0 then (r, buf)
    else if r < h.fwHeaderSize then (einval, buf)
    else
      let len := fwLen buf
      if len = 0 then (r, buf)
      else if buflen - h.fwHeaderSize < len then (emsgsize, buf)
      else
        let buf := blit buf h.fwHeaderSize (r2.bytes len)
        if r2.rc len ≠ len then (einval, buf) else (len + h.fwHeaderSize, buf)

end

/-! ## The device -/

/-- `enum pn544_state` -/
inductive State where
  | cold
  | fwReady
  | ready
  deriving DecidableEq, Repr

/-- `struct pn544_info`; `regs` is the use count of the regulators, and `readIrq` is `PN544_INT`. -/
structure Device where
  state : State
  readIrq : Bool
  buf : Nat → UInt8
  regs : Int

namespace Device

variable (h : Header) (crcCcitt : UInt16 → List UInt8 → UInt16)

/-- What `pn544_probe` leaves. -/
def probed : Device := ⟨.cold, false, fun _ => 0, 0⟩

/-- `pn544_enable` (`pn544.c:90-117`); `rc` is the result of `regulator_bulk_enable`. -/
def enable (d : Device) (fwMode : Bool) (rc : Int) : Int × Device :=
  if rc < 0 then (rc, d)
  else
    (0, { d with
      regs := d.regs + 1
      readIrq := false
      state := if fwMode then .fwReady else .ready })

/-- `pn544_disable` (`pn544.c:119-136`) -/
def disable (d : Device) : Device :=
  { d with state := .cold, readIrq := false, regs := d.regs - 1 }

/-- `pn544_open` (`pn544.c:583-610`) -/
def openFile (d : Device) (rc : Int) : Int × Device :=
  if d.state ≠ .cold then (ebusy, d) else d.enable false rc

/-- `pn544_close` (`pn544.c:612-626`) -/
def close (d : Device) : Device := d.disable

/-- `PN544_SET_FW_MODE` in `pn544_ioctl` (`pn544.c:507-581`); `val` is absent when the copy from the user
    fails. -/
def setFwMode (d : Device) (val : Option Nat) (rc : Int) : Int × Device :=
  if d.state = .cold then (enodev, d)
  else
    match val with
    | none => (efault, d)
    | some val =>
        if d.state = (if val ≠ 0 then .fwReady else .ready) then (0, d)
        else d.disable.enable (val ≠ 0) rc

/-- `PN544_GET_FW_MODE` in `pn544_ioctl`: what is returned and what the user is told. -/
def getFwMode (d : Device) (copied : Bool) : Int × Option Nat :=
  if d.state = .cold then (enodev, none)
  else if copied then (0, some (if d.state = .fwReady then 1 else 0))
  else (efault, none)

/-- The message that is read in the mode of the device. -/
def readMessage (d : Device) (len : Nat) (r1 r2 : Recv) : Int × (Nat → UInt8) :=
  if d.state = .fwReady then fwRead h d.buf len r1 r2 else i2cRead h d.buf len r1 r2

/-- `pn544_read` (`pn544.c:322-403`): what is returned, and the bytes that the user gets. -/
def read (d : Device) (count : Nat) (nonblock interrupted : Bool) (r1 r2 : Recv) (copied : Bool) :
    Int × List UInt8 × Device :=
  if d.state = .cold then (enodev, [], d)
  else if d.readIrq = false ∧ nonblock then (eagain, [], d)
  else if d.readIrq = false ∧ interrupted then (erestartsys, [], d)
  else
    let (r, buf) := d.readMessage h (min count h.buflen) r1 r2
    let d := { d with buf := buf, readIrq := false }
    if r < 0 then (r, [], d)
    else if copied then (r, slice buf 0 r.toNat, d)
    else (efault, [], d)

/-- The buffer after `copy_from_user` of `len` bytes. -/
def copyIn (d : Device) (user : List UInt8) (len : Nat) : Copy → Device
  | .all => { d with buf := blit d.buf 0 (user.take len) }
  | .fault copied =>
      { d with
        buf := blit d.buf 0 ((user.take len).take copied ++ List.replicate (len - copied) 0) }

/-- `pn544_write` (`pn544.c:433-505`) of the bytes `user`: what is returned, what goes to the bus, and the
    device. -/
def write (d : Device) (user : List UInt8) (copy : Copy) (r1 r2 : Send) :
    Int × List (List UInt8) × Device :=
  if d.state = .cold then (enodev, [], d)
  else if user.length < (if d.state = .fwReady then h.fwHeaderSize else h.llcMinSize) then
    (einval, [], d)
  else
    let len := min user.length h.buflen
    let d := d.copyIn user len copy
    match copy with
    | .fault _ => (efault, [], d)
    | .all =>
        -- one message at a time
        let (r, sent) :=
          if d.state = .fwReady then
            fwWrite h d.buf (min len (h.fwHeaderSize + fwLen d.buf)) r1 r2
          else i2cWrite h crcCcitt d.buf (min len ((d.buf 0).toNat + 1)) r1 r2
        (r, sent, d)

/-- `pn544_poll` (`pn544.c:405-431`): whether there is something to read. -/
def poll (d : Device) : Int × Bool :=
  if d.state = .cold then (enodev, false) else (0, d.readIrq)

/-- `pn544_irq_thread_fn` (`pn544.c:288-305`) -/
def irq (d : Device) : Device := { d with readIrq := true }

/-- `pn544_suspend` (`pn544.c:640-674`) -/
def suspend (d : Device) : Int := if d.state = .fwReady then eperm else 0

end Device

/-! ## Runs -/

/-- A file operation with the answers that it gets. -/
inductive FileOp where
  | openFile (rc : Int)
  | release
  | read (count : Nat) (nonblock interrupted : Bool) (r1 r2 : Recv) (copied : Bool)
  | write (user : List UInt8) (copy : Copy) (r1 r2 : Send)
  | getFwMode (copied : Bool)
  | setFwMode (val : Option Nat) (rc : Int)
  | poll
  | irq
  | suspend
  deriving DecidableEq, Repr

/-- What went to the bus, and the state of the device then. -/
structure Sent where
  state : State
  message : List UInt8
  deriving DecidableEq, Repr

/-- The device with the number of open files and what has been handed to `i2c_master_send`. -/
structure Sys where
  dev : Device
  opens : Nat
  sent : List Sent

def Sys.probed : Sys := ⟨.probed, 0, []⟩

/-- One operation; all but `open` need an open file. -/
def fileStep (h : Header) (crcCcitt : UInt16 → List UInt8 → UInt16) (s : Sys) : FileOp → Option Sys
  | .openFile rc =>
      let (r, d) := s.dev.openFile rc
      some { s with dev := d, opens := if r = 0 then s.opens + 1 else s.opens }
  | .release => if s.opens = 0 then none else some { s with dev := s.dev.close, opens := s.opens - 1 }
  | .read count nonblock interrupted r1 r2 copied =>
      if s.opens = 0 then none
      else some { s with dev := (s.dev.read h count nonblock interrupted r1 r2 copied).2.2 }
  | .write user copy r1 r2 =>
      if s.opens = 0 then none
      else
        let (_, sent, d) := s.dev.write h crcCcitt user copy r1 r2
        some { s with dev := d, sent := s.sent ++ sent.map fun m => ⟨s.dev.state, m⟩ }
  | .getFwMode _ => if s.opens = 0 then none else some s
  | .setFwMode val rc =>
      if s.opens = 0 then none else some { s with dev := (s.dev.setFwMode val rc).2 }
  | .poll => if s.opens = 0 then none else some s
  | .irq => some { s with dev := s.dev.irq }
  | .suspend => some s

end AndroidPatch.Nfc.Pn544
