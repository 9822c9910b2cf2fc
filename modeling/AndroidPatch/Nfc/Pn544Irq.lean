import Mathlib.Logic.Function.Basic

/-!
# The interrupt of the pn544

`pn544_read`, `pn544_write` and `pn544_poll` of any number of threads, the thread of the interrupt and the
chip, while the device is in use. The chip raises its line when it has a message and lets it fall when the
message has been read; the driver asked for rising edges only (`pn544.c:776-778`), so it is told once. An
event is one section of the source that no other thread can interrupt.
-/

namespace AndroidPatch.Nfc.Pn544.Irq

abbrev Tid := Nat

abbrev Message := List UInt8

/-- A call of a file operation. -/
inductive Op where
  | read (nonblock : Bool)
  | write (m : Message)
  | poll
  deriving DecidableEq, Repr

/-- What a call returns. -/
inductive Answer where
  | message (m : Message)
  /-- the transfer has failed -/
  | failed
  /-- `-EFAULT`; the message is lost -/
  | fault (m : Message)
  /-- `-EAGAIN` -/
  | again
  /-- `-ERESTARTSYS` -/
  | restart
  | written
  | readable (b : Bool)
  deriving DecidableEq, Repr

/-- Where a thread is. From `check` to `unlock` it has `info->mutex`. -/
inductive Pc where
  | idle
  /-- before `mutex_lock(&info->mutex)` -/
  | lock (op : Op)
  /-- before `pn544_irq_state` -/
  | check (op : Op)
  /-- inside `wait_event_interruptible` -/
  | wait
  /-- before `mutex_lock(&info->read_mutex)` -/
  | lockRead
  /-- before `pn544_i2c_read` or `pn544_fw_read`, with `info->read_mutex` -/
  | transfer
  /-- before `info->read_irq = PN544_NONE`, with `info->read_mutex` -/
  | clear (got : Option Message)
  /-- before `copy_to_user` -/
  | copy (m : Message)
  /-- before `pn544_i2c_write` or `pn544_fw_write` -/
  | send (m : Message)
  /-- before `mutex_unlock(&info->mutex)` -/
  | unlock (a : Answer)
  | returned (a : Answer)
  deriving DecidableEq, Repr

/-- The driver and the chip. `flag` says that the interrupt thread is to run, and `handler` that it is
    before the `mutex_lock` of `pn544_irq_thread_fn`. The last four fields are what has happened: the
    messages of the chip, the messages of the calls that have returned and whether the user has got them,
    what has been written, and the number of transfers that have failed. -/
structure Sys where
  mutex : Option Tid
  readMutex : Option Tid
  readIrq : Bool
  flag : Bool
  handler : Bool
  line : Bool
  queue : List Message
  pc : Tid → Pc
  produced : List Message
  returned : List (Message × Bool)
  written : List Message
  failures : Nat

/-- After `pn544_enable`, with a chip that has no message yet. -/
def Sys.enabled : Sys :=
  { mutex := none, readMutex := none, readIrq := false, flag := false, handler := false, line := false,
    queue := [], pc := fun _ => .idle, produced := [], returned := [], written := [], failures := 0 }

inductive Event where
  /-- the chip has one more message -/
  | produce (m : Message)
  /-- the line rises -/
  | raise
  /-- the interrupt thread wakes up -/
  | wakeHandler
  /-- `pn544_irq_thread_fn` (`pn544.c:288-305`) -/
  | handle
  | call (t : Tid) (op : Op)
  | enter (t : Tid)
  | check (t : Tid)
  | wake (t : Tid)
  | signal (t : Tid)
  | lockRead (t : Tid)
  | transfer (t : Tid) (ok : Bool)
  | clear (t : Tid)
  | copy (t : Tid) (ok : Bool)
  | send (t : Tid)
  | leave (t : Tid)
  deriving DecidableEq, Repr

namespace Sys

def goto (s : Sys) (t : Tid) (q : Pc) : Sys := { s with pc := Function.update s.pc t q }

/-- After `mutex_lock(&info->mutex)`. -/
def entered : Op → Pc
  | .write m => .send m
  | op => .check op

/-- What follows `pn544_irq_state`. -/
def checked (readIrq : Bool) : Op → Pc
  | .read nonblock => if readIrq then .lockRead else if nonblock then .unlock .again else .wait
  | .poll => .unlock (.readable readIrq)
  | .write m => .send m

/-- The transfer of a message: it is read and the line falls, or nothing changes. -/
def transferred (s : Sys) (t : Tid) : Bool → Sys
  | true =>
      match s.queue with
      | [] => s.goto t (.clear none)
      | m :: rest => { s.goto t (.clear (some m)) with queue := rest, line := false }
  | false => { s.goto t (.clear none) with failures := s.failures + 1 }

/-- What follows the transfer of a read. -/
def cleared : Option Message → Pc
  | some m => .copy m
  | none => .unlock .failed

/-- The message of an answer, and whether the user has got it. -/
def messages : Answer → List (Message × Bool)
  | .message m => [(m, true)]
  | .fault m => [(m, false)]
  | _ => []

end Sys

open Irq.Sys in
/-- One event; absent where it cannot happen. A call in `pn544_read` (`pn544.c:322-403`) goes through
    `check`, `wait` when there is nothing yet, `lockRead`, `transfer`, `clear`, `copy` and `unlock`. -/
def step (s : Sys) : Event → Option Sys
  | .produce m => some { s with queue := s.queue ++ [m], produced := s.produced ++ [m] }
  | .raise =>
      if s.line = false ∧ s.queue ≠ [] then some { s with line := true, flag := true } else none
  | .wakeHandler =>
      if s.flag = true ∧ s.handler = false then some { s with flag := false, handler := true } else none
  | .handle =>
      if s.handler = true ∧ s.readMutex = none then some { s with handler := false, readIrq := true }
      else none
  | .call t op =>
      match s.pc t with
      | .idle | .returned _ => some (s.goto t (.lock op))
      | _ => none
  | .enter t =>
      match s.pc t with
      | .lock op =>
          if s.mutex = none then some { s.goto t (entered op) with mutex := some t } else none
      | _ => none
  | .check t =>
      match s.pc t with
      | .check op => if s.readMutex = none then some (s.goto t (checked s.readIrq op)) else none
      | _ => none
  | .wake t => if s.pc t = .wait ∧ s.readIrq = true then some (s.goto t .lockRead) else none
  | .signal t => if s.pc t = .wait ∧ s.readIrq = false then some (s.goto t (.unlock .restart)) else none
  | .lockRead t =>
      if s.pc t = .lockRead ∧ s.readMutex = none then some { s.goto t .transfer with readMutex := some t }
      else none
  | .transfer t ok => if s.pc t = .transfer then some (s.transferred t ok) else none
  | .clear t =>
      match s.pc t with
      | .clear got => some { s.goto t (cleared got) with readIrq := false, readMutex := none }
      | _ => none
  | .copy t ok =>
      match s.pc t with
      | .copy m => some (s.goto t (.unlock (if ok then .message m else .fault m)))
      | _ => none
  | .send t =>
      match s.pc t with
      | .send m => some { s.goto t (.unlock .written) with written := s.written ++ [m] }
      | _ => none
  | .leave t =>
      match s.pc t with
      | .unlock a =>
          some { s.goto t (.returned a) with mutex := none, returned := s.returned ++ messages a }
      | _ => none

end AndroidPatch.Nfc.Pn544.Irq
