import Mathlib.Logic.Function.Basic

/-!
# The threads around the AT socket

The threads of `atSocketMainLoop` (each pass of `mainLoop` creates one more) and the readers that
hand unsolicited lines to `altairAtSocketOnUnsolicited`. An event is one access to what they
share: the pointer `onUnsolicitedAtSocketUserdata`, the field `conn_desc` of each structure and
the descriptors of the process.

`writeToAtSocket_mutex` keeps the two parts of a message together and guards nothing else, so it
is left out: there are more runs here than without it. What a client asks and what it is answered
is in `AtSocket`. The kernel takes bytes for a descriptor only while the connection stands.
-/

namespace AndroidPatch.Ril.Altair.AtSocketThreads

/-- Where a thread of `atSocketMainLoop` is (`altair_at_socket.c:256-317`). -/
inductive SockPc where
  | unborn
  /-- in `listen` or `accept` -/
  | listening
  /-- before `checkSocketCred` -/
  | connected
  /-- before the pointer is set -/
  | publishing
  /-- in the inner loop -/
  | serving
  /-- before the pointer is cleared -/
  | clearing
  | shuttingDown
  | closing
  /-- before `conn_desc = 0` -/
  | resetting
  /-- after an error of `accept` -/
  | exited
  deriving DecidableEq, Repr

/-- Where a reader is, from the test in `onUnsolicited` to the end of `writeToAtSocket`. -/
inductive ReaderPc where
  | idle
  /-- the pointer was not `NULL` -/
  | tested
  /-- it has been read again, as the argument -/
  | pointed (t : Nat)
  /-- `conn_desc` has been read -/
  | described (t : Nat) (d : Int)
  /-- the first part of the message is out -/
  | halfSent (t : Nat) (d : Int)
  /-- after the dereference of `NULL` -/
  | crashed
  deriving DecidableEq, Repr

/-- What an open descriptor is for: a client of a thread, or something else of the process. -/
inductive File where
  | client (t : Nat) (c : Nat)
  | other
  deriving DecidableEq, Repr

/-- Bytes that the kernel has taken from a reader, and whether `checkSocketCred` had accepted the
    client by then. -/
structure Sent where
  file : File
  accepted : Bool
  deriving DecidableEq, Repr

/-- Clients are numbered in the order in which they connect. -/
structure Sys where
  sock : Nat → SockPc
  connDesc : Nat → Int
  userdata : Option Nat
  reader : Nat → ReaderPc
  files : Int → Option File
  /-- the connection is neither shut down nor hung up -/
  stands : Nat → Bool
  accepted : Nat → Bool
  clients : Nat
  sent : List Sent

/-- Before the first thread is created; other descriptors may be open. -/
structure Sys.Initial (s : Sys) : Prop where
  sock : ∀ t, s.sock t = .unborn
  userdata : s.userdata = none
  reader : ∀ r, s.reader r = .idle
  files : ∀ d t c, s.files d ≠ some (.client t c)
  sent : s.sent = []

inductive SendResult where
  | failed
  | partly
  | all
  deriving DecidableEq, Repr

inductive Action where
  | create (t : Nat)
  | accept (t : Nat) (d : Int)
  | acceptFails (t : Nat)
  | checkSocketCred (t : Nat) (ret : Bool)
  | publish (t : Nat)
  /-- `readFromATSocket` returns `NULL` -/
  | stopServing (t : Nat)
  | clear (t : Nat)
  | shutdown (t : Nat)
  | close (t : Nat)
  | reset (t : Nat)
  /-- a client closes its end -/
  | hangUp (c : Nat)
  | openOther (d : Int)
  | closeOther (d : Int)
  | test (r : Nat)
  | loadPointer (r : Nat)
  | loadDescriptor (r : Nat)
  | send (r : Nat) (result : SendResult)
  deriving DecidableEq, Repr

def Sys.gotoSock (s : Sys) (t : Nat) (pc : SockPc) : Sys :=
  { s with sock := Function.update s.sock t pc }

def Sys.gotoReader (s : Sys) (r : Nat) (pc : ReaderPc) : Sys :=
  { s with reader := Function.update s.reader r pc }

/-- The client at the descriptor of a thread. -/
def Sys.clientOf (s : Sys) (t : Nat) : Option Nat :=
  match s.files (s.connDesc t) with
  | some (.client _ c) => some c
  | _ => none

/-- What the kernel takes for a descriptor. -/
def Sys.takes (s : Sys) (d : Int) : Option Sent :=
  match s.files d with
  | some (.client t c) => if s.stands c then some ⟨.client t c, s.accepted c⟩ else none
  | some .other => some ⟨.other, false⟩
  | none => none

/-- `checkSocketCred` (`altair_at_socket.c:199-229`): a connection whose credentials are those of
    the process `radio` is accepted, unless a call fails. -/
def Sys.check (s : Sys) (t : Nat) (ret : Bool) : Sys :=
  match s.clientOf t with
  | some c => { s with accepted := Function.update s.accepted c ret }
  | none => s

/-- One part of a message. -/
def Sys.sendPart (s : Sys) (r : Nat) (d : Int) (next : ReaderPc) (result : SendResult) : Sys :=
  match s.takes d, result with
  | some e, .all => { s.gotoReader r next with sent := s.sent ++ [e] }
  | some e, .partly => { s.gotoReader r .idle with sent := s.sent ++ [e] }
  | _, _ => s.gotoReader r .idle

/-- `atSocketMainLoop` (`altair_at_socket.c:232-322`), and `altairAtSocketCreate`. -/
def Sys.sockStep (s : Sys) : Action → Option Sys
  | .create t =>
      if s.sock t = .unborn then
        some { s.gotoSock t .listening with connDesc := Function.update s.connDesc t (-1) }
      else none
  | .accept t d =>
      if s.sock t = .listening ∧ s.files d = none then
        some { s.gotoSock t .connected with
          connDesc := Function.update s.connDesc t d
          files := Function.update s.files d (some (.client t s.clients))
          stands := Function.update s.stands s.clients true
          accepted := Function.update s.accepted s.clients false
          clients := s.clients + 1 }
      else none
  | .acceptFails t => if s.sock t = .listening then some (s.gotoSock t .exited) else none
  | .checkSocketCred t ret =>
      if s.sock t = .connected then
        some ((s.check t ret).gotoSock t (if ret then .publishing else .shuttingDown))
      else none
  | .publish t =>
      if s.sock t = .publishing then some { s.gotoSock t .serving with userdata := some t }
      else none
  | .stopServing t => if s.sock t = .serving then some (s.gotoSock t .clearing) else none
  | .clear t =>
      if s.sock t = .clearing then some { s.gotoSock t .shuttingDown with userdata := none }
      else none
  | .shutdown t =>
      if s.sock t = .shuttingDown then
        match s.clientOf t with
        | some c => some { s.gotoSock t .closing with stands := Function.update s.stands c false }
        | none => some (s.gotoSock t .closing)
      else none
  | .close t =>
      if s.sock t = .closing then
        some { s.gotoSock t .resetting with
          files := Function.update s.files (s.connDesc t) none }
      else none
  | .reset t =>
      if s.sock t = .resetting then
        some { s.gotoSock t .listening with connDesc := Function.update s.connDesc t 0 }
      else none
  | _ => none

/-- The clients, and the rest of the process. -/
def Sys.otherStep (s : Sys) : Action → Option Sys
  | .hangUp c => some { s with stands := Function.update s.stands c false }
  | .openOther d =>
      if s.files d = none then
        some { s with files := Function.update s.files d (some .other) }
      else none
  | .closeOther d =>
      if s.files d = some .other then
        some { s with files := Function.update s.files d none }
      else none
  | _ => none

/-- The end of `onUnsolicited` (`altair-ril.c:3783-3785`), `altairAtSocketOnUnsolicited`
    (`altair_at_socket.c:158-163`) and `writeToAtSocket` (`altair_at_socket.c:81-103`). -/
def Sys.readerStep (s : Sys) : Action → Option Sys
  | .test r =>
      match s.reader r with
      | .idle => some (s.gotoReader r (if s.userdata = none then .idle else .tested))
      | _ => none
  | .loadPointer r =>
      match s.reader r with
      | .tested => some (s.gotoReader r (s.userdata.elim .crashed .pointed))
      | _ => none
  | .loadDescriptor r =>
      match s.reader r with
      | .pointed t => some (s.gotoReader r (.described t (s.connDesc t)))
      | _ => none
  | .send r result =>
      match s.reader r with
      | .described t d => some (s.sendPart r d (.halfSent t d) result)
      | .halfSent _ d => some (s.sendPart r d .idle result)
      | _ => none
  | _ => none

/-- One event of the system. -/
def Sys.step (s : Sys) (a : Action) : Option Sys :=
  (s.sockStep a <|> s.otherStep a) <|> s.readerStep a

end AndroidPatch.Ril.Altair.AtSocketThreads
