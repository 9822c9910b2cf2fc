import AndroidPatch.Ril.Reference.Defs

/-!
# New messages in the storage of the modem

A `+CMTI` or `+CDSI` line says where the modem has put a message. The reader thread leaves the place
in two statics and requests a callback, which reads the message on the main thread
(`reference-ril.c:491-582`, `4509-4548`).

The threads take turns at each access to the statics. The main thread waits for the reply to each
command that it sends; the callbacks run there in the order in which they were requested.
-/

namespace AndroidPatch.Ril.Reference

open AtChannel
open Altair (Reply dec)

/-! ## The reader thread -/

/-- What a line announces: the response to report the message with, and its place. -/
structure Notification where
  response : Unsolicited
  storage : CString
  index : Int
  deriving DecidableEq, Repr

/-- The branches of `onUnsolicited` for messages in a storage. -/
def notificationResponse (s : CString) : Option Unsolicited :=
  if strStartsWith s "+CMTI:" then some .newSms
  else if strStartsWith s "+CDSI:" then some .newSmsStatusReport
  else none

/-- Where the reader thread stands in one of these branches. -/
inductive ReaderPc where
  | idle
  /-- before `at_tok_nextint(&line, &smsStorageIndex)` -/
  | indexNext (response : Unsolicited) (storage : CString) (line : TokLine)
  /-- before `memset(smsReadStorage, 0, 3)` -/
  | clearNext (n : Notification)
  /-- before `strncpy(smsReadStorage, storage, 2)` -/
  | copyNext (n : Notification)
  /-- before `RIL_requestTimedCallback` -/
  | requestNext (n : Notification)
  deriving DecidableEq, Repr

/-- `onUnsolicited` up to the first store. The result of `at_tok_start` is not looked at. -/
def onUnsolicitedSms (unavailable : Bool) (s : CString) : ReaderPc :=
  if unavailable then .idle
  else
    match notificationResponse s with
    | none => .idle
    | some response =>
        let storage := atTokNextstr (atTokStart (.ofString s)).2
        if storage.err < 0 then .idle
        else
          match storage.out with
          | none => .idle
          | some p => .indexNext response (storage.line.text p) storage.line

/-! ## The main thread -/

/-- `AT+CPMS="%s"` -/
def cpmsCommand (storage : CString) : CString := "AT+CPMS=\"" ++ storage ++ "\""

/-- `AT+CMGR=%d` -/
def cmgrCommand (index : Int) : CString := "AT+CMGR=" ++ dec index

/-- `AT+CMGD=%d` -/
def cmgdCommand (index : Int) : CString := "AT+CMGD=" ++ dec index

/-- Where the main thread stands in `readNewSms`. -/
inductive MainPc where
  | idle
  /-- `AT+CPMS?` has been sent -/
  | querying (response : Unsolicited) (index : Int)
  /-- before `asprintf(&cmd, "AT+CPMS=\"%s\"", smsReadStorage)` -/
  | selectNext (response : Unsolicited) (index : Int) (oldReadStorage : CString)
  /-- that command has been sent -/
  | selecting (response : Unsolicited) (index : Int) (oldReadStorage command : CString)
  /-- `AT+CMGR=` has been sent -/
  | reading (response : Unsolicited) (index : Int) (oldReadStorage : CString)
  /-- `AT+CMGD=` has been sent -/
  | deleting (index : Int) (oldReadStorage : CString)
  /-- at `error:`, `AT+CPMS=` has been sent with the old storage -/
  | restoring (oldReadStorage : CString)
  deriving DecidableEq, Repr

/-- The callback has put `smsReadStorage` into its command, or there is none. -/
def MainPc.StorageTaken : MainPc → Prop
  | .querying _ _ => False
  | .selectNext _ _ _ => False
  | _ => True

/-- What follows the reply to `AT+CPMS?`; absent for a `NULL` pointer that is used. At `error:` no
    storage has been set yet. -/
def afterQuery (response : Unsolicited) (index : Int) : Reply → Option MainPc
  | .failed _ _ => some .idle
  | .response r =>
      if r.success then
        match r.intermediates with
        | [] => none
        | line :: _ =>
            let start := atTokStart (.ofString line)
            if start.1 < 0 then some .idle
            else
              let storage := atTokNextstr start.2
              if storage.err < 0 then some .idle
              else storage.out.map fun p => .selectNext response index ((storage.line.text p).take 2)
      else some .idle

/-- What follows the reply to `AT+CMGR=`, with what is reported. A failure leaves the storage as it
    has been set. -/
def afterRead (response : Unsolicited) (index : Int) (oldReadStorage : CString) :
    Reply → List Event × MainPc
  | .failed _ _ => ([], .idle)
  | .response r =>
      if r.success then
        match r.intermediates with
        | [] => ([], .deleting index oldReadStorage)
        | header :: rest =>
            let start := atTokStart (.ofString header)
            if start.1 < 0 then ([], .restoring oldReadStorage)
            else if (atTokNextint start.2).err < 0 then ([], .restoring oldReadStorage)
            else
              match rest with
              | [] => ([], .deleting index oldReadStorage)
              | pdu :: _ => ([.unsolicited response (.str pdu)], .deleting index oldReadStorage)
      else ([], .idle)

/-! ## Both -/

/-- The statics, the threads and the callbacks; and of the past what was notified and what the
    callbacks have done. -/
structure SmsState where
  /-- `sState == RADIO_STATE_UNAVAILABLE` -/
  unavailable : Bool
  smsStorageIndex : Int
  smsReadStorage : CString
  reader : ReaderPc
  /-- the responses of `onNewSmsArrived` and `onNewSmsReportArrived`, as requested -/
  callbacks : List Unsolicited
  main : MainPc
  /-- what the running callback has done -/
  trace : List Event
  notified : List Notification
  finished : List (List Event)
  deriving DecidableEq, Repr

def SmsState.init (unavailable : Bool) : SmsState := ⟨unavailable, 0, [], .idle, [], .idle, [], [], []⟩

inductive SmsEvent where
  /-- another thread sets `sState` -/
  | radio (unavailable : Bool)
  /-- a line arrives -/
  | line (s : CString)
  /-- the reader thread goes on -/
  | reader
  /-- the main thread runs the next callback, which loads `*(int *)param` and sends `AT+CPMS?` -/
  | callback
  /-- the main thread loads `smsReadStorage` and sends the command -/
  | select
  /-- the main thread gets its reply -/
  | reply (r : Reply)
  deriving DecidableEq, Repr

def SmsState.readerStep (s : SmsState) : Option SmsState :=
  match s.reader with
  | .idle => none
  | .indexNext response storage line =>
      let r := atTokNextint line
      let stored := { s with smsStorageIndex := r.out.getD s.smsStorageIndex }
      if r.err < 0 then some { stored with reader := .idle }
      else some { stored with reader := .clearNext ⟨response, storage, stored.smsStorageIndex⟩ }
  | .clearNext n => some { s with smsReadStorage := [], reader := .copyNext n }
  | .copyNext n => some { s with smsReadStorage := n.storage.take 2, reader := .requestNext n }
  | .requestNext n =>
      some { s with callbacks := s.callbacks ++ [n.response], notified := s.notified ++ [n],
                    reader := .idle }

/-- The callback goes on, or it has returned. -/
def SmsState.mainNext (s : SmsState) (events : List Event) : MainPc → SmsState
  | .idle =>
      { s with main := .idle, trace := [], finished := s.finished ++ [s.trace ++ events] }
  | pc => { s with main := pc, trace := s.trace ++ events }

def SmsState.replyStep (s : SmsState) (raw : Reply) : Option SmsState :=
  match s.main with
  | .idle => none
  | .querying response index =>
      let reply := raw.check (.singleline "+CPMS:")
      (afterQuery response index reply).map (s.mainNext [.at "AT+CPMS?" reply])
  | .selectNext _ _ _ => none
  | .selecting response index old command =>
      some (s.mainNext [.at command raw] (.reading response index old))
  | .reading response index old =>
      let (reported, pc) := afterRead response index old raw
      some (s.mainNext (.at (cmgrCommand index) raw :: reported) pc)
  | .deleting index old => some (s.mainNext [.at (cmgdCommand index) raw] (.restoring old))
  | .restoring old => some (s.mainNext [.at (cpmsCommand old) raw] .idle)

def smsStep (s : SmsState) : SmsEvent → Option SmsState
  | .radio unavailable => some { s with unavailable := unavailable }
  | .line text =>
      match s.reader with
      | .idle => some { s with reader := onUnsolicitedSms s.unavailable text }
      | _ => none
  | .reader => s.readerStep
  | .callback =>
      match s.main, s.callbacks with
      | .idle, response :: rest =>
          some { s with callbacks := rest, main := .querying response s.smsStorageIndex }
      | _, _ => none
  | .select =>
      match s.main with
      | .selectNext response index old =>
          some { s with main := .selecting response index old (cpmsCommand s.smsReadStorage) }
      | _ => none
  | .reply raw => s.replyStep raw

end AndroidPatch.Ril.Reference
