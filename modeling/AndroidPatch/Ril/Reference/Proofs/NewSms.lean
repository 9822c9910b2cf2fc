import Mathlib.Data.List.Forall2
import AndroidPatch.Misc.Run
import AndroidPatch.Ril.Reference.NewSms

/-!
# Every notified message is read

The place of a message is in two statics from the line that announces it until the callback has
taken it. When no line arrives in between, the callbacks read what was notified, one by one.
-/

namespace AndroidPatch.Ril.Reference

open AtChannel
open Altair (Reply)

/-! ## What a callback should do -/

/-- The callback has selected the storage of the notification, has read the message there, and has
    reported it as it was announced. -/
def IsReadBy (n : Notification) (trace : List Event) : Prop :=
  ∃ queried selected r header pdu rest deleted old restored,
    r.intermediates = header :: pdu :: rest ∧
    trace = [.at "AT+CPMS?" queried, .at (cpmsCommand n.storage) selected,
      .at (cmgrCommand n.index) (.response r), .unsolicited n.response (.str pdu),
      .at (cmgdCommand n.index) deleted, .at (cpmsCommand old) restored]

/-- The notifications are those of the callbacks that have returned, in order, that of the running
    callback, and those of the callbacks that wait. -/
def EachReadOnce (s : SmsState) : Prop :=
  ∃ done running waiting, s.notified = done ++ running ++ waiting ∧
    List.Forall₂ IsReadBy done s.finished ∧ (running = [] ↔ s.main = .idle) ∧ running.length ≤ 1 ∧
    waiting.map Notification.response = s.callbacks

/-- A reply to `AT+CPMS?` that names a storage. -/
def NamesStorage : Reply → Prop
  | .response r => r.success = true ∧ ∀ line ∈ r.intermediates.head?,
      0 ≤ (atTokStart (.ofString line)).1 ∧ 0 ≤ (atTokNextstr (atTokStart (.ofString line)).2).err
  | .failed _ _ => False

/-- A reply to `AT+CMGR=` with a header and a message. -/
def HasMessage : Reply → Prop
  | .response r => r.success = true ∧ 2 ≤ r.intermediates.length ∧ ∀ header ∈ r.intermediates.head?,
      0 ≤ (atTokStart (.ofString header)).1 ∧ 0 ≤ (atTokNextint (atTokStart (.ofString header)).2).err
  | .failed _ _ => False

/-- The reader thread overwrites a static only when every callback requested so far has taken it;
    the names of storages have two characters at most; and the modem names its storage and has the
    message. -/
def SmsMeets (s : SmsState) : SmsEvent → Prop
  | .reader =>
      match s.reader with
      | .indexNext _ _ line => (atTokNextint line).out ≠ none → s.callbacks = []
      | .clearNext _ => s.callbacks = [] ∧ s.main.StorageTaken
      | .copyNext n => s.callbacks = [] ∧ s.main.StorageTaken ∧ n.storage.length ≤ 2
      | _ => True
  | .reply raw =>
      match s.main with
      | .querying _ _ => NamesStorage (raw.check (.singleline "+CPMS:"))
      | .reading _ _ _ => HasMessage raw
      | _ => True
  | _ => True

instance : DecidablePred NamesStorage := fun reply =>
  match reply with
  | .response _ => inferInstanceAs (Decidable (_ ∧ _))
  | .failed _ _ => inferInstanceAs (Decidable False)

instance : DecidablePred HasMessage := fun reply =>
  match reply with
  | .response _ => inferInstanceAs (Decidable (_ ∧ _))
  | .failed _ _ => inferInstanceAs (Decidable False)

instance : DecidablePred MainPc.StorageTaken := fun pc => by
  unfold MainPc.StorageTaken
  split <;> infer_instance

instance (s : SmsState) : DecidablePred (SmsMeets s) := fun e => by
  unfold SmsMeets
  split
  · split <;> infer_instance
  · split <;> infer_instance
  · infer_instance

/-! ## The invariant -/

/-- The reader thread has begun to store its notification. -/
def ReaderInv (s : SmsState) : ReaderPc → Prop
  | .idle => True
  | .indexNext _ _ _ => True
  | .clearNext n => s.callbacks = [] ∧ s.smsStorageIndex = n.index
  | .copyNext n => s.callbacks = [] ∧ s.smsStorageIndex = n.index
  | .requestNext n =>
      s.callbacks = [] ∧ s.smsStorageIndex = n.index ∧ s.smsReadStorage = n.storage

/-- What the running callback has done for its notification. -/
def MainInv (storage : CString) (n : Notification) (trace : List Event) : MainPc → Prop
  | .idle => False
  | .querying response index =>
      response = n.response ∧ index = n.index ∧ storage = n.storage ∧ trace = []
  | .selectNext response index _ =>
      response = n.response ∧ index = n.index ∧ storage = n.storage ∧
        ∃ queried, trace = [.at "AT+CPMS?" queried]
  | .selecting response index _ command =>
      response = n.response ∧ index = n.index ∧ command = cpmsCommand n.storage ∧
        ∃ queried, trace = [.at "AT+CPMS?" queried]
  | .reading response index _ =>
      response = n.response ∧ index = n.index ∧ ∃ queried selected,
        trace = [.at "AT+CPMS?" queried, .at (cpmsCommand n.storage) selected]
  | .deleting index _ =>
      index = n.index ∧ ∃ queried selected r header pdu rest,
        r.intermediates = header :: pdu :: rest ∧
        trace = [.at "AT+CPMS?" queried, .at (cpmsCommand n.storage) selected,
          .at (cmgrCommand n.index) (.response r), .unsolicited n.response (.str pdu)]
  | .restoring _ =>
      ∃ queried selected r header pdu rest deleted,
        r.intermediates = header :: pdu :: rest ∧
        trace = [.at "AT+CPMS?" queried, .at (cpmsCommand n.storage) selected,
          .at (cmgrCommand n.index) (.response r), .unsolicited n.response (.str pdu),
          .at (cmgdCommand n.index) deleted]

/-- The statics are those of the notification that waits. -/
def Latest (s : SmsState) (n : Notification) : Prop :=
  s.smsStorageIndex = n.index ∧ s.smsReadStorage = n.storage

structure SmsInv (done waiting : List Notification) (running : Option Notification) (s : SmsState) :
    Prop where
  notified : s.notified = done ++ running.toList ++ waiting
  finished : List.Forall₂ IsReadBy done s.finished
  callbacks : waiting.map Notification.response = s.callbacks
  latest : ∀ n ∈ waiting, Latest s n
  reader : ReaderInv s s.reader
  main : running.elim (s.main = .idle ∧ s.trace = []) fun n =>
    MainInv s.smsReadStorage n s.trace s.main

theorem SmsInv.waiting_nil {done waiting : List Notification} {running : Option Notification}
    {s : SmsState} (h : SmsInv done waiting running s) (hnone : s.callbacks = []) : waiting = [] := by
  have hmap := h.callbacks
  rw [hnone, List.map_eq_nil_iff] at hmap
  exact hmap

/-- Where the storage has been taken, it may be overwritten. -/
theorem MainInv.of_taken {storage storage' : CString} {n : Notification} {trace : List Event}
    {pc : MainPc} (hpc : pc.StorageTaken) (h : MainInv storage n trace pc) :
    MainInv storage' n trace pc := by
  cases pc with
  | idle => exact h
  | querying _ _ => exact hpc.elim
  | selectNext _ _ _ => exact hpc.elim
  | selecting _ _ _ _ => exact h
  | reading _ _ _ => exact h
  | deleting _ _ => exact h
  | restoring _ => exact h

theorem SmsInv.init (unavailable : Bool) : SmsInv [] [] none (.init unavailable) where
  notified := rfl
  finished := .nil
  callbacks := rfl
  latest n hn := by cases hn
  reader := trivial
  main := ⟨rfl, rfl⟩

/-! ## The steps of the reader thread -/

/-- A number that is accepted has been stored. -/
theorem atTokNextint_stored {l : TokLine} (h : ¬ (atTokNextint l).err < 0) :
    (atTokNextint l).out ≠ none := by
  have hneg : (-1 : Int) < 0 := by decide
  unfold atTokNextint atTokNextintBase at h ⊢
  split
  · rename_i hcur
    rw [hcur] at h
    exact absurd hneg h
  · rename_i hcur
    rw [hcur] at h
    split
    · rename_i htok
      simp only [htok] at h
      exact absurd hneg h
    · simp

/-- The reader thread may overwrite the storage when nobody needs it. -/
theorem SmsInv.overwrite {done waiting : List Notification} {running : Option Notification}
    {s : SmsState} (h : SmsInv done waiting running s) (hnone : s.callbacks = [])
    (htaken : s.main.StorageTaken) (storage : CString) {pc : ReaderPc}
    (hpc : ReaderInv { s with smsReadStorage := storage, reader := pc } pc) :
    SmsInv done waiting running { s with smsReadStorage := storage, reader := pc } where
  notified := h.notified
  finished := h.finished
  callbacks := h.callbacks
  latest n hn := by
    rw [h.waiting_nil hnone] at hn
    cases hn
  reader := hpc
  main := by
    have hmain := h.main
    cases running with
    | none => exact hmain
    | some n => exact MainInv.of_taken htaken hmain

theorem SmsInv.readerStep {done waiting : List Notification} {running : Option Notification}
    {s s' : SmsState} (h : SmsInv done waiting running s) (hmeets : SmsMeets s .reader)
    (hstep : s.readerStep = some s') : ∃ waiting, SmsInv done waiting running s' := by
  have hreader := h.reader
  unfold SmsMeets at hmeets
  unfold SmsState.readerStep at hstep
  cases hpc : s.reader with
  | idle =>
    rw [hpc] at hstep
    cases hstep
  | indexNext response storage line =>
    rw [hpc] at hstep hmeets
    dsimp only at hstep hmeets
    -- a callback that waits keeps the parser from storing
    have hlatest : ∀ n ∈ waiting, Latest
        { s with smsStorageIndex := (atTokNextint line).out.getD s.smsStorageIndex } n := by
      intro n hn
      cases hout : (atTokNextint line).out with
      | none => exact h.latest n hn
      | some v =>
        rw [h.waiting_nil (hmeets (by simp [hout]))] at hn
        cases hn
    split at hstep
    · cases hstep
      exact ⟨waiting, h.notified, h.finished, h.callbacks, hlatest, trivial, h.main⟩
    · rename_i hok
      cases hstep
      have hnone : s.callbacks = [] := hmeets (atTokNextint_stored hok)
      exact ⟨waiting, h.notified, h.finished, h.callbacks, hlatest, ⟨hnone, rfl⟩, h.main⟩
  | clearNext n =>
    rw [hpc] at hstep hmeets hreader
    cases hstep
    exact ⟨waiting, h.overwrite hmeets.1 hmeets.2 [] hreader⟩
  | copyNext n =>
    rw [hpc] at hstep hmeets hreader
    cases hstep
    refine ⟨waiting, h.overwrite hmeets.1 hmeets.2.1 _ ⟨hreader.1, hreader.2, ?_⟩⟩
    exact List.take_of_length_le hmeets.2.2
  | requestNext n =>
    rw [hpc] at hstep hreader
    cases hstep
    have hwaiting := h.waiting_nil hreader.1
    subst hwaiting
    refine ⟨[n], ?_, h.finished, ?_, ?_, trivial, h.main⟩
    · simp [h.notified]
    · simp [hreader.1]
    · intro n' hn'
      rw [List.mem_singleton.mp hn']
      exact hreader.2

/-! ## The steps of the main thread -/

/-- The running callback goes on. -/
theorem SmsInv.goOn {done waiting : List Notification} {n : Notification} {s : SmsState}
    (h : SmsInv done waiting (some n) s) (events : List Event) {pc : MainPc} (hpc : pc ≠ .idle)
    (hmain : MainInv s.smsReadStorage n (s.trace ++ events) pc) :
    SmsInv done waiting (some n) (s.mainNext events pc) := by
  have hnext : s.mainNext events pc = { s with main := pc, trace := s.trace ++ events } := by
    cases pc <;> first | rfl | exact absurd rfl hpc
  rw [hnext]
  refine ⟨h.notified, h.finished, h.callbacks, h.latest, ?_, hmain⟩
  exact h.reader

/-- It returns, and its notification is done. -/
theorem SmsInv.returned {done waiting : List Notification} {n : Notification} {s : SmsState}
    (h : SmsInv done waiting (some n) s) {events : List Event} (hread : IsReadBy n (s.trace ++ events)) :
    SmsInv (done ++ [n]) waiting none (s.mainNext events .idle) where
  notified := h.notified.trans (by simp)
  finished := List.rel_append h.finished (.cons hread .nil)
  callbacks := h.callbacks
  latest := h.latest
  reader := h.reader
  main := ⟨rfl, rfl⟩

theorem afterQuery_of_namesStorage {response : Unsolicited} {index : Int} {reply : Reply} {pc : MainPc}
    (h : NamesStorage reply) (hpc : afterQuery response index reply = some pc) :
    ∃ old, pc = .selectNext response index old := by
  cases reply with
  | failed e r => exact h.elim
  | response r =>
    obtain ⟨hsuccess, hline⟩ := h
    rw [afterQuery, if_pos hsuccess] at hpc
    cases hlines : r.intermediates with
    | nil =>
      rw [hlines] at hpc
      cases hpc
    | cons line rest =>
      rw [hlines] at hpc hline
      obtain ⟨hstart, hstr⟩ := hline line rfl
      dsimp only at hpc
      rw [if_neg (Int.not_lt.mpr hstart), if_neg (Int.not_lt.mpr hstr)] at hpc
      obtain ⟨p, -, rfl⟩ := Option.map_eq_some_iff.mp hpc
      exact ⟨_, rfl⟩

theorem afterRead_of_hasMessage {response : Unsolicited} {index : Int} {old : CString} {raw : Reply}
    (h : HasMessage raw) :
    ∃ r header pdu rest, raw = .response r ∧ r.intermediates = header :: pdu :: rest ∧
      afterRead response index old raw = ([.unsolicited response (.str pdu)], .deleting index old) := by
  cases raw with
  | failed e r => exact h.elim
  | response r =>
    obtain ⟨hsuccess, hlength, hheader⟩ := h
    rcases hlines : r.intermediates with _ | ⟨header, _ | ⟨pdu, rest⟩⟩
    · simp [hlines] at hlength
    · simp [hlines] at hlength
    · rw [hlines] at hheader
      obtain ⟨hstart, hint⟩ := hheader header rfl
      refine ⟨r, header, pdu, rest, rfl, hlines, ?_⟩
      rw [afterRead, if_pos hsuccess, hlines]
      dsimp only
      rw [if_neg (Int.not_lt.mpr hstart), if_neg (Int.not_lt.mpr hint)]

theorem SmsInv.replyStep {done waiting : List Notification} {running : Option Notification}
    {s s' : SmsState} {raw : Reply} (h : SmsInv done waiting running s)
    (hmeets : SmsMeets s (.reply raw)) (hstep : s.replyStep raw = some s') :
    ∃ done running, SmsInv done waiting running s' := by
  have hmain := h.main
  unfold SmsMeets at hmeets
  unfold SmsState.replyStep at hstep
  cases running with
  | none =>
    rw [hmain.1] at hstep
    cases hstep
  | some n =>
    have hn : MainInv s.smsReadStorage n s.trace s.main := hmain
    cases hpc : s.main with
    | idle =>
      rw [hpc] at hstep
      cases hstep
    | querying response index =>
      rw [hpc] at hstep hmeets hn
      obtain ⟨rfl, rfl, hstorage, htrace⟩ := hn
      obtain ⟨pc, hafter, rfl⟩ := Option.map_eq_some_iff.mp hstep
      obtain ⟨old, rfl⟩ := afterQuery_of_namesStorage hmeets hafter
      refine ⟨done, some n, h.goOn _ (by simp) ⟨rfl, rfl, hstorage, raw.check (.singleline "+CPMS:"), ?_⟩⟩
      rw [htrace]
      rfl
    | selectNext response index old =>
      rw [hpc] at hstep
      cases hstep
    | selecting response index old command =>
      rw [hpc] at hstep hn
      obtain ⟨rfl, rfl, rfl, queried, htrace⟩ := hn
      cases hstep
      refine ⟨done, some n, h.goOn _ (by simp) ⟨rfl, rfl, queried, raw, ?_⟩⟩
      rw [htrace]
      rfl
    | reading response index old =>
      rw [hpc] at hstep hmeets hn
      obtain ⟨rfl, rfl, queried, selected, htrace⟩ := hn
      obtain ⟨r, header, pdu, rest, rfl, hlines, hafter⟩ :=
        @afterRead_of_hasMessage n.response n.index old raw hmeets
      dsimp only at hstep
      rw [hafter] at hstep
      cases hstep
      refine ⟨done, some n, h.goOn _ (by simp) ⟨rfl, queried, selected, r, header, pdu, rest, hlines, ?_⟩⟩
      rw [htrace]
      rfl
    | deleting index old =>
      rw [hpc] at hstep hn
      obtain ⟨rfl, queried, selected, r, header, pdu, rest, hlines, htrace⟩ := hn
      cases hstep
      refine ⟨done, some n, h.goOn _ (by simp) ⟨queried, selected, r, header, pdu, rest, raw, hlines, ?_⟩⟩
      rw [htrace]
      rfl
    | restoring old =>
      rw [hpc] at hstep hn
      obtain ⟨queried, selected, r, header, pdu, rest, deleted, hlines, htrace⟩ := hn
      cases hstep
      refine ⟨done ++ [n], none, h.returned ?_⟩
      refine ⟨queried, selected, r, header, pdu, rest, deleted, old, raw, hlines, ?_⟩
      rw [htrace]
      rfl

/-! ## Runs -/

/-- A line that arrives stores nothing yet. -/
theorem readerInv_onUnsolicitedSms (s : SmsState) (unavailable : Bool) (text : CString) :
    ReaderInv s (onUnsolicitedSms unavailable text) := by
  unfold onUnsolicitedSms
  split
  · trivial
  · cases notificationResponse text with
    | none => trivial
    | some response =>
      dsimp only
      split
      · trivial
      · cases (atTokNextstr (atTokStart (.ofString text)).2).out with
        | none => trivial
        | some p => trivial

/-- The next callback takes the index of its notification. -/
theorem SmsInv.callback {done waiting : List Notification} {running : Option Notification}
    {s : SmsState} {response : Unsolicited} {rest : List Unsolicited}
    (h : SmsInv done waiting running s) (hidle : s.main = .idle)
    (hcallbacks : s.callbacks = response :: rest) :
    ∃ waiting running, SmsInv done waiting running
      { s with callbacks := rest, main := .querying response s.smsStorageIndex } := by
  have hmain := h.main
  have hmap := h.callbacks
  have hnotified := h.notified
  cases running with
  | some n =>
    rw [hidle] at hmain
    exact hmain.elim
  | none =>
    cases waiting with
    | nil =>
      rw [hcallbacks] at hmap
      cases hmap
    | cons n waiting =>
      rw [hcallbacks, List.map_cons, List.cons.injEq] at hmap
      obtain ⟨hindex, hstorage⟩ := h.latest n List.mem_cons_self
      refine ⟨waiting, some n, by simpa using hnotified, h.finished, hmap.2, ?_, ?_,
        hmap.1.symm, hindex, hstorage, hmain.2⟩
      · intro n' hn'
        exact h.latest n' (List.mem_cons_of_mem n hn')
      · -- no notification is being stored, as a callback was waiting
        have hreader := h.reader
        dsimp only
        cases hpc : s.reader with
        | idle => trivial
        | indexNext _ _ _ => trivial
        | clearNext _ =>
          rw [hpc, ReaderInv, hcallbacks] at hreader
          cases hreader.1
        | copyNext _ =>
          rw [hpc, ReaderInv, hcallbacks] at hreader
          cases hreader.1
        | requestNext _ =>
          rw [hpc, ReaderInv, hcallbacks] at hreader
          cases hreader.1

/-- It takes the storage of its notification. -/
theorem SmsInv.select {done waiting : List Notification} {running : Option Notification}
    {s : SmsState} {response : Unsolicited} {index : Int} {old : CString}
    (h : SmsInv done waiting running s) (hpc : s.main = .selectNext response index old) :
    SmsInv done waiting running
      { s with main := .selecting response index old (cpmsCommand s.smsReadStorage) } := by
  refine ⟨h.notified, h.finished, h.callbacks, h.latest, h.reader, ?_⟩
  have hmain := h.main
  rw [hpc] at hmain
  cases running with
  | none => cases hmain.1
  | some n =>
    obtain ⟨rfl, rfl, hstorage, htrace⟩ := hmain
    exact ⟨rfl, rfl, by rw [hstorage], htrace⟩

theorem SmsInv.step {done waiting : List Notification} {running : Option Notification}
    {s s' : SmsState} {e : SmsEvent} (h : SmsInv done waiting running s) (hmeets : SmsMeets s e)
    (hstep : smsStep s e = some s') :
    ∃ done waiting running, SmsInv done waiting running s' := by
  cases e with
  | radio unavailable =>
    cases hstep
    exact ⟨done, waiting, running, h.notified, h.finished, h.callbacks, h.latest, h.reader, h.main⟩
  | line text =>
    unfold smsStep at hstep
    dsimp only at hstep
    split at hstep
    · cases hstep
      refine ⟨done, waiting, running, h.notified, h.finished, h.callbacks, h.latest, ?_, h.main⟩
      exact readerInv_onUnsolicitedSms _ _ _
    · cases hstep
  | reader =>
    obtain ⟨waiting, hinv⟩ := h.readerStep hmeets hstep
    exact ⟨done, waiting, running, hinv⟩
  | callback =>
    unfold smsStep at hstep
    dsimp only at hstep
    split at hstep
    · rename_i response rest hidle hcallbacks
      cases hstep
      obtain ⟨waiting, running, hinv⟩ := h.callback hidle hcallbacks
      exact ⟨done, waiting, running, hinv⟩
    · cases hstep
  | select =>
    unfold smsStep at hstep
    dsimp only at hstep
    split at hstep
    · rename_i response index old hpc
      cases hstep
      exact ⟨done, waiting, running, h.select hpc⟩
    · cases hstep
  | reply raw =>
    obtain ⟨done, running, hinv⟩ := h.replyStep hmeets hstep
    exact ⟨done, waiting, running, hinv⟩

theorem SmsInv.eachReadOnce {done waiting : List Notification} {running : Option Notification}
    {s : SmsState} (h : SmsInv done waiting running s) : EachReadOnce s := by
  refine ⟨done, running.toList, waiting, h.notified, h.finished, ?_, ?_, h.callbacks⟩
  · have hmain := h.main
    cases running with
    | none => exact iff_of_true rfl hmain.1
    | some n =>
      refine iff_of_false (by simp) fun hidle => ?_
      rw [hidle] at hmain
      exact hmain
  · cases running with
    | none => exact Nat.zero_le 1
    | some n => exact Nat.le_refl 1

/-- In every run in which the reader thread never overwrites what a callback still needs, each
    notified message is read by one callback and reported as it was announced. -/
theorem notified_read {unavailable : Bool} {es : List SmsEvent} {s : SmsState}
    (hmeets : RunMeets smsStep SmsMeets (.init unavailable) es)
    (hrun : runSteps smsStep (.init unavailable) es = some s) : EachReadOnce s := by
  have hinv : ∃ done waiting running, SmsInv done waiting running s := by
    refine runSteps_invariant_of_meets
      (fun s => ∃ done waiting running, SmsInv done waiting running s) ?_ hmeets ?_ hrun
    · rintro s e s' hmeets ⟨done, waiting, running, h⟩ hstep
      exact h.step hmeets hstep
    · exact ⟨[], [], none, SmsInv.init unavailable⟩
  obtain ⟨done, waiting, running, h⟩ := hinv
  exact h.eachReadOnce

def okReply (lines : List CString) : Reply := .response ⟨true, some "OK".toList, lines⟩

/-- The replies to the commands of a callback. -/
def callbackRuns : List SmsEvent :=
  [.callback, .reply (okReply ["+CPMS: \"SM\",0,20"]), .select, .reply (okReply []),
    .reply (okReply ["+CMGR: 0,,24", "0791"]), .reply (okReply []), .reply (okReply [])]

/-- A line arrives, and is handled. -/
def lineHandled (s : CString) : List SmsEvent := [.line s, .reader, .reader, .reader, .reader]

/-- One message. -/
theorem notified_read_one :
    ∃ s, runSteps smsStep (.init false) (lineHandled "+CMTI: \"ME\",1" ++ callbackRuns) = some s ∧
      s.notified = [⟨.newSms, "ME", 1⟩] ∧ s.main = .idle ∧ EachReadOnce s := by
  have hmeets : RunMeets smsStep SmsMeets (.init false)
      (lineHandled "+CMTI: \"ME\",1" ++ callbackRuns) := by decide +kernel
  have hrun : (runSteps smsStep (.init false) (lineHandled "+CMTI: \"ME\",1" ++ callbackRuns)).map
      (fun s => (s.notified, s.main)) = some ([⟨.newSms, "ME", 1⟩], .idle) := by decide +kernel
  obtain ⟨s, hrun, hs⟩ := Option.map_eq_some_iff.mp hrun
  obtain ⟨hnotified, hmain⟩ := Prod.ext_iff.mp hs
  exact ⟨s, hrun, hnotified, hmain, notified_read hmeets hrun⟩

/-- Two messages, the second of which is announced before the first has been read. -/
def twoLines : List SmsEvent :=
  lineHandled "+CMTI: \"ME\",1" ++ lineHandled "+CMTI: \"ME\",2" ++ callbackRuns ++ callbackRuns

/-- Both callbacks read the second message. -/
theorem first_not_read :
    ∃ s, runSteps smsStep (.init false) twoLines = some s ∧
      s.notified = [⟨.newSms, "ME", 1⟩, ⟨.newSms, "ME", 2⟩] ∧ s.callbacks = [] ∧ s.main = .idle ∧
      (∀ trace ∈ s.finished, ¬ IsReadBy ⟨.newSms, "ME", 1⟩ trace) ∧ ¬ EachReadOnce s := by
  have hrun : (runSteps smsStep (.init false) twoLines).map
      (fun s => (s.notified, s.callbacks, s.main, s.finished.map fun l => l[2]?)) =
        some ([⟨.newSms, "ME", 1⟩, ⟨.newSms, "ME", 2⟩], [], .idle,
          List.replicate 2 (some (.at "AT+CMGR=2" (okReply ["+CMGR: 0,,24", "0791"])))) := by
    decide +kernel
  obtain ⟨s, hrun, hs⟩ := Option.map_eq_some_iff.mp hrun
  simp only [Prod.mk.injEq] at hs
  obtain ⟨hnotified, hcallbacks, hmain, hreads⟩ := hs
  have hnot : ∀ l ∈ s.finished, ¬ IsReadBy ⟨.newSms, "ME", 1⟩ l := by
    rintro l hmem ⟨queried, selected, r, header, pdu, rest, deleted, old, restored, -, hl⟩
    have hread : l[2]? ∈ s.finished.map fun l => l[2]? := List.mem_map_of_mem hmem
    rw [hreads, hl] at hread
    have heq := Event.at.inj (Option.some.inj (List.eq_of_mem_replicate hread))
    have hcommand : cmgrCommand 1 ≠ "AT+CMGR=2" := by decide
    exact hcommand heq.1
  refine ⟨s, hrun, hnotified, hcallbacks, hmain, hnot, ?_⟩
  rintro ⟨done, running, waiting, hsplit, hfinished, hrunning, -, hwaiting⟩
  rw [hcallbacks, List.map_eq_nil_iff] at hwaiting
  rw [hnotified, hrunning.mpr hmain, hwaiting, List.append_nil, List.append_nil] at hsplit
  subst hsplit
  obtain ⟨l, rest, hfirst, -, hlist⟩ := List.forall₂_cons_left_iff.mp hfinished
  rw [hlist] at hnot
  exact hnot l List.mem_cons_self hfirst

end AndroidPatch.Ril.Reference
