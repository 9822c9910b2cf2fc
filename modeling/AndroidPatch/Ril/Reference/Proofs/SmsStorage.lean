import Mathlib.Data.List.TakeDrop
import AndroidPatch.Misc.Run
import AndroidPatch.Ril.Reference.Proofs.NewSms

/-!
# The storage of the modem after a message was read

`readNewSms` selects the storage that a message was announced in and has to set the old one again.
It returns early when the message cannot be read, keeps two characters of the old name, and deletes
a message that it has not got.
-/

namespace AndroidPatch.Ril.Reference

open AtChannel
open Altair (Reply)

/-! ## What a callback should do -/

/-- The storage that a reply to `AT+CPMS?` names. -/
def namedStorage : Reply → Option CString
  | .failed _ _ => none
  | .response r =>
      if r.success then
        match r.intermediates with
        | [] => none
        | line :: _ =>
            let start := atTokStart (.ofString line)
            if start.1 < 0 then none
            else
              let storage := atTokNextstr start.2
              if storage.err < 0 then none else storage.out.map storage.line.text
      else none

/-- Where a storage has been selected, the one that was named is set again behind it. -/
def RestoresStorage (l : List Event) : Prop :=
  ∀ queried storage selected more,
    l = .at "AT+CPMS?" queried :: .at (cpmsCommand storage) selected :: more →
    ∃ name restored, namedStorage queried = some name ∧ .at (cpmsCommand name) restored ∈ more

/-- A message is deleted when it has been read and reported. -/
def DeletesReported (l : List Event) : Prop :=
  ∀ pre index deleted post, l = pre ++ .at (cmgdCommand index) deleted :: post →
    ∃ response r header pdu rest, .at (cmgrCommand index) (.response r) ∈ pre ∧
      r.intermediates = header :: pdu :: rest ∧ .unsolicited response (.str pdu) ∈ pre

/-- A header that is not parsed. -/
def HeaderRefused (header : CString) : Prop :=
  (atTokStart (.ofString header)).1 < 0 ∨
    (atTokNextint (atTokStart (.ofString header)).2).err < 0

instance : DecidablePred HeaderRefused := fun _ => inferInstanceAs (Decidable (_ ∨ _))

/-- A reply to `AT+CMGR=` that has a message, or a header that is not parsed. -/
def MessageOrRefused : Reply → Prop
  | .failed _ _ => False
  | .response r => r.success = true ∧ ∃ header rest, r.intermediates = header :: rest ∧
      (HeaderRefused header ∨ rest ≠ [])

/-- What the replies to the first and to the third command have to be. -/
def RepliesMeet (l : List Event) : Prop :=
  ∀ queried select command read more, l = .at "AT+CPMS?" queried :: select :: .at command read :: more →
    (∀ name, namedStorage queried = some name → name.length ≤ 2) ∧ MessageOrRefused read

/-! ## The trace of a callback -/

/-- What is reported of a reply to `AT+CMGR=`, where the message is deleted next. -/
def Reported (response : Unsolicited) (read : Reply) (l : List Event) : Prop :=
  (MessageOrRefused read ∧ ∃ r header pdu rest, read = .response r ∧
    r.intermediates = header :: pdu :: rest ∧ l = [.unsolicited response (.str pdu)]) ∨
  (¬ MessageOrRefused read ∧ l = [])

/-- What a callback has done where it stands. -/
inductive CallbackAt : MainPc → List Event → Prop
  | idle : CallbackAt .idle []
  | querying (response : Unsolicited) (index : Int) : CallbackAt (.querying response index) []
  | selectNext {queried : Reply} {name : CString} (response : Unsolicited) (index : Int)
      (hname : namedStorage queried = some name) :
      CallbackAt (.selectNext response index (name.take 2)) [.at "AT+CPMS?" queried]
  | selecting {queried : Reply} {name : CString} (response : Unsolicited) (index : Int)
      (storage : CString) (hname : namedStorage queried = some name) :
      CallbackAt (.selecting response index (name.take 2) (cpmsCommand storage))
        [.at "AT+CPMS?" queried]
  | reading {queried : Reply} {name : CString} (response : Unsolicited) (index : Int)
      (storage : CString) (selected : Reply) (hname : namedStorage queried = some name) :
      CallbackAt (.reading response index (name.take 2))
        [.at "AT+CPMS?" queried, .at (cpmsCommand storage) selected]
  | deleting {queried read : Reply} {name : CString} {response : Unsolicited} {reported : List Event}
      (index : Int) (storage : CString) (selected : Reply) (hname : namedStorage queried = some name)
      (hread : Reported response read reported) :
      CallbackAt (.deleting index (name.take 2)) (.at "AT+CPMS?" queried ::
        .at (cpmsCommand storage) selected :: .at (cmgrCommand index) read :: reported)
  | refused {queried read : Reply} {name : CString} (index : Int) (storage : CString) (selected : Reply)
      (hname : namedStorage queried = some name) (hread : MessageOrRefused read) :
      CallbackAt (.restoring (name.take 2)) [.at "AT+CPMS?" queried, .at (cpmsCommand storage) selected,
        .at (cmgrCommand index) read]
  | deleted {queried read : Reply} {name : CString} {response : Unsolicited} {reported : List Event}
      (index : Int) (storage : CString) (selected deleted : Reply)
      (hname : namedStorage queried = some name) (hread : Reported response read reported) :
      CallbackAt (.restoring (name.take 2)) (.at "AT+CPMS?" queried ::
        .at (cpmsCommand storage) selected :: .at (cmgrCommand index) read ::
          (reported ++ [.at (cmgdCommand index) deleted]))

/-- What a callback has done that has returned. -/
inductive CallbackDone : List Event → Prop
  | unnamed {queried : Reply} (hname : namedStorage queried = none) :
      CallbackDone [.at "AT+CPMS?" queried]
  | unread {queried read : Reply} {name : CString} (index : Int) (storage : CString) (selected : Reply)
      (hname : namedStorage queried = some name) (hread : ¬ MessageOrRefused read) :
      CallbackDone [.at "AT+CPMS?" queried, .at (cpmsCommand storage) selected,
        .at (cmgrCommand index) read]
  | restored {l : List Event} {old : CString} (h : CallbackAt (.restoring old) l) (restored : Reply) :
      CallbackDone (l ++ [.at (cpmsCommand old) restored])

/-- Where the callbacks stand. -/
structure CallbackInv (s : SmsState) : Prop where
  running : CallbackAt s.main s.trace
  finished : ∀ l ∈ s.finished, CallbackDone l

theorem CallbackInv.init (unavailable : Bool) : CallbackInv (.init unavailable) :=
  ⟨.idle, List.forall_mem_nil _⟩

/-! ## The steps -/

theorem afterQuery_cases {response : Unsolicited} {index : Int} {reply : Reply} {pc : MainPc}
    (h : afterQuery response index reply = some pc) :
    (namedStorage reply = none ∧ pc = .idle) ∨
      ∃ name, namedStorage reply = some name ∧ pc = .selectNext response index (name.take 2) := by
  cases reply with
  | failed e r =>
    cases h
    exact .inl ⟨rfl, rfl⟩
  | response r =>
    unfold afterQuery at h
    unfold namedStorage
    dsimp only at h ⊢
    split at h
    · rename_i hsuccess
      rw [if_pos hsuccess]
      cases hlines : r.intermediates with
      | nil =>
        rw [hlines] at h
        cases h
      | cons line rest =>
        rw [hlines] at h
        dsimp only at h ⊢
        split at h
        · rename_i hstart
          rw [if_pos hstart]
          cases h
          exact .inl ⟨rfl, rfl⟩
        · rename_i hstart
          rw [if_neg hstart]
          split at h
          · rename_i hstorage
            rw [if_pos hstorage]
            cases h
            exact .inl ⟨rfl, rfl⟩
          · rename_i hstorage
            rw [if_neg hstorage]
            obtain ⟨p, hout, rfl⟩ := Option.map_eq_some_iff.mp h
            exact .inr ⟨_, by rw [hout]; rfl, rfl⟩
    · rename_i hfailed
      rw [if_neg hfailed]
      cases h
      exact .inl ⟨rfl, rfl⟩

/-- The ways to go on behind the reply to `AT+CMGR=`. -/
theorem afterRead_cases (response : Unsolicited) (index : Int) (old : CString) (read : Reply) :
    (¬ MessageOrRefused read ∧ afterRead response index old read = ([], .idle)) ∨
      (MessageOrRefused read ∧ afterRead response index old read = ([], .restoring old)) ∨
      ∃ l, Reported response read l ∧ afterRead response index old read = (l, .deleting index old) := by
  cases read with
  | failed e r => exact .inl ⟨id, rfl⟩
  | response r =>
    unfold afterRead
    dsimp only
    by_cases hsuccess : r.success = true
    · rw [if_pos hsuccess]
      rcases hlines : r.intermediates with _ | ⟨header, rest⟩
      · refine .inr (.inr ⟨[], .inr ⟨?_, rfl⟩, rfl⟩)
        rintro ⟨-, header, rest, hheader, -⟩
        rw [hlines] at hheader
        cases hheader
      · dsimp only
        by_cases hrefused : HeaderRefused header
        · refine .inr (.inl ⟨⟨hsuccess, header, rest, hlines, .inl hrefused⟩, ?_⟩)
          rcases hrefused with hstart | hstate
          · rw [if_pos hstart]
          · rw [if_pos hstate, ite_self]
        · obtain ⟨hstart, hstate⟩ := not_or.mp hrefused
          rw [if_neg hstart, if_neg hstate]
          cases rest with
          | nil =>
            refine .inr (.inr ⟨[], .inr ⟨?_, rfl⟩, rfl⟩)
            rintro ⟨-, header', rest', hheader, hmessage⟩
            rw [hlines] at hheader
            cases hheader
            exact hmessage.elim hrefused (absurd rfl)
          | cons pdu rest =>
            exact .inr (.inr ⟨_, .inl ⟨⟨hsuccess, header, pdu :: rest, hlines, .inr (by simp)⟩, r, header,
              pdu, rest, rfl, hlines, rfl⟩, rfl⟩)
    · rw [if_neg hsuccess]
      exact .inl ⟨fun h => hsuccess h.1, rfl⟩

/-- The callback goes on. -/
theorem CallbackInv.goOn {s : SmsState} (h : CallbackInv s) {events : List Event} {pc : MainPc}
    (hpc : pc ≠ .idle) (hrunning : CallbackAt pc (s.trace ++ events)) :
    CallbackInv (s.mainNext events pc) := by
  cases pc with
  | idle => exact absurd rfl hpc
  | _ => exact ⟨hrunning, h.finished⟩

/-- It returns. -/
theorem CallbackInv.returned {s : SmsState} (h : CallbackInv s) {events : List Event}
    (hdone : CallbackDone (s.trace ++ events)) : CallbackInv (s.mainNext events .idle) := by
  refine ⟨.idle, fun l hl => ?_⟩
  rcases List.mem_append.mp hl with hl | hl
  · exact h.finished l hl
  · rw [List.mem_singleton.mp hl]
    exact hdone

theorem CallbackInv.replyStep {s s' : SmsState} {raw : Reply} (h : CallbackInv s)
    (hstep : s.replyStep raw = some s') : CallbackInv s' := by
  have hrunning := h.running
  unfold SmsState.replyStep at hstep
  cases hpc : s.main with
  | idle =>
    rw [hpc] at hstep
    cases hstep
  | querying response index =>
    rw [hpc] at hstep hrunning
    obtain ⟨pc, hafter, rfl⟩ := Option.map_eq_some_iff.mp hstep
    generalize htrace : s.trace = l at hrunning
    cases hrunning
    rcases afterQuery_cases hafter with ⟨hnone, rfl⟩ | ⟨name, hname, rfl⟩
    · apply h.returned
      rw [htrace]
      exact .unnamed hnone
    · apply h.goOn (by simp)
      rw [htrace]
      exact .selectNext response index hname
  | selectNext response index old =>
    rw [hpc] at hstep
    cases hstep
  | selecting response index old command =>
    rw [hpc] at hstep hrunning
    generalize htrace : s.trace = l at hrunning
    cases hrunning with
    | selecting _ _ storage hname =>
      cases hstep
      apply h.goOn (by simp)
      rw [htrace]
      exact .reading response index storage raw hname
  | reading response index old =>
    rw [hpc] at hstep hrunning
    generalize htrace : s.trace = l at hrunning
    cases hrunning with
    | @reading _ name _ _ storage selected hname =>
      dsimp only at hstep
      rcases afterRead_cases response index (name.take 2) raw with
        ⟨hread, hafter⟩ | ⟨hread, hafter⟩ | ⟨reported, hread, hafter⟩
      · rw [hafter] at hstep
        cases hstep
        apply h.returned
        rw [htrace]
        exact .unread index storage selected hname hread
      · rw [hafter] at hstep
        cases hstep
        apply h.goOn (by simp)
        rw [htrace]
        exact .refused index storage selected hname hread
      · rw [hafter] at hstep
        cases hstep
        apply h.goOn (by simp)
        rw [htrace]
        exact .deleting index storage selected hname hread
  | deleting index old =>
    rw [hpc] at hstep hrunning
    generalize htrace : s.trace = l at hrunning
    cases hrunning with
    | deleting _ storage selected hname hread =>
      cases hstep
      apply h.goOn (by simp)
      rw [htrace]
      exact .deleted index storage selected raw hname hread
  | restoring old =>
    rw [hpc] at hstep hrunning
    cases hstep
    exact h.returned (.restored hrunning raw)

theorem CallbackInv.step {s s' : SmsState} {e : SmsEvent} (h : CallbackInv s)
    (hstep : smsStep s e = some s') : CallbackInv s' := by
  have hrunning := h.running
  unfold smsStep at hstep
  cases e with
  | radio unavailable =>
    cases hstep
    exact ⟨h.running, h.finished⟩
  | line text =>
    dsimp only at hstep
    split at hstep
    · cases hstep
      exact ⟨h.running, h.finished⟩
    · cases hstep
  | reader =>
    dsimp only at hstep
    unfold SmsState.readerStep at hstep
    split at hstep
    · cases hstep
    · dsimp only at hstep
      split at hstep
      · cases hstep
        exact ⟨h.running, h.finished⟩
      · cases hstep
        exact ⟨h.running, h.finished⟩
    · cases hstep
      exact ⟨h.running, h.finished⟩
    · cases hstep
      exact ⟨h.running, h.finished⟩
    · cases hstep
      exact ⟨h.running, h.finished⟩
  | callback =>
    dsimp only at hstep
    split at hstep
    · rename_i response rest hidle hcallbacks
      cases hstep
      rw [hidle] at hrunning
      generalize htrace : s.trace = l at hrunning
      cases hrunning
      exact ⟨.querying response s.smsStorageIndex, h.finished⟩
    · cases hstep
  | select =>
    dsimp only at hstep
    split at hstep
    · rename_i response index old hpc
      cases hstep
      rw [hpc] at hrunning
      generalize htrace : s.trace = l at hrunning
      cases hrunning with
      | selectNext _ _ hname =>
        exact ⟨.selecting response index s.smsReadStorage hname, h.finished⟩
    · cases hstep
  | reply raw => exact h.replyStep hstep

/-! ## Commands -/

theorem cpmsCommand_inj {storage storage' : CString} (h : cpmsCommand storage = cpmsCommand storage') :
    storage = storage' := by
  unfold cpmsCommand at h
  exact List.append_cancel_left (List.append_cancel_right h)

theorem cpmsCommand_ne_cmgrCommand (storage : CString) (index : Int) :
    cpmsCommand storage ≠ cmgrCommand index := by
  intro h
  have hfifth : some 'P' = some 'M' := congrArg (fun l : CString => l[4]?) h
  cases hfifth

theorem cmgdCommand_ne (index : Int) : cmgdCommand index ≠ "AT+CPMS?" ∧
    (∀ storage, cmgdCommand index ≠ cpmsCommand storage) ∧
    ∀ index', cmgdCommand index ≠ cmgrCommand index' := by
  refine ⟨fun h => ?_, fun storage h => ?_, fun index' h => ?_⟩
  · have hfifth : some 'M' = some 'P' := congrArg (fun l : CString => l[4]?) h
    cases hfifth
  · have hfifth : some 'M' = some 'P' := congrArg (fun l : CString => l[4]?) h
    cases hfifth
  · have hseventh : some 'D' = some 'R' := congrArg (fun l : CString => l[6]?) h
    cases hseventh

theorem cmgrCommand_congr {index index' : Int} (h : cmgdCommand index = cmgdCommand index') :
    cmgrCommand index = cmgrCommand index' := by
  unfold cmgdCommand at h
  unfold cmgrCommand
  rw [List.append_cancel_left h]

/-- An event that is a deletion. -/
def IsDeletion (e : Event) : Prop := ∃ index deleted, e = .at (cmgdCommand index) deleted

/-- There is one way to split a list at the only element of a kind. -/
theorem split_unique {α : Type} {p : α → Prop} {pre pre' post post' : List α} {a a' : α} (ha : p a)
    (hpre' : ∀ b ∈ pre', ¬ p b) (hpost' : ∀ b ∈ post', ¬ p b)
    (h : pre ++ a :: post = pre' ++ a' :: post') : pre = pre' ∧ a = a' := by
  induction pre' generalizing pre with
  | nil =>
    cases pre with
    | nil =>
      cases h
      exact ⟨rfl, rfl⟩
    | cons b pre =>
      cases h
      exact absurd ha (hpost' a (List.mem_append_right pre List.mem_cons_self))
  | cons b' pre' ih =>
    cases pre with
    | nil =>
      cases h
      exact absurd ha (hpre' a List.mem_cons_self)
    | cons b pre =>
      simp only [List.cons_append, List.cons.injEq] at h
      obtain ⟨rfl, h⟩ := h
      obtain ⟨rfl, rfl⟩ := ih (fun c hc => hpre' c (List.mem_cons_of_mem b hc)) h
      exact ⟨rfl, rfl⟩

/-! ## A callback that has returned -/

theorem deletesReported_of_none {l : List Event} (h : ∀ e ∈ l, ¬ IsDeletion e) : DeletesReported l := by
  rintro pre index deleted post rfl
  exact absurd ⟨index, deleted, rfl⟩ (h _ (List.mem_append_right pre List.mem_cons_self))

theorem deletesReported_iff {pre post : List Event} {index : Int} {deleted : Reply}
    (hpre : ∀ e ∈ pre, ¬ IsDeletion e) (hpost : ∀ e ∈ post, ¬ IsDeletion e) :
    DeletesReported (pre ++ .at (cmgdCommand index) deleted :: post) ↔
      ∃ response r header pdu rest, .at (cmgrCommand index) (.response r) ∈ pre ∧
        r.intermediates = header :: pdu :: rest ∧ .unsolicited response (.str pdu) ∈ pre := by
  constructor
  · intro h
    exact h pre index deleted post rfl
  · rintro h pre' index' deleted' post' hl
    obtain ⟨rfl, heq⟩ := split_unique (p := IsDeletion) ⟨index', deleted', rfl⟩ hpre hpost hl.symm
    injection heq with hcommand
    rw [cmgrCommand_congr hcommand]
    exact h

theorem restoresStorage_iff {queried selected : Reply} {storage name : CString} {more : List Event}
    (hname : namedStorage queried = some name) :
    RestoresStorage (.at "AT+CPMS?" queried :: .at (cpmsCommand storage) selected :: more) ↔
      ∃ restored, .at (cpmsCommand name) restored ∈ more := by
  constructor
  · intro h
    obtain ⟨name', restored, hname', hmem⟩ := h queried storage selected more rfl
    rw [hname] at hname'
    cases hname'
    exact ⟨restored, hmem⟩
  · rintro ⟨restored, hmem⟩ queried' storage' selected' more' hl
    injection hl with hfirst hl
    injection hfirst with _ hqueried
    injection hl with _ hmore
    exact ⟨name, restored, hqueried ▸ hname, hmore ▸ hmem⟩

theorem repliesMeet_iff {queried read : Reply} {select : Event} {command name : CString}
    {more : List Event} (hname : namedStorage queried = some name) :
    RepliesMeet (.at "AT+CPMS?" queried :: select :: .at command read :: more) ↔
      name.length ≤ 2 ∧ MessageOrRefused read := by
  constructor
  · intro h
    obtain ⟨hlen, hread⟩ := h queried select command read more rfl
    exact ⟨hlen name hname, hread⟩
  · rintro ⟨hlen, hread⟩ queried' select' command' read' more' hl
    injection hl with hfirst hl
    injection hfirst with _ hqueried
    injection hl with _ hl
    injection hl with hthird _
    injection hthird with _ hread'
    refine ⟨fun name' hname' => ?_, hread' ▸ hread⟩
    rw [← hqueried, hname] at hname'
    cases hname'
    exact hlen

theorem not_isDeletion_query (queried : Reply) : ¬ IsDeletion (.at "AT+CPMS?" queried) := by
  rintro ⟨index, deleted, h⟩
  injection h with hcommand
  exact (cmgdCommand_ne index).1 hcommand.symm

theorem not_isDeletion_cpms (storage : CString) (reply : Reply) :
    ¬ IsDeletion (.at (cpmsCommand storage) reply) := by
  rintro ⟨index, deleted, h⟩
  injection h with hcommand
  exact (cmgdCommand_ne index).2.1 storage hcommand.symm

theorem not_isDeletion_cmgr (index : Int) (reply : Reply) :
    ¬ IsDeletion (.at (cmgrCommand index) reply) := by
  rintro ⟨index', deleted, h⟩
  injection h with hcommand
  exact (cmgdCommand_ne index').2.2 index hcommand.symm

theorem not_isDeletion_unsolicited (response : Unsolicited) (payload : Payload) :
    ¬ IsDeletion (.unsolicited response payload) := by
  rintro ⟨index, deleted, h⟩
  cases h

/-- What is set again is the storage that was named. -/
theorem mem_cpms_iff {name old : CString} {restored : Reply} {pre : List Event}
    (hpre : ∀ reply, .at (cpmsCommand name) reply ∉ pre) :
    (∃ reply, .at (cpmsCommand name) reply ∈ pre ++ [.at (cpmsCommand old) restored]) ↔ old = name := by
  constructor
  · rintro ⟨reply, hmem⟩
    rcases List.mem_append.mp hmem with hmem | hmem
    · exact absurd hmem (hpre reply)
    · injection List.mem_singleton.mp hmem with hcommand
      exact (cpmsCommand_inj hcommand).symm
  · rintro rfl
    exact ⟨restored, List.mem_append_right pre (List.mem_singleton_self _)⟩

theorem restoresStorage_refused_iff {queried selected read restored : Reply} {name storage : CString}
    {index : Int} (hname : namedStorage queried = some name) :
    RestoresStorage [.at "AT+CPMS?" queried, .at (cpmsCommand storage) selected,
      .at (cmgrCommand index) read, .at (cpmsCommand (name.take 2)) restored] ↔ name.length ≤ 2 := by
  rw [restoresStorage_iff hname, ← List.take_eq_self_iff]
  apply @mem_cpms_iff name (name.take 2) restored [.at (cmgrCommand index) read]
  intro reply hmem
  injection List.mem_singleton.mp hmem with hcommand
  exact cpmsCommand_ne_cmgrCommand name index hcommand

theorem restoresStorage_deleted_iff {queried selected read deleted restored : Reply}
    {name storage : CString} {index : Int} {response : Unsolicited} {reported : List Event}
    (hname : namedStorage queried = some name) (hread : Reported response read reported) :
    RestoresStorage (.at "AT+CPMS?" queried :: .at (cpmsCommand storage) selected ::
      .at (cmgrCommand index) read :: (reported ++ [.at (cmgdCommand index) deleted] ++
        [.at (cpmsCommand (name.take 2)) restored])) ↔ name.length ≤ 2 := by
  rw [restoresStorage_iff hname, ← List.take_eq_self_iff, ← List.cons_append]
  apply mem_cpms_iff
  intro reply hmem
  rcases List.mem_cons.mp hmem with h | hmem
  · injection h with hcommand
    exact cpmsCommand_ne_cmgrCommand name index hcommand
  · rcases List.mem_append.mp hmem with hmem | hmem
    · rcases hread with ⟨-, r, header, pdu, rest, -, -, rfl⟩ | ⟨-, rfl⟩
      · cases List.mem_singleton.mp hmem
      · cases hmem
    · injection List.mem_singleton.mp hmem with hcommand
      exact (cmgdCommand_ne index).2.1 name hcommand.symm

section Deleted

variable {queried selected read : Reply} {storage : CString} {index : Int}

theorem not_isDeletion_front : ∀ e ∈ ([.at "AT+CPMS?" queried, .at (cpmsCommand storage) selected,
    .at (cmgrCommand index) read] : List Event), ¬ IsDeletion e := by
  intro e he
  simp only [List.mem_cons, List.not_mem_nil, or_false] at he
  rcases he with rfl | rfl | rfl
  · exact not_isDeletion_query queried
  · exact not_isDeletion_cpms storage selected
  · exact not_isDeletion_cmgr index read

theorem deletesReported_refused (old : CString) (restored : Reply) :
    DeletesReported [.at "AT+CPMS?" queried, .at (cpmsCommand storage) selected,
      .at (cmgrCommand index) read, .at (cpmsCommand old) restored] := by
  apply deletesReported_of_none
  intro e he
  rcases @List.mem_append _ e [_, _, _] [_] |>.mp he with he | he
  · exact not_isDeletion_front e he
  · rw [List.mem_singleton.mp he]
    exact not_isDeletion_cpms old restored

theorem deletesReported_deleted_iff {deleted restored : Reply} {old : CString} {response : Unsolicited}
    {reported : List Event} (hread : Reported response read reported) :
    DeletesReported (.at "AT+CPMS?" queried :: .at (cpmsCommand storage) selected ::
      .at (cmgrCommand index) read :: (reported ++ [.at (cmgdCommand index) deleted] ++
        [.at (cpmsCommand old) restored])) ↔ MessageOrRefused read := by
  let front : List Event := [.at "AT+CPMS?" queried, .at (cpmsCommand storage) selected,
    .at (cmgrCommand index) read]
  have hback : ∀ e ∈ ([.at (cpmsCommand old) restored] : List Event), ¬ IsDeletion e := by
    intro e he
    rw [List.mem_singleton.mp he]
    exact not_isDeletion_cpms old restored
  rcases hread with ⟨hread, r, header, pdu, rest, rfl, hlines, rfl⟩ | ⟨hread, rfl⟩
  · have hpre : ∀ e ∈ front ++ [.unsolicited response (.str pdu)], ¬ IsDeletion e := by
      intro e he
      rcases List.mem_append.mp he with he | he
      · exact not_isDeletion_front e he
      · rw [List.mem_singleton.mp he]
        exact not_isDeletion_unsolicited response (.str pdu)
    refine iff_of_true ((deletesReported_iff hpre hback).mpr ?_) hread
    exact ⟨response, r, header, pdu, rest, by simp [front], hlines, by simp [front]⟩
  · refine iff_of_false (fun h => ?_) hread
    obtain ⟨response', r, header, pdu, rest, -, -, hreported⟩ :=
      (@deletesReported_iff front _ index deleted not_isDeletion_front hback).mp h
    simp [front] at hreported

end Deleted

/-- What the callback does is right for the replies of the condition and for no others. -/
theorem CallbackDone.iff {l : List Event} (h : CallbackDone l) :
    RestoresStorage l ∧ DeletesReported l ↔ RepliesMeet l := by
  cases h with
  | @unnamed queried hname =>
    refine iff_of_true ⟨?_, ?_⟩ ?_
    · intro queried' storage selected more hl
      cases hl
    · apply deletesReported_of_none
      intro e he
      rw [List.mem_singleton.mp he]
      exact not_isDeletion_query queried
    · intro queried' select command read more hl
      cases hl
  | @unread queried read name index storage selected hname hread =>
    rw [repliesMeet_iff hname, restoresStorage_iff hname]
    refine iff_of_false ?_ (fun h => hread h.2)
    rintro ⟨⟨restored, hmem⟩, -⟩
    injection List.mem_singleton.mp hmem with hcommand
    exact cpmsCommand_ne_cmgrCommand name index hcommand
  | @restored l old h restored =>
    cases h with
    | refused index storage selected hname hread =>
      simp only [List.cons_append, List.nil_append]
      rw [repliesMeet_iff hname, restoresStorage_refused_iff hname]
      exact and_congr_right fun _ => iff_of_true (deletesReported_refused _ _) hread
    | deleted index storage selected deleted hname hread =>
      simp only [List.cons_append]
      rw [repliesMeet_iff hname, restoresStorage_deleted_iff hname hread,
        deletesReported_deleted_iff hread]

/-! ## Runs -/

/-- In every run each callback that has returned has set the old storage again, and has deleted
    nothing unreported, for the replies of the condition and for no others. -/
theorem finished_restores {unavailable : Bool} {es : List SmsEvent} {s : SmsState}
    (hrun : runSteps smsStep (.init unavailable) es = some s) :
    ∀ l ∈ s.finished, RestoresStorage l ∧ DeletesReported l ↔ RepliesMeet l := by
  have hinv : CallbackInv s :=
    runSteps_invariant CallbackInv (fun _ => True) (fun _ _ _ _ h hstep => h.step hstep)
      (fun _ _ => trivial) (CallbackInv.init unavailable) hrun
  exact fun l hl => (hinv.finished l hl).iff

/-- A message that is read. -/
theorem finished_restores_one :
    ∃ s l, runSteps smsStep (.init false) (lineHandled "+CMTI: \"ME\",1" ++ callbackRuns) = some s ∧
      s.finished = [l] ∧ RestoresStorage l ∧ DeletesReported l := by
  have hrun : ((runSteps smsStep (.init false) (lineHandled "+CMTI: \"ME\",1" ++ callbackRuns)).map
      SmsState.finished) = some [[.at "AT+CPMS?" (okReply ["+CPMS: \"SM\",0,20"]),
        .at "AT+CPMS=\"ME\"" (okReply []), .at "AT+CMGR=1" (okReply ["+CMGR: 0,,24", "0791"]),
        .unsolicited .newSms (.str "0791".toList), .at "AT+CMGD=1" (okReply []),
        .at "AT+CPMS=\"SM\"" (okReply [])]] := by decide +kernel
  obtain ⟨s, hrun, hfinished⟩ := Option.map_eq_some_iff.mp hrun
  refine ⟨s, _, hrun, hfinished, (finished_restores hrun _ (by simp [hfinished])).mpr ?_⟩
  exact (@repliesMeet_iff _ _ _ _ "SM" _ rfl).mpr
    ⟨by decide, rfl, "+CMGR: 0,,24", ["0791"], rfl, .inr (by decide)⟩

/-- A message that the modem has not got. -/
def refusedRead : List SmsEvent :=
  lineHandled "+CMTI: \"ME\",1" ++ [.callback, .reply (okReply ["+CPMS: \"SM\",0,20"]), .select,
    .reply (okReply []), .reply (.response ⟨false, some "+CMS ERROR: 321".toList, []⟩)]

/-- The storage stays as it has been selected. -/
theorem not_restored : ¬ ∀ (unavailable : Bool) (es : List SmsEvent) (s : SmsState),
    runSteps smsStep (.init unavailable) es = some s →
      ∀ l ∈ s.finished, RestoresStorage l ∧ DeletesReported l := by
  intro h
  have hrun : (runSteps smsStep (.init false) refusedRead).map SmsState.finished =
      some [[.at "AT+CPMS?" (okReply ["+CPMS: \"SM\",0,20"]), .at (cpmsCommand "ME") (okReply []),
        .at (cmgrCommand 1) (.response ⟨false, some "+CMS ERROR: 321".toList, []⟩)]] := by
    decide +kernel
  obtain ⟨s, hrun, hfinished⟩ := Option.map_eq_some_iff.mp hrun
  obtain ⟨hrestores, -⟩ := h false refusedRead s hrun _ (by rw [hfinished]; exact List.mem_singleton_self _)
  obtain ⟨restored, hmem⟩ := (@restoresStorage_iff _ _ _ "SM" _ rfl).mp hrestores
  injection List.mem_singleton.mp hmem with hcommand
  exact cpmsCommand_ne_cmgrCommand "SM" 1 hcommand

end AndroidPatch.Ril.Reference
