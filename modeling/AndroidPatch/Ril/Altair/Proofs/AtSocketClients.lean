import AndroidPatch.Misc.Run
import AndroidPatch.Ril.Altair.AtSocketThreads

/-!
# To whom unsolicited lines are sent

A reader that has taken the pointer to a structure reads the descriptor in it later, and writes to
it later still. As long as no thread closes the connection of a structure that a reader is at work
with, the bytes go to a client that was accepted.
-/

namespace AndroidPatch.Ril.Altair.AtSocketThreads

variable {s s' : Sys} {a : Action}

/-! ## The rules -/

inductive Rule (s : Sys) : Action → Sys → Prop
  | create {t : Nat} (hpc : s.sock t = .unborn) :
      Rule s (.create t) { s.gotoSock t .listening with
        connDesc := Function.update s.connDesc t (-1) }
  | accept {t : Nat} {d : Int} (hpc : s.sock t = .listening) (hfree : s.files d = none) :
      Rule s (.accept t d) { s.gotoSock t .connected with
        connDesc := Function.update s.connDesc t d
        files := Function.update s.files d (some (.client t s.clients))
        stands := Function.update s.stands s.clients true
        accepted := Function.update s.accepted s.clients false
        clients := s.clients + 1 }
  | acceptFails {t : Nat} (hpc : s.sock t = .listening) :
      Rule s (.acceptFails t) (s.gotoSock t .exited)
  | checkSocketCred {t : Nat} {ret : Bool} (hpc : s.sock t = .connected) :
      Rule s (.checkSocketCred t ret)
        ((s.check t ret).gotoSock t (if ret then .publishing else .shuttingDown))
  | publish {t : Nat} (hpc : s.sock t = .publishing) :
      Rule s (.publish t) { s.gotoSock t .serving with userdata := some t }
  | stopServing {t : Nat} (hpc : s.sock t = .serving) :
      Rule s (.stopServing t) (s.gotoSock t .clearing)
  | clear {t : Nat} (hpc : s.sock t = .clearing) :
      Rule s (.clear t) { s.gotoSock t .shuttingDown with userdata := none }
  | shutdown {t : Nat} {stands : Nat → Bool} (hpc : s.sock t = .shuttingDown) :
      Rule s (.shutdown t) { s.gotoSock t .closing with stands := stands }
  | close {t : Nat} (hpc : s.sock t = .closing) :
      Rule s (.close t) { s.gotoSock t .resetting with
        files := Function.update s.files (s.connDesc t) none }
  | reset {t : Nat} (hpc : s.sock t = .resetting) :
      Rule s (.reset t) { s.gotoSock t .listening with
        connDesc := Function.update s.connDesc t 0 }
  | hangUp {c : Nat} : Rule s (.hangUp c) { s with stands := Function.update s.stands c false }
  | openOther {d : Int} (hfree : s.files d = none) :
      Rule s (.openOther d) { s with files := Function.update s.files d (some .other) }
  | closeOther {d : Int} (hother : s.files d = some .other) :
      Rule s (.closeOther d) { s with files := Function.update s.files d none }
  | test {r : Nat} (hpc : s.reader r = .idle) :
      Rule s (.test r) (s.gotoReader r (if s.userdata = none then .idle else .tested))
  | loadPointer {r : Nat} (hpc : s.reader r = .tested) :
      Rule s (.loadPointer r) (s.gotoReader r (s.userdata.elim .crashed .pointed))
  | loadDescriptor {r t : Nat} (hpc : s.reader r = .pointed t) :
      Rule s (.loadDescriptor r) (s.gotoReader r (.described t (s.connDesc t)))
  | sendFirst {r t : Nat} {d : Int} {result : SendResult} (hpc : s.reader r = .described t d) :
      Rule s (.send r result) (s.sendPart r d (.halfSent t d) result)
  | sendSecond {r t : Nat} {d : Int} {result : SendResult} (hpc : s.reader r = .halfSent t d) :
      Rule s (.send r result) (s.sendPart r d .idle result)

theorem rule_of_sockStep (h : s.sockStep a = some s') : Rule s a s' := by
  unfold Sys.sockStep at h
  split at h
  · split at h
    · cases h
      exact .create ‹_›
    · cases h
  · split at h
    · rename_i hguard
      cases h
      exact .accept hguard.1 hguard.2
    · cases h
  · split at h
    · cases h
      exact .acceptFails ‹_›
    · cases h
  · split at h
    · cases h
      exact .checkSocketCred ‹_›
    · cases h
  · split at h
    · cases h
      exact .publish ‹_›
    · cases h
  · split at h
    · cases h
      exact .stopServing ‹_›
    · cases h
  · split at h
    · cases h
      exact .clear ‹_›
    · cases h
  · split at h
    · split at h
      · cases h
        exact .shutdown ‹_›
      · cases h
        exact .shutdown ‹_›
    · cases h
  · split at h
    · cases h
      exact .close ‹_›
    · cases h
  · split at h
    · cases h
      exact .reset ‹_›
    · cases h
  · cases h

theorem rule_of_otherStep (h : s.otherStep a = some s') : Rule s a s' := by
  unfold Sys.otherStep at h
  split at h
  · cases h
    exact .hangUp
  · split at h
    · cases h
      exact .openOther ‹_›
    · cases h
  · split at h
    · cases h
      exact .closeOther ‹_›
    · cases h
  · cases h

theorem rule_of_readerStep (h : s.readerStep a = some s') : Rule s a s' := by
  unfold Sys.readerStep at h
  split at h
  · split at h
    · cases h
      exact .test ‹_›
    · cases h
  · split at h
    · cases h
      exact .loadPointer ‹_›
    · cases h
  · split at h
    · cases h
      exact .loadDescriptor ‹_›
    · cases h
  · split at h
    · cases h
      exact .sendFirst ‹_›
    · cases h
      exact .sendSecond ‹_›
    · cases h
  · cases h

theorem step_cases (h : s.step a = some s') : Rule s a s' := by
  unfold Sys.step at h
  cases hsock : s.sockStep a with
  | some t =>
    rw [hsock] at h
    cases h
    exact rule_of_sockStep hsock
  | none =>
    rw [hsock] at h
    cases hother : s.otherStep a with
    | some t =>
      rw [hother] at h
      cases h
      exact rule_of_otherStep hother
    | none =>
      rw [hother] at h
      exact rule_of_readerStep h

/-! ## Invariants -/

/-- The thread has a connection. -/
def SockPc.HasClient : SockPc → Prop
  | .connected | .publishing | .serving | .clearing | .shuttingDown | .closing => True
  | _ => False

/-- The pointer may be the thread's. -/
def SockPc.Published : SockPc → Prop
  | .serving | .clearing => True
  | _ => False

/-- The thread has a connection whose client it has accepted. -/
def Sys.Serves (s : Sys) (t : Nat) : Prop :=
  (s.sock t).HasClient ∧ s.sock t ≠ .connected ∧
    ∃ c, s.files (s.connDesc t) = some (.client t c) ∧ s.accepted c = true

/-- The structure that a reader is at work with. -/
def ReaderPc.Holds : ReaderPc → Nat → Prop
  | .pointed t, t' => t = t'
  | .described t _, t' => t = t'
  | .halfSent t _, t' => t = t'
  | _, _ => False

/-- The descriptor that it has read. -/
def ReaderPc.descriptor : ReaderPc → Option Int
  | .described _ d => some d
  | .halfSent _ d => some d
  | _ => none

/-- Bytes for a client that was accepted. -/
def Sent.ToAccepted (e : Sent) : Prop := e.accepted = true ∧ ∃ t c, e.file = .client t c

/-- The descriptors of the clients: each is that of the thread it names, and no client has two. -/
structure FilesInv (s : Sys) : Prop where
  clients : ∀ t, (s.sock t).HasClient → ∃ c, s.files (s.connDesc t) = some (.client t c)
  own : ∀ d t c, s.files d = some (.client t c) →
    c < s.clients ∧ (s.sock t).HasClient ∧ s.connDesc t = d
  unique : ∀ d d' t t' c, s.files d = some (.client t c) → s.files d' = some (.client t' c) →
    d = d'

/-- The threads that the pointer and the readers lead to serve a client they have accepted. -/
structure ServesInv (s : Sys) : Prop where
  publishing : ∀ t, s.sock t = .publishing → s.Serves t
  userdata : ∀ t, s.userdata = some t → (s.sock t).Published ∧ s.Serves t
  holds : ∀ r t, (s.reader r).Holds t → s.Serves t
  descriptor : ∀ r t d, (s.reader r).Holds t → (s.reader r).descriptor = some d →
    d = s.connDesc t
  sent : ∀ e ∈ s.sent, e.ToAccepted

/-! ## Descriptors -/

theorem hasClient_update {t : Nat} {pc : SockPc} (hsock : s'.sock = Function.update s.sock t pc)
    (h : pc.HasClient ↔ (s.sock t).HasClient) (t' : Nat) :
    (s'.sock t').HasClient ↔ (s.sock t').HasClient := by
  rw [hsock]
  by_cases ht : t' = t
  · rw [ht, Function.update_self]
    exact h
  · rw [Function.update_of_ne ht]

/-- A step that opens and closes nothing. -/
theorem FilesInv.frame (h : FilesInv s)
    (hsock : ∀ t, (s'.sock t).HasClient ↔ (s.sock t).HasClient)
    (hdesc : ∀ t, (s.sock t).HasClient → s'.connDesc t = s.connDesc t)
    (hfiles : s'.files = s.files) (hclients : s'.clients = s.clients) : FilesInv s' := by
  constructor
  · intro t ht
    rw [hsock] at ht
    rw [hfiles, hdesc t ht]
    exact h.clients t ht
  · intro d t c hfile
    rw [hfiles] at hfile
    obtain ⟨hlt, ht, hd⟩ := h.own d t c hfile
    rw [hclients, hsock, hdesc t ht]
    exact ⟨hlt, ht, hd⟩
  · rw [hfiles]
    exact h.unique

theorem FilesInv.accept {t : Nat} {d : Int} (h : FilesInv s) (hpc : ¬ (s.sock t).HasClient)
    (hfree : s.files d = none) (hsock : ∀ t', (s'.sock t').HasClient ↔ t' = t ∨ (s.sock t').HasClient)
    (hdesc : s'.connDesc = Function.update s.connDesc t d)
    (hfiles : s'.files = Function.update s.files d (some (.client t s.clients)))
    (hclients : s'.clients = s.clients + 1) : FilesInv s' := by
  -- the others keep their descriptors, which were in use
  have hother : ∀ d' t' c, s.files d' = some (.client t' c) → d' ≠ d ∧ t' ≠ t ∧ c ≠ s.clients := by
    intro d' t' c hfile
    obtain ⟨hlt, ht', -⟩ := h.own d' t' c hfile
    refine ⟨?_, ?_, Nat.ne_of_lt hlt⟩
    · rintro rfl
      rw [hfree] at hfile
      cases hfile
    · rintro rfl
      exact hpc ht'
  have hnew : ∀ d' t' c, s'.files d' = some (.client t' c) →
      (d' = d ∧ t' = t ∧ c = s.clients) ∨ s.files d' = some (.client t' c) := by
    intro d' t' c hfile
    by_cases hd : d' = d
    · rw [hfiles, hd, Function.update_self] at hfile
      cases hfile
      exact .inl ⟨hd, rfl, rfl⟩
    · rw [hfiles, Function.update_of_ne hd] at hfile
      exact .inr hfile
  constructor
  · intro t' ht'
    rcases (hsock t').mp ht' with rfl | ht'
    · refine ⟨s.clients, ?_⟩
      rw [hdesc, Function.update_self, hfiles, Function.update_self]
    · obtain ⟨c, hc⟩ := h.clients t' ht'
      obtain ⟨hd, hne, -⟩ := hother _ t' c hc
      refine ⟨c, ?_⟩
      rw [hdesc, Function.update_of_ne hne, hfiles, Function.update_of_ne hd]
      exact hc
  · intro d' t' c hfile
    rw [hclients, hsock, hdesc]
    rcases hnew d' t' c hfile with ⟨rfl, rfl, rfl⟩ | hfile
    · exact ⟨Nat.lt_succ_self _, .inl rfl, Function.update_self _ _ _⟩
    · obtain ⟨hlt, ht', hd⟩ := h.own d' t' c hfile
      obtain ⟨-, hne, -⟩ := hother d' t' c hfile
      exact ⟨Nat.lt_succ_of_lt hlt, .inr ht', by rw [Function.update_of_ne hne]; exact hd⟩
  · intro d1 d2 t1 t2 c h1 h2
    rcases hnew d1 t1 c h1 with ⟨rfl, -, hc1⟩ | h1
    · rcases hnew d2 t2 c h2 with ⟨rfl, -, -⟩ | h2
      · rfl
      · exact absurd hc1 (hother d2 t2 c h2).2.2
    · rcases hnew d2 t2 c h2 with ⟨rfl, -, hc2⟩ | h2
      · exact absurd hc2 (hother d1 t1 c h1).2.2
      · exact h.unique d1 d2 t1 t2 c h1 h2

/-- A step that changes one descriptor, which is of no client or of one that leaves. -/
theorem FilesInv.replace {d : Int} {f : Option File} (h : FilesInv s)
    (hf : ∀ t c, f ≠ some (.client t c))
    (hsock : ∀ t, (s'.sock t).HasClient ↔ (s.sock t).HasClient ∧ s.connDesc t ≠ d ∨
      (s.sock t).HasClient ∧ ∀ c, s.files d ≠ some (.client t c))
    (hdesc : s'.connDesc = s.connDesc) (hfiles : s'.files = Function.update s.files d f)
    (hclients : s'.clients = s.clients) : FilesInv s' := by
  have hold : ∀ d' t c, s'.files d' = some (.client t c) → d' ≠ d ∧ s.files d' = some (.client t c) := by
    intro d' t c hfile
    rw [hfiles] at hfile
    by_cases hd : d' = d
    · rw [hd, Function.update_self] at hfile
      exact (hf t c hfile).elim
    · rw [Function.update_of_ne hd] at hfile
      exact ⟨hd, hfile⟩
  constructor
  · intro t ht
    have hhad : (s.sock t).HasClient ∧ s.connDesc t ≠ d := by
      rcases (hsock t).mp ht with hne | ⟨ht, hnone⟩
      · exact hne
      · refine ⟨ht, ?_⟩
        rintro rfl
        obtain ⟨c, hc⟩ := h.clients t ht
        exact hnone c hc
    rw [hdesc, hfiles, Function.update_of_ne hhad.2]
    exact h.clients t hhad.1
  · intro d' t c hfile
    obtain ⟨hne, hfile⟩ := hold d' t c hfile
    obtain ⟨hlt, ht, hd⟩ := h.own d' t c hfile
    rw [hclients, hdesc, hsock]
    exact ⟨hlt, .inl ⟨ht, by rw [hd]; exact hne⟩, hd⟩
  · intro d1 d2 t1 t2 c h1 h2
    exact h.unique d1 d2 t1 t2 c (hold d1 t1 c h1).2 (hold d2 t2 c h2).2

theorem check_frame (s : Sys) (t : Nat) (ret : Bool) :
    s.check t ret = { s with accepted := (s.check t ret).accepted } := by
  unfold Sys.check
  split <;> rfl

theorem sendPart_frame (s : Sys) (r : Nat) (d : Int) (next : ReaderPc) (result : SendResult) :
    s.sendPart r d next result = { s with
      reader := (s.sendPart r d next result).reader
      sent := (s.sendPart r d next result).sent } := by
  unfold Sys.sendPart
  split <;> rfl

theorem FilesInv.step (h : FilesInv s) (hrule : Rule s a s') : FilesInv s' := by
  cases hrule with
  | @create t hpc =>
    have hnone : ¬ (s.sock t).HasClient := by simp [hpc, SockPc.HasClient]
    refine h.frame (hasClient_update rfl (iff_of_false not_false hnone)) ?_ rfl rfl
    intro t' ht'
    apply Function.update_of_ne
    rintro rfl
    exact hnone ht'
  | @reset t hpc =>
    have hnone : ¬ (s.sock t).HasClient := by simp [hpc, SockPc.HasClient]
    refine h.frame (hasClient_update rfl (iff_of_false not_false hnone)) ?_ rfl rfl
    intro t' ht'
    apply Function.update_of_ne
    rintro rfl
    exact hnone ht'
  | @accept t d hpc hfree =>
    refine h.accept (by simp [hpc, SockPc.HasClient]) hfree ?_ rfl rfl rfl
    intro t'
    by_cases ht : t' = t
    · subst ht
      simp [Sys.gotoSock, SockPc.HasClient]
    · simp [Sys.gotoSock, ht]
  | @checkSocketCred t ret hpc =>
    rw [check_frame]
    refine h.frame (hasClient_update rfl ?_) (fun _ _ => rfl) rfl rfl
    cases ret <;> simp [hpc, SockPc.HasClient]
  | @acceptFails t hpc | @publish t hpc | @stopServing t hpc | @clear t hpc | @shutdown t _ hpc =>
    refine h.frame (hasClient_update rfl ?_) (fun _ _ => rfl) rfl rfl
    simp [hpc, SockPc.HasClient]
  | @close t hpc =>
    obtain ⟨c, hc⟩ := h.clients t (by simp [hpc, SockPc.HasClient])
    refine h.replace (d := s.connDesc t) (f := none) (by simp) ?_ rfl rfl rfl
    intro t'
    by_cases ht : t' = t
    · subst ht
      simp [Sys.gotoSock, SockPc.HasClient, hc]
    · have hne : (s.sock t').HasClient → s.connDesc t' ≠ s.connDesc t := by
        intro ht' heq
        obtain ⟨c', hc'⟩ := h.clients t' ht'
        rw [heq, hc] at hc'
        cases hc'
        exact ht rfl
      simp only [Sys.gotoSock, Function.update_of_ne ht, hc]
      grind
  | @openOther d hfree =>
    refine h.replace (d := d) (f := some .other) (by simp) ?_ rfl rfl rfl
    intro t
    simp only [hfree]
    grind
  | @closeOther d hother =>
    refine h.replace (d := d) (f := none) (by simp) ?_ rfl rfl rfl
    intro t
    simp only [hother]
    grind
  | hangUp | test hpc | loadPointer hpc | loadDescriptor hpc =>
    exact h.frame (fun _ => Iff.rfl) (fun _ _ => rfl) rfl rfl
  | sendFirst hpc | sendSecond hpc =>
    rw [sendPart_frame]
    exact h.frame (fun _ => Iff.rfl) (fun _ _ => rfl) rfl rfl

/-! ## Readers -/

/-- No reader is at work with the structure of a thread that closes its connection. -/
def ClosesFree (s : Sys) (a : Action) : Prop :=
  ∀ t, a = .close t → ∀ r, ¬ (s.reader r).Holds t

/-- A step that leaves the connection of a thread alone. -/
theorem Sys.Serves.frame {t : Nat} (h : s.Serves t) (hpc : (s'.sock t).HasClient)
    (hne : s'.sock t ≠ .connected) (hdesc : s'.connDesc t = s.connDesc t)
    (hfile : s'.files (s.connDesc t) = s.files (s.connDesc t))
    (haccepted : ∀ c, s.files (s.connDesc t) = some (.client t c) → s'.accepted c = s.accepted c) :
    s'.Serves t := by
  obtain ⟨-, -, c, hc, hacc⟩ := h
  refine ⟨hpc, hne, c, ?_, ?_⟩
  · rw [hdesc, hfile, hc]
  · rw [haccepted c hc, hacc]

/-- A step of another thread. -/
theorem Sys.Serves.other {t t' : Nat} {pc : SockPc} (h : s.Serves t') (hne : t' ≠ t)
    (hsock : s'.sock = Function.update s.sock t pc) (hdesc : s'.connDesc t' = s.connDesc t')
    (hfile : s'.files (s.connDesc t') = s.files (s.connDesc t'))
    (haccepted : ∀ c, s.files (s.connDesc t') = some (.client t' c) →
      s'.accepted c = s.accepted c) : s'.Serves t' := by
  have hpc : s'.sock t' = s.sock t' := by rw [hsock, Function.update_of_ne hne]
  apply h.frame _ _ hdesc hfile haccepted
  · rw [hpc]
    exact h.1
  · rw [hpc]
    exact h.2.1

/-- A step of a thread: the others serve on, and so does the thread if a reader is at work with its
    structure. -/
theorem ServesInv.thread {t : Nat} {pc : SockPc} (h : ServesInv s) (hreader : s'.reader = s.reader)
    (hsent : s'.sent = s.sent) (hsock : s'.sock = Function.update s.sock t pc)
    (hother : ∀ t', t' ≠ t → s.Serves t' → s'.Serves t' ∧ s'.connDesc t' = s.connDesc t')
    (hself : ∀ r, (s.reader r).Holds t → s'.Serves t ∧ s'.connDesc t = s.connDesc t)
    (hpublishing : pc = .publishing → s'.Serves t)
    (huserdata : ∀ t', s'.userdata = some t' →
      (t' ≠ t ∧ s.userdata = some t') ∨ (t' = t ∧ pc.Published ∧ s'.Serves t)) :
    ServesInv s' := by
  have hkeep : ∀ r t', (s.reader r).Holds t' → s'.Serves t' ∧ s'.connDesc t' = s.connDesc t' := by
    intro r t' hholds
    by_cases ht : t' = t
    · subst ht
      exact hself r hholds
    · exact hother t' ht (h.holds r t' hholds)
  constructor
  · intro t' ht'
    by_cases ht : t' = t
    · subst ht
      rw [hsock, Function.update_self] at ht'
      exact hpublishing ht'
    · rw [hsock, Function.update_of_ne ht] at ht'
      exact (hother t' ht (h.publishing t' ht')).1
  · intro t' ht'
    rcases huserdata t' ht' with ⟨ht, ht'⟩ | ⟨rfl, hpub, hserves⟩
    · obtain ⟨hpub, hserves⟩ := h.userdata t' ht'
      rw [hsock, Function.update_of_ne ht]
      exact ⟨hpub, (hother t' ht hserves).1⟩
    · rw [hsock, Function.update_self]
      exact ⟨hpub, hserves⟩
  · intro r t' hholds
    rw [hreader] at hholds
    exact (hkeep r t' hholds).1
  · intro r t' d hholds hd
    rw [hreader] at hholds hd
    rw [(hkeep r t' hholds).2]
    exact h.descriptor r t' d hholds hd
  · rw [hsent]
    exact h.sent

/-- A step of a thread that has no client, or whose client it has not accepted. -/
theorem ServesInv.stranger {t : Nat} {pc : SockPc} (h : ServesInv s) (hreader : s'.reader = s.reader)
    (hsent : s'.sent = s.sent) (hsock : s'.sock = Function.update s.sock t pc)
    (huserdata : s'.userdata = s.userdata) (hserves : ¬ s.Serves t)
    (hother : ∀ t', t' ≠ t → s.Serves t' → s'.Serves t' ∧ s'.connDesc t' = s.connDesc t')
    (hpublishing : pc = .publishing → s'.Serves t) : ServesInv s' := by
  apply h.thread hreader hsent hsock hother _ hpublishing
  · intro t' ht'
    rw [huserdata] at ht'
    refine .inl ⟨?_, ht'⟩
    rintro rfl
    exact hserves (h.userdata t' ht').2
  · intro r hholds
    exact absurd (h.holds r t hholds) hserves

/-- A step of a thread that keeps its connection. -/
theorem ServesInv.moves {t : Nat} {pc : SockPc} (h : ServesInv s) (hreader : s'.reader = s.reader)
    (hsent : s'.sent = s.sent) (hsock : s'.sock = Function.update s.sock t pc)
    (hdesc : s'.connDesc = s.connDesc) (hfiles : s'.files = s.files)
    (haccepted : s'.accepted = s.accepted) (hpc : pc.HasClient) (hne : pc ≠ .connected)
    (hpublishing : pc ≠ .publishing)
    (huserdata : ∀ t', s'.userdata = some t' →
      (t' ≠ t ∧ s.userdata = some t') ∨ (t' = t ∧ pc.Published ∧ s.Serves t)) :
    ServesInv s' := by
  have hself : s.Serves t → s'.Serves t := by
    intro hserves
    apply hserves.frame _ _ (by rw [hdesc]) (by rw [hfiles]) (by rw [haccepted]; intros; rfl)
    · rw [hsock, Function.update_self]
      exact hpc
    · rw [hsock, Function.update_self]
      exact hne
  apply h.thread hreader hsent hsock _ _ (fun heq => absurd heq hpublishing)
  · intro t' ht'
    rcases huserdata t' ht' with hold | ⟨heq, hpub, hserves⟩
    · exact .inl hold
    · exact .inr ⟨heq, hpub, hself hserves⟩
  · intro t' ht hserves
    refine ⟨?_, by rw [hdesc]⟩
    exact hserves.other ht hsock (by rw [hdesc]) (by rw [hfiles]) (by rw [haccepted]; intros; rfl)
  · intro r hholds
    exact ⟨hself (h.holds r t hholds), by rw [hdesc]⟩

/-- A step of no thread, which leaves the files of the clients alone. -/
theorem ServesInv.outside (h : ServesInv s) (hreader : s'.reader = s.reader)
    (hsent : s'.sent = s.sent) (hsock : s'.sock = s.sock) (hdesc : s'.connDesc = s.connDesc)
    (huserdata : s'.userdata = s.userdata) (haccepted : s'.accepted = s.accepted)
    (hfiles : ∀ d t c, s.files d = some (.client t c) → s'.files d = s.files d) :
    ServesInv s' := by
  have hserves : ∀ t, s.Serves t → s'.Serves t := by
    rintro t ⟨hpc, hne, c, hc, hacc⟩
    refine ⟨by rw [hsock]; exact hpc, by rw [hsock]; exact hne, c, ?_, by rw [haccepted]; exact hacc⟩
    rw [hdesc, hfiles _ t c hc]
    exact hc
  constructor
  · intro t ht
    rw [hsock] at ht
    exact hserves t (h.publishing t ht)
  · intro t ht
    rw [huserdata] at ht
    rw [hsock]
    exact ⟨(h.userdata t ht).1, hserves t (h.userdata t ht).2⟩
  · intro r t hholds
    rw [hreader] at hholds
    exact hserves t (h.holds r t hholds)
  · rw [hreader, hdesc]
    exact h.descriptor
  · rw [hsent]
    exact h.sent

/-- A step of a reader. -/
theorem ServesInv.reader {r : Nat} {pc : ReaderPc} {sent : List Sent} (h : ServesInv s)
    (hholds : ∀ t, pc.Holds t → s.Serves t)
    (hdescriptor : ∀ t d, pc.Holds t → pc.descriptor = some d → d = s.connDesc t)
    (hsent : ∀ e ∈ sent, e.ToAccepted) : ServesInv { s.gotoReader r pc with sent := sent } := by
  constructor
  · exact h.publishing
  · exact h.userdata
  · intro r' t hr
    by_cases hr' : r' = r
    · subst hr'
      simp only [Sys.gotoReader, Function.update_self] at hr
      exact hholds t hr
    · simp only [Sys.gotoReader, Function.update_of_ne hr'] at hr
      exact h.holds r' t hr
  · intro r' t d hr hd
    by_cases hr' : r' = r
    · subst hr'
      simp only [Sys.gotoReader, Function.update_self] at hr hd
      exact hdescriptor t d hr hd
    · simp only [Sys.gotoReader, Function.update_of_ne hr'] at hr hd
      exact h.descriptor r' t d hr hd
  · exact hsent

/-- What the kernel takes for the descriptor of a thread that serves an accepted client. -/
theorem Sys.Serves.takes {t : Nat} {e : Sent} (h : s.Serves t)
    (he : s.takes (s.connDesc t) = some e) : e.ToAccepted := by
  obtain ⟨-, -, c, hc, hacc⟩ := h
  rw [Sys.takes, hc] at he
  dsimp only at he
  split at he
  · cases he
    exact ⟨hacc, t, c, rfl⟩
  · cases he

theorem ServesInv.sendPart {r t : Nat} {next : ReaderPc} {result : SendResult}
    (h : ServesInv s) (hserves : s.Serves t) (hholds : ∀ t', next.Holds t' → t = t')
    (hdescriptor : ∀ d', next.descriptor = some d' → d' = s.connDesc t) :
    ServesInv (s.sendPart r (s.connDesc t) next result) := by
  have hsent : ∀ e, s.takes (s.connDesc t) = some e → ∀ e' ∈ s.sent ++ [e], e'.ToAccepted := by
    intro e he e' he'
    rcases List.mem_append.mp he' with he' | he'
    · exact h.sent e' he'
    · rw [List.mem_singleton.mp he']
      exact hserves.takes he
  unfold Sys.sendPart
  split
  · rename_i e he
    apply h.reader _ _ (hsent e he)
    · intro t' ht'
      rw [← hholds t' ht']
      exact hserves
    · intro t' d' ht' hd'
      rw [← hholds t' ht']
      exact hdescriptor d' hd'
  · rename_i e he
    exact h.reader (by simp [ReaderPc.Holds]) (by simp [ReaderPc.Holds]) (hsent e he)
  · exact h.reader (by simp [ReaderPc.Holds]) (by simp [ReaderPc.Holds]) h.sent

/-- A step of a thread that has no client. -/
theorem ServesInv.unconnected {t : Nat} {pc : SockPc} (h : ServesInv s)
    (hnone : ¬ (s.sock t).HasClient) (hreader : s'.reader = s.reader) (hsent : s'.sent = s.sent)
    (hsock : s'.sock = Function.update s.sock t pc) (huserdata : s'.userdata = s.userdata)
    (hdesc : ∀ t', t' ≠ t → s'.connDesc t' = s.connDesc t')
    (hfile : ∀ t', s.Serves t' → s'.files (s.connDesc t') = s.files (s.connDesc t'))
    (haccepted : ∀ t' c, s.files (s.connDesc t') = some (.client t' c) →
      s'.accepted c = s.accepted c) (hpublishing : pc ≠ .publishing) : ServesInv s' := by
  refine h.stranger hreader hsent hsock huserdata (fun hserves => hnone hserves.1) ?_
    (fun heq => absurd heq hpublishing)
  intro t' ht hserves
  exact ⟨hserves.other ht hsock (hdesc t' ht) (hfile t' hserves) (haccepted t'), hdesc t' ht⟩

/-- The descriptor and the number of a new client are not in use. -/
theorem ServesInv.accept {t : Nat} {d : Int} (h : ServesInv s) (hfiles : FilesInv s)
    (hpc : s.sock t = .listening) (hfree : s.files d = none) :
    ServesInv { s.gotoSock t .connected with
      connDesc := Function.update s.connDesc t d
      files := Function.update s.files d (some (.client t s.clients))
      stands := Function.update s.stands s.clients true
      accepted := Function.update s.accepted s.clients false
      clients := s.clients + 1 } := by
  refine h.unconnected (t := t) (by simp [hpc, SockPc.HasClient]) rfl rfl rfl rfl
    (fun _ ht => Function.update_of_ne ht _ _) ?_ ?_ (by simp)
  · intro t' hserves
    apply Function.update_of_ne
    rintro rfl
    obtain ⟨-, -, c, hc, -⟩ := hserves
    rw [hfree] at hc
    cases hc
  · intro t' c hc
    exact Function.update_of_ne (Nat.ne_of_lt (hfiles.own _ _ _ hc).1) _ _

/-- Two threads do not share a descriptor. -/
theorem FilesInv.connDesc_ne {t t' : Nat} (h : FilesInv s) (hpc : (s.sock t).HasClient)
    (ht : t' ≠ t) (hserves : s.Serves t') : s.connDesc t' ≠ s.connDesc t := by
  intro hd
  obtain ⟨c, hc⟩ := h.clients t hpc
  obtain ⟨-, -, c', hc', -⟩ := hserves
  rw [hd, hc] at hc'
  cases hc'
  exact ht rfl

/-- The thread whose pointer is published is not one whose client is not served. -/
theorem ServesInv.userdata_ne {t t' : Nat} (h : ServesInv s) (hpc : ¬ (s.sock t).Published)
    (ht' : s.userdata = some t') : t' ≠ t := by
  rintro rfl
  exact hpc (h.userdata t' ht').1

theorem ServesInv.check {t : Nat} (h : ServesInv s) (hfiles : FilesInv s)
    (hpc : s.sock t = .connected) (ret : Bool) :
    ServesInv ((s.check t ret).gotoSock t (if ret then .publishing else .shuttingDown)) := by
  have hclient : (s.sock t).HasClient := by simp [hpc, SockPc.HasClient]
  obtain ⟨c, hc⟩ := hfiles.clients t hclient
  have hcheck : s.check t ret = { s with accepted := Function.update s.accepted c ret } := by
    rw [Sys.check, Sys.clientOf, hc]
  rw [hcheck]
  refine h.stranger rfl rfl rfl rfl (fun hserves => hserves.2.1 hpc) ?_ ?_
  · intro t' ht hserves
    refine ⟨hserves.other ht rfl rfl rfl ?_, rfl⟩
    intro c' hc'
    apply Function.update_of_ne
    rintro rfl
    exact hfiles.connDesc_ne hclient ht hserves (hfiles.unique _ _ _ _ _ hc' hc)
  · intro hret
    cases ret with
    | false => cases hret
    | true =>
      refine ⟨?_, ?_, c, hc, Function.update_self _ _ _⟩
      · simp [Sys.gotoSock, SockPc.HasClient]
      · simp [Sys.gotoSock]

theorem ServesInv.close {t : Nat} (h : ServesInv s) (hfiles : FilesInv s)
    (hpc : s.sock t = .closing) (hfree : ∀ r, ¬ (s.reader r).Holds t) :
    ServesInv { s.gotoSock t .resetting with
      files := Function.update s.files (s.connDesc t) none } := by
  refine h.thread rfl rfl rfl ?_ (fun r hholds => absurd hholds (hfree r)) (by simp) ?_
  · intro t' ht hserves
    have hne := hfiles.connDesc_ne (by simp [hpc, SockPc.HasClient]) ht hserves
    exact ⟨hserves.other ht rfl rfl (Function.update_of_ne hne _ _) (fun _ _ => rfl), rfl⟩
  · intro t' ht'
    exact .inl ⟨h.userdata_ne (by simp [hpc, SockPc.Published]) ht', ht'⟩

theorem ServesInv.loadPointer (h : ServesInv s) (r : Nat) :
    ServesInv (s.gotoReader r (s.userdata.elim .crashed .pointed)) := by
  cases hdata : s.userdata with
  | none => exact h.reader (fun _ ht => ht.elim) (fun _ _ ht => ht.elim) h.sent
  | some t =>
    refine h.reader ?_ ?_ h.sent
    · rintro t' rfl
      exact (h.userdata t hdata).2
    · intro t' d' _ hd
      cases hd

/-! ## One step, and a run -/

theorem ServesInv.step (hfiles : FilesInv s) (h : ServesInv s) (hrule : Rule s a s')
    (hcloses : ClosesFree s a) : ServesInv s' := by
  cases hrule with
  | @create t hpc | @reset t hpc =>
    exact h.unconnected (t := t) (by simp [hpc, SockPc.HasClient]) rfl rfl rfl rfl
      (fun _ ht => Function.update_of_ne ht _ _) (fun _ _ => rfl) (fun _ _ _ => rfl) (by simp)
  | @acceptFails t hpc =>
    exact h.unconnected (t := t) (by simp [hpc, SockPc.HasClient]) rfl rfl rfl rfl (fun _ _ => rfl)
      (fun _ _ => rfl) (fun _ _ _ => rfl) (by simp)
  | accept hpc hfree => exact h.accept hfiles hpc hfree
  | @checkSocketCred t ret hpc => exact h.check hfiles hpc ret
  | @publish t hpc =>
    refine h.moves rfl rfl rfl rfl rfl rfl trivial (by simp) (by simp) ?_
    intro t' ht'
    cases ht'
    exact .inr ⟨rfl, trivial, h.publishing t hpc⟩
  | @stopServing t hpc =>
    refine h.moves rfl rfl rfl rfl rfl rfl trivial (by simp) (by simp) ?_
    intro t' ht'
    by_cases ht : t' = t
    · subst ht
      exact .inr ⟨rfl, trivial, (h.userdata t' ht').2⟩
    · exact .inl ⟨ht, ht'⟩
  | @clear t hpc =>
    refine h.moves rfl rfl rfl rfl rfl rfl trivial (by simp) (by simp) ?_
    intro t' ht'
    cases ht'
  | @shutdown t stands hpc =>
    refine h.moves rfl rfl rfl rfl rfl rfl trivial (by simp) (by simp) ?_
    intro t' ht'
    exact .inl ⟨h.userdata_ne (by simp [hpc, SockPc.Published]) ht', ht'⟩
  | @close t hpc => exact h.close hfiles hpc (hcloses t rfl)
  | hangUp => exact h.outside rfl rfl rfl rfl rfl rfl (fun _ _ _ _ => rfl)
  | @openOther d hfree =>
    refine h.outside rfl rfl rfl rfl rfl rfl ?_
    intro d' t c hc
    apply Function.update_of_ne
    rintro rfl
    rw [hfree] at hc
    cases hc
  | @closeOther d hother =>
    refine h.outside rfl rfl rfl rfl rfl rfl ?_
    intro d' t c hc
    apply Function.update_of_ne
    rintro rfl
    rw [hother] at hc
    cases hc
  | @test r hpc =>
    refine h.reader ?_ ?_ h.sent
    · intro t ht
      split at ht <;> exact ht.elim
    · intro t d ht
      split at ht <;> exact ht.elim
  | @loadPointer r hpc => exact h.loadPointer r
  | @loadDescriptor r t hpc =>
    refine h.reader ?_ ?_ h.sent
    · rintro t' rfl
      exact h.holds r t (by rw [hpc]; rfl)
    · rintro t' d' rfl hd
      cases hd
      rfl
  | @sendFirst r t d result hpc =>
    have hholds : (s.reader r).Holds t := by rw [hpc]; rfl
    have hd := h.descriptor r t d hholds (by rw [hpc]; rfl)
    subst hd
    refine h.sendPart (h.holds r t hholds) (fun _ ht => ht) ?_
    intro d' hd'
    cases hd'
    rfl
  | @sendSecond r t d result hpc =>
    have hholds : (s.reader r).Holds t := by rw [hpc]; rfl
    have hd := h.descriptor r t d hholds (by rw [hpc]; rfl)
    subst hd
    exact h.sendPart (h.holds r t hholds) (fun _ ht => ht.elim) (by simp [ReaderPc.descriptor])

theorem FilesInv.initial (h : s.Initial) : FilesInv s := by
  constructor
  · intro t ht
    rw [h.sock] at ht
    exact ht.elim
  · intro d t c hc
    exact absurd hc (h.files d t c)
  · intro d d' t t' c hc
    exact absurd hc (h.files d t c)

theorem ServesInv.initial (h : s.Initial) : ServesInv s := by
  constructor
  · intro t ht
    rw [h.sock] at ht
    cases ht
  · intro t ht
    rw [h.userdata] at ht
    cases ht
  · intro r t hr
    rw [h.reader] at hr
    exact hr.elim
  · intro r t d hr
    rw [h.reader] at hr
    exact hr.elim
  · simp [h.sent]

/-- As long as threads close no connection that a reader is at work with, every byte of an unsolicited
    line goes to a client that is connected and that `checkSocketCred` has accepted. -/
theorem sent_to_accepted {s0 : Sys} {as : List Action} (h0 : s0.Initial)
    (hcloses : RunMeets Sys.step ClosesFree s0 as) (hrun : runSteps Sys.step s0 as = some s) :
    ∀ e ∈ s.sent, e.ToAccepted := by
  have hinv : FilesInv s ∧ ServesInv s := by
    apply runSteps_invariant_of_meets (fun s => FilesInv s ∧ ServesInv s) _ hcloses _ hrun
    · intro s a s' hfree h hstep
      have hrule := step_cases hstep
      exact ⟨h.1.step hrule, ServesInv.step h.1 h.2 hrule hfree⟩
    · exact ⟨.initial h0, .initial h0⟩
  exact hinv.2.sent

/-- No thread and no descriptor yet. -/
def Sys.start : Sys where
  sock := fun _ => .unborn
  connDesc := fun _ => 0
  userdata := none
  reader := fun _ => .idle
  files := fun _ => none
  stands := fun _ => false
  accepted := fun _ => false
  clients := 0
  sent := []

theorem start_initial : Sys.start.Initial := by
  constructor <;> simp [Sys.start]

/-- A client hangs up while the second part of a line is sent. -/
theorem sent_to_accepted_hangUp :
    ∃ s, runSteps Sys.step Sys.start
        [.create 0, .accept 0 5, .checkSocketCred 0 true, .publish 0, .test 7, .loadPointer 7,
          .loadDescriptor 7, .send 7 .all, .hangUp 0, .stopServing 0, .send 7 .failed, .clear 0,
          .shutdown 0] = some s ∧
      s.sent = [⟨.client 0 0, true⟩] ∧ ∀ e ∈ s.sent, e.ToAccepted := by
  have hrun : (runSteps Sys.step Sys.start
      [.create 0, .accept 0 5, .checkSocketCred 0 true, .publish 0, .test 7, .loadPointer 7,
        .loadDescriptor 7, .send 7 .all, .hangUp 0, .stopServing 0, .send 7 .failed, .clear 0,
        .shutdown 0]).map Sys.sent = some [⟨.client 0 0, true⟩] := rfl
  obtain ⟨s, hrun, hsent⟩ := Option.map_eq_some_iff.mp hrun
  refine ⟨s, hrun, hsent, sent_to_accepted start_initial ?_ hrun⟩
  apply RunMeets.of_forall
  intro a ha s t hclose
  simp [hclose] at ha

/-- A reader has taken the descriptor of its client. The thread closes it and accepts another client,
    who gets the same descriptor, and the line. -/
theorem sent_to_unaccepted :
    ¬ ∀ (s0 s : Sys) (as : List Action), s0.Initial → runSteps Sys.step s0 as = some s →
      ∀ e ∈ s.sent, e.ToAccepted := by
  intro hall
  have hrun : (runSteps Sys.step Sys.start
      [.create 0, .accept 0 5, .checkSocketCred 0 true, .publish 0, .test 7, .loadPointer 7,
        .loadDescriptor 7, .hangUp 0, .stopServing 0, .clear 0, .shutdown 0, .close 0, .reset 0,
        .accept 0 5, .send 7 .all]).map Sys.sent = some [⟨.client 0 1, false⟩] := rfl
  obtain ⟨s, hrun, hsent⟩ := Option.map_eq_some_iff.mp hrun
  have he := hall _ s _ start_initial hrun ⟨.client 0 1, false⟩ (by rw [hsent]; simp)
  cases he.1

end AndroidPatch.Ril.Altair.AtSocketThreads
