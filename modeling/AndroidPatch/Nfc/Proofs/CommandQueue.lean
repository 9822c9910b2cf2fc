import Mathlib.Data.List.Perm.Subperm
import AndroidPatch.Misc.Run
import AndroidPatch.Nfc.CommandQueue

/-!
# One command at a time, in order

The callers, the URBs and the work items hand one token to each other: a state of the device is one
of twelve phases, each of which says who goes on and with which command. When no submit of
`pn533_wq_cmd` fails and no URB completes before its command is in `dev->cmd`, the phases follow one
another and no command is lost.
-/

namespace AndroidPatch.Nfc

/-! ## What the queue promises -/

/-- Nothing is in flight and no work item is queued or running. -/
def CmdState.Quiet (s : CmdState) : Prop := s.inFlight = [] ∧ s.works = [] ∧ s.running = .idle

structure CommandsAnswered (s : CmdState) : Prop where
  noOops : s.oops = false
  oneInFlight : s.inFlight.length ≤ 1
  /-- a call is accepted once -/
  nodup : s.accepted.Nodup
  sentInOrder : s.sent <+: s.accepted
  /-- in order too, and each once -/
  calledInOrder : s.called.map Prod.fst <+: s.sent
  quiet : s.Quiet → s.cmdPending = false ∧ s.cmdQueue = [] ∧ s.called.map Prod.fst = s.accepted

/-- No submit of `pn533_wq_cmd` fails, and `in_urb` does not complete between its submit and the store
    to `dev->cmd`. -/
def CmdMeets (s : CmdState) : CmdEvent → Prop
  | .urb _ _ _ =>
      (∀ id, s.holder ≠ .assignNext id) ∧ ∀ c, s.running ≠ .assignNext c
  | .workStep ok =>
      match s.running with
      | .outNext (.async _) => ok = true
      | .inNext (.async _) => ok = true
      | _ => True
  | _ => True

/-- The holder is about to assign a response. -/
def Section.assigns : Section → Bool
  | .assignNext _ => true
  | _ => false

def Running.assigns : Running → Bool
  | .assignNext _ => true
  | _ => false

instance (holder : Section) : Decidable (∀ id, holder ≠ .assignNext id) :=
  if h : holder.assigns then .isFalse fun hne => by
    cases holder with
    | assignNext id => exact hne id rfl
    | _ => cases h
  else .isTrue fun id heq => h (heq ▸ rfl)

instance (running : Running) : Decidable (∀ c, running ≠ .assignNext c) :=
  if h : running.assigns then .isFalse fun hne => by
    cases running with
    | assignNext c => exact hne c rfl
    | _ => cases h
  else .isTrue fun c heq => h (heq ▸ rfl)

instance (s : CmdState) : DecidablePred (CmdMeets s) := fun e => by
  unfold CmdMeets
  split
  · infer_instance
  · split <;> infer_instance
  · infer_instance

/-! ## The phases -/

inductive Phase where
  | free
  | outNext (id : Nat)
  | inNext (id : Nat)
  | assignNext (id : Nat)
  | inFlight (c : Command)
  | answered (c : Command)
  | completing (c : Command) (inProgress : Bool)
  | cmdWork
  | miWork
  | workOutNext (c : Command)
  | workInNext (c : Command)
  | workAssignNext (c : Command)

/-- The part of the state that a phase fixes. -/
structure Shape where
  cmdPending : Bool
  cmd : Option Command
  inUrb : Option Command
  works : List Work
  running : Running
  inFlight : List Command
  holder : Section

def CmdState.shape (s : CmdState) : Shape :=
  ⟨s.cmdPending, s.cmd.map Prod.fst, s.inUrb.map Prod.snd, s.works, s.running, s.inFlight, s.holder⟩

def Phase.shape : Phase → Shape
  | .free => ⟨false, none, none, [], .idle, [], .free⟩
  | .outNext id => ⟨false, none, none, [], .idle, [], .outNext id⟩
  | .inNext id => ⟨false, none, none, [], .idle, [.async id], .inNext id⟩
  | .assignNext id => ⟨false, none, some (.async id), [], .idle, [.async id], .assignNext id⟩
  | .inFlight c => ⟨true, some c, some c, [], .idle, [c], .free⟩
  | .answered c => ⟨true, some c, none, [.cmdComplete], .idle, [], .free⟩
  | .completing c inProgress =>
      ⟨true, some c, none, if inProgress then [.mi] else [], .completing inProgress, [], .free⟩
  | .cmdWork => ⟨true, none, none, [.cmd], .idle, [], .free⟩
  | .miWork => ⟨true, none, none, [.mi], .idle, [], .free⟩
  | .workOutNext c => ⟨true, none, none, [], .outNext c, [], .free⟩
  | .workInNext c => ⟨true, none, none, [], .inNext c, [c], .free⟩
  | .workAssignNext c => ⟨true, none, some c, [], .assignNext c, [c], .free⟩

theorem shape_eq_iff {s : CmdState} {pending : Bool} {cmd inUrb : Option Command} {works : List Work}
    {running : Running} {inFlight : List Command} {holder : Section} :
    s.shape = ⟨pending, cmd, inUrb, works, running, inFlight, holder⟩ ↔
      s.cmdPending = pending ∧ s.cmd.map Prod.fst = cmd ∧ s.inUrb.map Prod.snd = inUrb ∧
        s.works = works ∧ s.running = running ∧ s.inFlight = inFlight ∧ s.holder = holder :=
  Shape.mk.injEq .. ▸ Iff.rfl

/-- The call that is sending its command, before it is known to succeed. -/
def Phase.entering : Phase → List Nat
  | .outNext id => [id]
  | .inNext id => [id]
  | _ => []

/-- The command that has left the queue and has not been sent. -/
def Phase.next : Phase → List Nat
  | .workOutNext c => c.asyncId
  | .workInNext c => c.asyncId
  | _ => []

/-- The command that has been sent and whose callback has not been called. -/
def Phase.unanswered : Phase → List Nat
  | .assignNext id => [id]
  | .inFlight c => c.asyncId
  | .answered c => c.asyncId
  | .workAssignNext c => c.asyncId
  | _ => []

structure CmdInv (p : Phase) (s : CmdState) : Prop where
  shape : s.shape = p.shape
  noOops : s.oops = false
  sent : s.sent = s.called.map Prod.fst ++ p.unanswered
  accepted : s.accepted = s.sent ++ p.next ++ s.cmdQueue
  queue : s.cmdPending = false → s.cmdQueue = []
  nodup : (s.waiting ++ p.entering ++ s.accepted).Nodup
  calls : ∀ id ∈ s.waiting ++ p.entering ++ s.accepted, id < s.calls

theorem CmdInv.init (protocolType : ProtocolType) : CmdInv .free (.init protocolType) where
  shape := rfl
  noOops := rfl
  sent := rfl
  accepted := rfl
  queue _ := rfl
  nodup := List.nodup_nil
  calls id hid := by cases hid

/-- What the phases promise. -/
theorem CmdInv.answered {p : Phase} {s : CmdState} (h : CmdInv p s) : CommandsAnswered s where
  noOops := h.noOops
  oneInFlight := by
    have hflight : s.inFlight = p.shape.inFlight := congrArg Shape.inFlight h.shape
    rw [hflight]
    cases p <;> simp [Phase.shape]
  nodup := h.nodup.sublist (List.sublist_append_right _ _)
  sentInOrder := by
    rw [h.accepted, List.append_assoc]
    exact List.prefix_append _ _
  calledInOrder := by
    rw [h.sent]
    exact List.prefix_append _ _
  quiet := by
    rintro ⟨hflight, hworks, hrunning⟩
    have hpending : s.cmdPending = p.shape.cmdPending := congrArg Shape.cmdPending h.shape
    have hflight' : s.inFlight = p.shape.inFlight := congrArg Shape.inFlight h.shape
    have hworks' : s.works = p.shape.works := congrArg Shape.works h.shape
    have hrunning' : s.running = p.shape.running := congrArg Shape.running h.shape
    rw [hflight] at hflight'
    rw [hworks] at hworks'
    rw [hrunning] at hrunning'
    have hsent := h.sent
    have haccepted := h.accepted
    -- only the phases without a pending command are quiet
    have hfree : p = .free ∨ ∃ id, p = .outNext id := by
      revert hflight' hworks' hrunning'
      cases p <;> simp [Phase.shape]
    have hnone : s.cmdPending = false ∧ p.unanswered = [] ∧ p.next = [] := by
      rw [hpending]
      rcases hfree with rfl | ⟨id, rfl⟩ <;> exact ⟨rfl, rfl, rfl⟩
    obtain ⟨hfalse, hunanswered, hnext⟩ := hnone
    refine ⟨hfalse, h.queue hfalse, ?_⟩
    rw [haccepted, hsent, hunanswered, hnext, h.queue hfalse]
    simp

/-! ## The calls -/

/-- The ids are those of before, in another order or fewer. -/
theorem CmdInv.of_ids {p p' : Phase} {s s' : CmdState} (h : CmdInv p s) (hshape : s'.shape = p'.shape)
    (hoops : s'.oops = false) (hsent : s'.sent = s'.called.map Prod.fst ++ p'.unanswered)
    (haccepted : s'.accepted = s'.sent ++ p'.next ++ s'.cmdQueue)
    (hqueue : s'.cmdPending = false → s'.cmdQueue = [])
    (hids : (s'.waiting ++ p'.entering ++ s'.accepted).Subperm
      (s.waiting ++ p.entering ++ s.accepted)) (hcalls : s'.calls = s.calls) : CmdInv p' s' where
  shape := hshape
  noOops := hoops
  sent := hsent
  accepted := haccepted
  queue := hqueue
  nodup := by
    obtain ⟨l, hperm, hsub⟩ := hids
    exact hperm.nodup_iff.mp (h.nodup.sublist hsub)
  calls id hid := by
    rw [hcalls]
    exact h.calls id (hids.subset hid)

theorem CmdInv.call {p : Phase} {s : CmdState} (h : CmdInv p s) :
    CmdInv p { s with calls := s.calls + 1, waiting := s.waiting ++ [s.calls] } where
  shape := h.shape
  noOops := h.noOops
  sent := h.sent
  accepted := h.accepted
  queue := h.queue
  nodup := by
    have hnew : s.calls ∉ s.waiting ++ p.entering ++ s.accepted :=
      fun hmem => Nat.lt_irrefl _ (h.calls _ hmem)
    have hperm : (s.waiting ++ [s.calls] ++ p.entering ++ s.accepted).Perm
        (s.calls :: (s.waiting ++ p.entering ++ s.accepted)) := by
      simp only [List.append_assoc]
      exact List.perm_middle
    exact hperm.nodup_iff.mpr (List.nodup_cons.mpr ⟨hnew, h.nodup⟩)
  calls id hid := by
    simp only [List.mem_append, List.mem_singleton] at hid
    have hold := h.calls id
    simp only [List.mem_append] at hold
    show id < s.calls + 1
    rcases hid with ((hwaiting | rfl) | hentering) | haccepted
    · exact Nat.lt_succ_of_lt (hold (.inl (.inl hwaiting)))
    · exact Nat.lt_succ_self _
    · exact Nat.lt_succ_of_lt (hold (.inl (.inr hentering)))
    · exact Nat.lt_succ_of_lt (hold (.inr haccepted))

theorem CmdInv.lockStep {p : Phase} {s s' : CmdState} {id : Nat} (h : CmdInv p s)
    (hstep : s.lockStep id = some s') : ∃ p', CmdInv p' s' := by
  unfold CmdState.lockStep at hstep
  split at hstep
  · rename_i hlock
    obtain ⟨hmem, hholder⟩ := hlock
    have hperm : s.waiting.Perm (id :: s.waiting.erase id) := List.perm_cons_erase hmem
    have hholder' : s.holder = p.shape.holder := congrArg Shape.holder h.shape
    rw [hholder] at hholder'
    dsimp only at hstep
    split at hstep
    · rename_i hpending
      cases hstep
      -- the command goes to the end of the queue
      have hentering : p.entering = [] := by
        revert hholder'
        cases p <;> simp [Phase.shape, Phase.entering]
      refine ⟨p, h.of_ids h.shape h.noOops h.sent ?_ (fun hnone => ?_) ?_ rfl⟩
      · show s.accepted ++ [id] = s.sent ++ p.next ++ (s.cmdQueue ++ [id])
        rw [h.accepted]
        simp
      · rw [hpending] at hnone
        cases hnone
      · show (s.waiting.erase id ++ p.entering ++ (s.accepted ++ [id])).Subperm _
        rw [hentering, List.append_nil, List.append_nil, ← List.append_assoc]
        refine (List.Perm.trans ?_ (hperm.symm.append_right s.accepted)).subperm
        exact List.perm_append_singleton id _
    · rename_i hpending
      cases hstep
      have hfree : p = .free := by
        have hpending' : s.cmdPending = p.shape.cmdPending := congrArg Shape.cmdPending h.shape
        rw [Bool.not_eq_true] at hpending
        rw [hpending] at hpending'
        revert hholder' hpending'
        cases p <;> simp [Phase.shape]
      subst hfree
      refine ⟨.outNext id, h.of_ids ?_ h.noOops h.sent h.accepted h.queue ?_ rfl⟩
      · obtain ⟨hpending, hcmd, hurb, hworks, hrunning, hflight, -⟩ := shape_eq_iff.mp h.shape
        exact shape_eq_iff.mpr ⟨hpending, hcmd, hurb, hworks, hrunning, hflight, rfl⟩
      · show (s.waiting.erase id ++ [id] ++ s.accepted).Subperm (s.waiting ++ [] ++ s.accepted)
        rw [List.append_nil]
        refine (List.Perm.append_right s.accepted ?_).subperm
        exact (List.perm_append_singleton id _).trans hperm.symm
  · cases hstep

/-- A call that is refused leaves the others as they are. -/
theorem subperm_refused (waiting entering accepted : List Nat) :
    (waiting ++ [] ++ accepted).Subperm (waiting ++ entering ++ accepted) := by
  rw [List.append_nil]
  exact ((List.sublist_append_left waiting entering).append_right accepted).subperm

theorem submitIn_eq {s : CmdState} (c : Command) (hurb : s.inUrb.map Prod.snd = none) :
    s.submitIn c =
      some { s with inUrb := some (s.protocolType.completion, c), sent := s.sent ++ c.asyncId } := by
  rw [Option.map_eq_none_iff] at hurb
  rw [CmdState.submitIn, hurb]

/-- While the lock is held, who holds it tells the phase. -/
theorem phase_of_holder {p : Phase} {id : Nat} :
    (p.shape.holder = .outNext id → p = .outNext id) ∧ (p.shape.holder = .inNext id → p = .inNext id) ∧
      (p.shape.holder = .assignNext id → p = .assignNext id) := by
  refine ⟨?_, ?_, ?_⟩ <;> cases p <;> simp [Phase.shape, eq_comm]

/-- While a work item runs, what it does next tells the phase. -/
theorem phase_of_running {p : Phase} {c : Command} :
    (p.shape.running = .outNext c → p = .workOutNext c) ∧ (p.shape.running = .inNext c → p = .workInNext c) ∧
      (p.shape.running = .assignNext c → p = .workAssignNext c) := by
  refine ⟨?_, ?_, ?_⟩ <;> cases p <;> simp [Phase.shape, eq_comm]

theorem CmdInv.holderStep {p : Phase} {s s' : CmdState} {ok : Bool} (h : CmdInv p s)
    (hstep : s.holderStep ok = some s') : ∃ p', CmdInv p' s' := by
  have hholder' : s.holder = p.shape.holder := congrArg Shape.holder h.shape
  unfold CmdState.holderStep at hstep
  cases hholder : s.holder with
  | free =>
    rw [hholder] at hstep
    cases hstep
  | outNext id =>
    have hp : p = .outNext id := phase_of_holder.1 (hholder'.symm.trans hholder)
    subst hp
    obtain ⟨hpending, hcmd, hurb, hworks, hrunning, hflight, -⟩ := shape_eq_iff.mp h.shape
    rw [hholder] at hstep
    dsimp only at hstep
    split at hstep
    · cases hstep
      refine ⟨.inNext id, h.of_ids ?_ h.noOops h.sent h.accepted h.queue (.refl _) rfl⟩
      refine shape_eq_iff.mpr ⟨hpending, hcmd, hurb, hworks, hrunning, ?_, rfl⟩
      simp [CmdState.submitOut, hflight]
    · cases hstep
      refine ⟨.free, h.of_ids ?_ h.noOops h.sent h.accepted h.queue ?_ rfl⟩
      · exact shape_eq_iff.mpr ⟨hpending, hcmd, hurb, hworks, hrunning, hflight, rfl⟩
      · exact subperm_refused _ _ _
  | inNext id =>
    have hp : p = .inNext id := phase_of_holder.2.1 (hholder'.symm.trans hholder)
    subst hp
    obtain ⟨hpending, hcmd, hurb, hworks, hrunning, hflight, -⟩ := shape_eq_iff.mp h.shape
    rw [hholder] at hstep
    dsimp only at hstep
    split at hstep
    · rw [submitIn_eq (.async id) hurb] at hstep
      cases hstep
      have hsent : s.sent = s.called.map Prod.fst := h.sent.trans (List.append_nil _)
      refine ⟨.assignNext id, h.of_ids ?_ h.noOops ?_ ?_ h.queue ?_ rfl⟩
      · exact shape_eq_iff.mpr ⟨hpending, hcmd, rfl, hworks, hrunning, hflight, rfl⟩
      · show s.sent ++ [id] = s.called.map Prod.fst ++ [id]
        rw [hsent]
      · show s.accepted ++ [id] = s.sent ++ [id] ++ [] ++ s.cmdQueue
        rw [h.accepted, h.queue hpending]
        simp [Phase.next]
      · show (s.waiting ++ [] ++ (s.accepted ++ [id])).Subperm (s.waiting ++ [id] ++ s.accepted)
        rw [List.append_nil, List.append_assoc s.waiting [id]]
        exact ((List.perm_append_singleton id s.accepted).append_left _).subperm
    · cases hstep
      refine ⟨.free, h.of_ids ?_ h.noOops h.sent h.accepted h.queue ?_ rfl⟩
      · refine shape_eq_iff.mpr ⟨hpending, hcmd, hurb, hworks, hrunning, ?_, rfl⟩
        simp [CmdState.unlinkOut, hflight]
      · exact subperm_refused _ _ _
  | assignNext id =>
    have hp : p = .assignNext id := phase_of_holder.2.2 (hholder'.symm.trans hholder)
    subst hp
    obtain ⟨hpending, -, hurb, hworks, hrunning, hflight, -⟩ := shape_eq_iff.mp h.shape
    rw [hholder] at hstep
    cases hstep
    refine ⟨.inFlight (.async id), h.of_ids ?_ h.noOops h.sent h.accepted ?_ (.refl _) rfl⟩
    · exact shape_eq_iff.mpr ⟨rfl, rfl, hurb, hworks, hrunning, hflight, rfl⟩
    · exact fun hnone => by cases hnone

/-! ## The URB -/

/-- The command is answered with a status, and its completion is queued. -/
theorem CmdInv.schedWq {c : Command} {s : CmdState} (h : CmdInv (.inFlight c) s) (status : Int) :
    CmdInv (.answered c) (s.schedWq c c status) := by
  obtain ⟨hpending, -, -, hworks, hrunning, hflight, hholder⟩ := shape_eq_iff.mp h.shape
  have hqueued : s.schedWq c c status =
      { s with
        cmd := some (c, status)
        inUrb := none
        inFlight := s.inFlight.erase c
        works := s.works ++ [.cmdComplete] } := by
    rw [CmdState.schedWq, CmdState.queueWork, if_neg]
    simp [hworks]
  rw [hqueued]
  refine h.of_ids ?_ h.noOops h.sent h.accepted h.queue (.refl _) rfl
  refine shape_eq_iff.mpr ⟨hpending, rfl, rfl, ?_, hrunning, ?_, hholder⟩
  · simp [hworks]
  · simp [hflight]

theorem CmdInv.urbStep {p : Phase} {s s' : CmdState} {status resubmitRc : Int} {frameOk : Bool}
    (h : CmdInv p s) (hmeets : CmdMeets s (.urb status frameOk resubmitRc))
    (hstep : s.urbStep status frameOk resubmitRc = some s') : ∃ p', CmdInv p' s' := by
  unfold CmdState.urbStep at hstep
  split at hstep
  · cases hstep
  · rename_i completion owner hurb
    have hurb' : s.inUrb.map Prod.snd = p.shape.inUrb := congrArg Shape.inUrb h.shape
    have hholder : s.holder = p.shape.holder := congrArg Shape.holder h.shape
    have hrunning : s.running = p.shape.running := congrArg Shape.running h.shape
    rw [hurb] at hurb'
    -- the command of the URB is in `dev->cmd` by now
    have hp : p = .inFlight owner := by
      have hassign := hmeets.1
      have hwork := hmeets.2
      rw [hholder] at hassign
      rw [hrunning] at hwork
      revert hurb' hassign hwork
      cases p <;> simp [Phase.shape, eq_comm]
    subst hp
    obtain ⟨hpending, hcmd, -, hworks, hrunning, hflight, hholder⟩ := shape_eq_iff.mp h.shape
    obtain ⟨⟨c, old⟩, hdevice, hc⟩ := Option.map_eq_some_iff.mp hcmd
    have hc : c = owner := hc
    subst hc
    rw [hdevice] at hstep
    dsimp only at hstep
    split at hstep
    · cases hstep
      exact ⟨_, h.schedWq status⟩
    · split at hstep
      · cases hstep
        exact ⟨_, h.schedWq frameError⟩
      · cases completion with
        | recvResponse =>
          cases hstep
          exact ⟨_, h.schedWq 0⟩
        | recvAck =>
          dsimp only at hstep
          split at hstep
          · cases hstep
            exact ⟨_, h.schedWq resubmitRc⟩
          · cases hstep
            refine ⟨.inFlight c, h.of_ids ?_ h.noOops h.sent h.accepted h.queue (.refl _) rfl⟩
            exact shape_eq_iff.mpr ⟨hpending, rfl, rfl, hworks, hrunning, hflight, hholder⟩

/-! ## The work items -/

/-- Where no work item is queued or running, one may be. -/
theorem queueWork_eq {s : CmdState} (w : Work) (hworks : s.works = []) :
    s.queueWork w = { s with works := [w] } := by
  rw [CmdState.queueWork, if_neg (by simp [hworks]), hworks]
  rfl

theorem CmdInv.completed {c : Command} {s : CmdState} {status : Int} (h : CmdInv (.answered c) s)
    (hcmd : s.cmd = some (c, status)) (inProgress : Bool) :
    CmdInv (.completing c inProgress) { s with
      works := if inProgress then [.mi] else []
      running := .completing inProgress
      called := s.called ++ c.asyncId.map fun id => (id, status) } := by
  obtain ⟨hpending, -, hurb, -, -, hflight, hholder⟩ := shape_eq_iff.mp h.shape
  refine h.of_ids ?_ h.noOops ?_ h.accepted h.queue (.refl _) rfl
  · exact shape_eq_iff.mpr ⟨hpending, by rw [hcmd]; rfl, hurb, rfl, rfl, hflight, hholder⟩
  · have hids : (c.asyncId.map fun id => (id, status)).map Prod.fst = c.asyncId := by
      rw [List.map_map]
      exact List.map_id _
    show s.sent = (s.called ++ _).map Prod.fst ++ []
    rw [h.sent, List.map_append, hids, List.append_nil]
    rfl

theorem CmdInv.workStart {p : Phase} {s s' : CmdState} {inProgress allocated : Bool} (h : CmdInv p s)
    (hstep : s.workStart inProgress allocated = some s') : ∃ p', CmdInv p' s' := by
  have hworks' : s.works = p.shape.works := congrArg Shape.works h.shape
  have hrunning' : s.running = p.shape.running := congrArg Shape.running h.shape
  unfold CmdState.workStart at hstep
  split at hstep
  · rename_i rest hrunning hworks
    have hp : (∃ c, p = .answered c) ∧ rest = [] := by
      rw [hworks] at hworks'
      rw [hrunning] at hrunning'
      revert hworks' hrunning'
      cases p <;> simp [Phase.shape]
    obtain ⟨⟨c, rfl⟩, rfl⟩ := hp
    obtain ⟨-, hcmd, -⟩ := shape_eq_iff.mp h.shape
    obtain ⟨⟨c', status⟩, hdevice, hc⟩ := Option.map_eq_some_iff.mp hcmd
    have hc : c' = c := hc
    subst hc
    rw [hdevice] at hstep
    dsimp only at hstep
    cases hstep
    refine ⟨.completing c' inProgress, ?_⟩
    have hcompleted := h.completed hdevice inProgress
    rw [hdevice] at hcompleted
    cases inProgress with
    | true =>
      rw [if_pos rfl, queueWork_eq _ rfl]
      exact hcompleted
    | false =>
      rw [if_neg (by decide)] at hcompleted ⊢
      exact hcompleted
  · rename_i rest hrunning hworks
    have hp : p = .cmdWork ∧ rest = [] := by
      rw [hworks] at hworks'
      rw [hrunning] at hrunning'
      revert hworks' hrunning'
      cases p <;> simp [Phase.shape]
    obtain ⟨rfl, rfl⟩ := hp
    obtain ⟨hpending, hcmd, hurb, -, -, hflight, hholder⟩ := shape_eq_iff.mp h.shape
    rw [if_neg (not_not.mpr hholder)] at hstep
    split at hstep
    · rename_i hqueue
      cases hstep
      refine ⟨.free, h.of_ids ?_ h.noOops h.sent h.accepted (fun _ => hqueue) (.refl _) rfl⟩
      exact shape_eq_iff.mpr ⟨rfl, hcmd, hurb, rfl, hrunning, hflight, hholder⟩
    · rename_i id queue hqueue
      cases hstep
      refine ⟨.workOutNext (.async id), h.of_ids ?_ h.noOops h.sent ?_ (fun hnone => ?_) (.refl _) rfl⟩
      · exact shape_eq_iff.mpr ⟨hpending, hcmd, hurb, rfl, rfl, hflight, hholder⟩
      · show s.accepted = s.sent ++ [id] ++ queue
        rw [h.accepted, hqueue]
        simp [Phase.next]
      · rw [hpending] at hnone
        cases hnone
  · rename_i rest hrunning hworks
    have hp : p = .miWork ∧ rest = [] := by
      rw [hworks] at hworks'
      rw [hrunning] at hrunning'
      revert hworks' hrunning'
      cases p <;> simp [Phase.shape]
    obtain ⟨rfl, rfl⟩ := hp
    obtain ⟨hpending, hcmd, hurb, -, -, hflight, hholder⟩ := shape_eq_iff.mp h.shape
    split at hstep
    · cases hstep
      refine ⟨.workOutNext .direct, h.of_ids ?_ h.noOops h.sent h.accepted h.queue (.refl _) rfl⟩
      exact shape_eq_iff.mpr ⟨hpending, hcmd, hurb, rfl, rfl, hflight, hholder⟩
    · rw [queueWork_eq _ rfl] at hstep
      cases hstep
      refine ⟨.cmdWork, h.of_ids ?_ h.noOops h.sent h.accepted h.queue (.refl _) rfl⟩
      exact shape_eq_iff.mpr ⟨hpending, hcmd, hurb, rfl, hrunning, hflight, hholder⟩
  · cases hstep

/-- A direct command that fails hands on to the queue. -/
theorem CmdInv.directFailed {p : Phase} {s : CmdState} (h : CmdInv p s) (hpending : s.cmdPending = true)
    (hcmd : s.cmd = none) (hurb : s.inUrb = none) (hworks : s.works = []) (hflight : s.inFlight = [])
    (hholder : s.holder = .free) (hunanswered : p.unanswered = []) (hnext : p.next = [])
    (hentering : p.entering = []) : CmdInv .cmdWork (s.sendFailed .direct) := by
  have hfailed : s.sendFailed .direct = { s with running := .idle, works := [.cmd] } :=
    queueWork_eq _ hworks
  rw [hfailed]
  refine h.of_ids ?_ h.noOops ?_ ?_ h.queue ?_ rfl
  · refine shape_eq_iff.mpr ⟨hpending, ?_, ?_, rfl, rfl, hflight, hholder⟩
    · rw [hcmd]
      rfl
    · rw [hurb]
      rfl
  · rw [h.sent, hunanswered]
    rfl
  · rw [h.accepted, hnext]
    rfl
  · rw [hentering]
    exact .refl _

theorem CmdInv.workGoesOn {p : Phase} {s s' : CmdState} {ok : Bool} (h : CmdInv p s)
    (hmeets : CmdMeets s (.workStep ok)) (hstep : s.workGoesOn ok = some s') :
    ∃ p', CmdInv p' s' := by
  have hrunning' : s.running = p.shape.running := congrArg Shape.running h.shape
  unfold CmdMeets at hmeets
  unfold CmdState.workGoesOn at hstep
  cases hrunning : s.running with
  | idle =>
    rw [hrunning] at hstep
    cases hstep
  | completing inProgress =>
    have hp : ∃ c, p = .completing c inProgress := by
      rw [hrunning] at hrunning'
      revert hrunning'
      cases p <;> simp [Phase.shape, eq_comm]
    obtain ⟨c, rfl⟩ := hp
    obtain ⟨hpending, -, hurb, hworks, -, hflight, hholder⟩ := shape_eq_iff.mp h.shape
    rw [hrunning] at hstep
    cases hstep
    cases inProgress with
    | true =>
      refine ⟨.miWork, h.of_ids ?_ h.noOops h.sent h.accepted h.queue (.refl _) rfl⟩
      exact shape_eq_iff.mpr ⟨hpending, rfl, hurb, hworks, rfl, hflight, hholder⟩
    | false =>
      rw [if_neg (by decide), queueWork_eq (s := { s with cmd := none, running := .idle }) .cmd hworks]
      refine ⟨.cmdWork, h.of_ids ?_ h.noOops h.sent h.accepted h.queue (.refl _) rfl⟩
      exact shape_eq_iff.mpr ⟨hpending, rfl, hurb, rfl, rfl, hflight, hholder⟩
  | outNext c =>
    have hp : p = .workOutNext c := phase_of_running.1 (hrunning'.symm.trans hrunning)
    subst hp
    obtain ⟨hpending, hcmd, hurb, hworks, -, hflight, hholder⟩ := shape_eq_iff.mp h.shape
    rw [hrunning] at hstep hmeets
    dsimp only at hstep
    split at hstep
    · cases hstep
      refine ⟨.workInNext c, h.of_ids ?_ h.noOops h.sent h.accepted h.queue (.refl _) rfl⟩
      refine shape_eq_iff.mpr ⟨hpending, hcmd, hurb, hworks, rfl, ?_, hholder⟩
      simp [CmdState.submitOut, hflight]
    · rename_i hfailed
      cases c with
      | async id => exact absurd hmeets hfailed
      | direct =>
        cases hstep
        refine ⟨.cmdWork, h.directFailed hpending ?_ ?_ hworks hflight hholder rfl rfl rfl⟩
        · exact Option.map_eq_none_iff.mp hcmd
        · exact Option.map_eq_none_iff.mp hurb
  | inNext c =>
    have hp : p = .workInNext c := phase_of_running.2.1 (hrunning'.symm.trans hrunning)
    subst hp
    obtain ⟨hpending, hcmd, hurb, hworks, -, hflight, hholder⟩ := shape_eq_iff.mp h.shape
    rw [hrunning] at hstep hmeets
    dsimp only at hstep
    split at hstep
    · rw [submitIn_eq c hurb] at hstep
      cases hstep
      refine ⟨.workAssignNext c, h.of_ids ?_ h.noOops ?_ ?_ h.queue (.refl _) rfl⟩
      · exact shape_eq_iff.mpr ⟨hpending, hcmd, rfl, hworks, rfl, hflight, hholder⟩
      · show s.sent ++ c.asyncId = s.called.map Prod.fst ++ c.asyncId
        rw [h.sent]
        simp [Phase.unanswered]
      · show s.accepted = s.sent ++ c.asyncId ++ [] ++ s.cmdQueue
        rw [h.accepted, List.append_nil]
        rfl
    · rename_i hfailed
      cases c with
      | async id => exact absurd hmeets hfailed
      | direct =>
        cases hstep
        -- the frame has been withdrawn
        have hwithdrawn : CmdInv (.workOutNext .direct)
            { s.unlinkOut .direct with running := .outNext .direct } := by
          refine h.of_ids ?_ h.noOops h.sent h.accepted h.queue (.refl _) rfl
          refine shape_eq_iff.mpr ⟨hpending, hcmd, hurb, hworks, rfl, ?_, hholder⟩
          simp [CmdState.unlinkOut, hflight]
        refine ⟨.cmdWork, hwithdrawn.directFailed hpending ?_ ?_ hworks ?_ hholder rfl rfl rfl⟩
        · exact Option.map_eq_none_iff.mp hcmd
        · exact Option.map_eq_none_iff.mp hurb
        · simp [CmdState.unlinkOut, hflight]
  | assignNext c =>
    have hp : p = .workAssignNext c := phase_of_running.2.2 (hrunning'.symm.trans hrunning)
    subst hp
    obtain ⟨hpending, -, hurb, hworks, -, hflight, hholder⟩ := shape_eq_iff.mp h.shape
    rw [hrunning] at hstep
    cases hstep
    refine ⟨.inFlight c, h.of_ids ?_ h.noOops h.sent h.accepted h.queue (.refl _) rfl⟩
    exact shape_eq_iff.mpr ⟨hpending, rfl, hurb, hworks, rfl, hflight, hholder⟩

/-! ## Runs -/

theorem CmdInv.step {p : Phase} {s s' : CmdState} {e : CmdEvent} (h : CmdInv p s)
    (hmeets : CmdMeets s e) (hstep : cmdStep s e = some s') : ∃ p', CmdInv p' s' := by
  unfold cmdStep at hstep
  rw [if_neg (by simp [h.noOops])] at hstep
  cases e with
  | call =>
    cases hstep
    exact ⟨p, h.call⟩
  | lock id => exact h.lockStep hstep
  | holder ok => exact h.holderStep hstep
  | urb status frameOk resubmitRc => exact h.urbStep hmeets hstep
  | work inProgress allocated => exact h.workStart hstep
  | workStep ok => exact h.workGoesOn hmeets hstep

/-- In every run in which no submit of `pn533_wq_cmd` fails and no URB overtakes the store to
    `dev->cmd`, the commands are sent one at a time and in order, and each is answered once. -/
theorem commands_answered {protocolType : ProtocolType} {es : List CmdEvent} {s : CmdState}
    (hmeets : RunMeets cmdStep CmdMeets (.init protocolType) es)
    (hrun : runSteps cmdStep (.init protocolType) es = some s) : CommandsAnswered s := by
  have hinv : ∃ p, CmdInv p s := by
    refine runSteps_invariant_of_meets (fun s => ∃ p, CmdInv p s) ?_ hmeets ?_ hrun
    · rintro s e s' hmeets ⟨p, h⟩ hstep
      exact h.step hmeets hstep
    · exact ⟨.free, CmdInv.init protocolType⟩
  obtain ⟨p, h⟩ := hinv
  exact h.answered

/-- Two calls; the first command is sent, acknowledged and answered, and the second is next. -/
def secondNext : List CmdEvent :=
  [.call, .call, .lock 0, .holder true, .holder true, .holder true, .lock 1, .urb 0 true 0,
    .urb 0 true 0, .work false true, .workStep true, .work false true]

/-- The second command is answered too. -/
def bothAnswered : List CmdEvent :=
  secondNext ++ [.workStep true, .workStep true, .workStep true, .urb 0 true 0, .urb 0 true 0,
    .work false true, .workStep true, .work false true]

theorem commands_answered_both :
    ∃ s, runSteps cmdStep (.init .reqAckResp) bothAnswered = some s ∧
      s.called = [(0, 0), (1, 0)] ∧ CommandsAnswered s := by
  have hmeets : RunMeets cmdStep CmdMeets (.init .reqAckResp) bothAnswered := by decide
  exact ⟨_, rfl, rfl, commands_answered hmeets rfl⟩

/-- The submit for the second command fails: it is never answered, and the queue stays closed. -/
theorem second_lost :
    ∃ s, runSteps cmdStep (.init .reqAckResp) (secondNext ++ [.workStep false]) = some s ∧
      s.accepted = [0, 1] ∧ s.called = [(0, 0)] ∧ s.Quiet ∧ s.cmdPending = true ∧
      ¬ CommandsAnswered s := by
  refine ⟨_, rfl, rfl, rfl, ⟨rfl, rfl, rfl⟩, rfl, fun h => ?_⟩
  have hquiet := h.quiet ⟨rfl, rfl, rfl⟩
  cases hquiet.1

end AndroidPatch.Nfc
