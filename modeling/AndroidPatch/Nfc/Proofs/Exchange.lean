import AndroidPatch.Misc.Run
import AndroidPatch.Nfc.Exchange

/-!
# Chained responses are put together

While an exchange goes on, `resp_q` holds its own fragments and nothing else. When no allocation and
no submit fails between the fragments, the exchange ends with one call of its callback, which also
leaves the queue empty for the next.
-/

namespace AndroidPatch.Nfc

/-! ## What an exchange should come to -/

/-- One call of the callback: with the payloads of the fragments, in order, or with an error; and
    nothing of another exchange came before the first fragment. -/
structure Exchange.Right (x : Exchange) : Prop where
  callback : x.callbacks = [(some x.fragments.flatten, 0)] ∨ ∃ rc < 0, x.callbacks = [(none, rc)]
  before : x.before = []

/-- The exchange that is in progress. -/
def Stage.exchange : Stage → List Exchange
  | .idle => []
  | .inFlight x => [x]
  | .chunk x => [x]

/-- Every exchange that was accepted is at its end, in progress or in the queue, in this order, and
    those at their end are right. -/
def EachAnswered (s : ExchangeState) : Prop :=
  s.finished.map Exchange.id ++ s.stage.exchange.map Exchange.id ++ s.cmdQueue = List.range s.accepted ∧
    ∀ x ∈ s.finished, x.Right

/-- The last fragment of several. -/
def LastOfSeveral (respQ : List Bytes) : Answer → Prop
  | .error _ => False
  | .response status _ => status &&& cmdRetMask = 0 ∧ status &&& cmdMiMask = 0 ∧ respQ ≠ []

/-- Nothing fails in `pn533_wq_mi_recv`, nor the allocation for the whole response. -/
def ExchangeMeets (s : ExchangeState) : ExchangeEvent → Prop
  | .complete answer allocated => LastOfSeveral s.respQ answer → allocated = true
  | .wqMiRecv r => r = .sent
  | _ => True

instance (respQ : List Bytes) : DecidablePred (LastOfSeveral respQ) := fun answer =>
  match answer with
  | .error _ => inferInstanceAs (Decidable False)
  | .response _ _ => inferInstanceAs (Decidable (_ ∧ _ ∧ _))

instance (s : ExchangeState) : DecidablePred (ExchangeMeets s) := fun e =>
  match e with
  | .transceive _ _ _ => inferInstanceAs (Decidable True)
  | .complete answer allocated =>
      inferInstanceAs (Decidable (LastOfSeveral s.respQ answer → allocated = true))
  | .wqMiRecv r => inferInstanceAs (Decidable (r = .sent))
  | .wqCmd => inferInstanceAs (Decidable True)

/-! ## Building the response -/

/-- The fragments so far are in the queue, and nothing else; the callback has not been called. -/
structure Collecting (respQ : List Bytes) (x : Exchange) : Prop where
  respQ : respQ = x.fragments
  before : x.before = []
  callbacks : x.callbacks = []

theorem Collecting.start (id : Nat) : Collecting [] (.start id) := ⟨rfl, rfl, rfl⟩

/-- A fragment of the exchange goes to the end of both. -/
theorem Collecting.fragment {respQ : List Bytes} {x : Exchange} (h : Collecting respQ x)
    (payload : Bytes) : Collecting (respQ ++ [payload]) (x.fragment respQ payload) where
  respQ := by rw [h.respQ]; rfl
  before := by
    show (if x.fragments = [] then respQ else x.before) = []
    split
    · rw [h.respQ]
      assumption
    · exact h.before
  callbacks := h.callbacks

/-- The last fragment completes the response. -/
theorem buildResponse_append {respQ : List Bytes} {payload : Bytes} {allocated : Bool}
    (h : respQ ≠ [] → allocated = true) :
    buildResponse (respQ ++ [payload]) allocated = some (respQ ++ [payload]).flatten := by
  cases respQ with
  | nil => simp [buildResponse]
  | cons first rest =>
    rw [h (by simp)]
    cases rest <;> rfl

/-- After a response the exchange goes on with one more fragment, or it is right. -/
theorem dataExchangeComplete_spec {respQ : List Bytes} {x : Exchange} {answer : Answer}
    {allocated : Bool} (h : Collecting respQ x)
    (hmeets : LastOfSeveral respQ answer → allocated = true) :
    match dataExchangeComplete respQ x answer allocated with
    | (respQ', .inProgress x') => Collecting respQ' x' ∧ x'.id = x.id
    | (respQ', .done x') => respQ' = [] ∧ x'.Right ∧ x'.id = x.id := by
  cases answer with
  | error rc =>
    refine ⟨rfl, ⟨.inr ⟨rc, rc.property, ?_⟩, h.before⟩, rfl⟩
    simp [Exchange.callback, h.callbacks]
  | response status payload =>
    unfold dataExchangeComplete
    dsimp only
    split
    · rename_i respQ' x' hresult
      split at hresult
      · cases hresult
      · split at hresult
        · cases hresult
          exact ⟨h.fragment payload, rfl⟩
        · split at hresult <;> cases hresult
    · rename_i respQ' x' hresult
      split at hresult
      · cases hresult
        refine ⟨rfl, ⟨.inr ⟨eio, eio.property, ?_⟩, h.before⟩, rfl⟩
        simp [Exchange.callback, h.callbacks]
      · rename_i hstatus
        split at hresult
        · cases hresult
        · rename_i hlast
          rw [buildResponse_append fun hseveral =>
            hmeets ⟨not_not.mp hstatus, not_not.mp hlast, hseveral⟩] at hresult
          cases hresult
          have hcollecting := h.fragment payload
          refine ⟨rfl, ⟨.inl ?_, hcollecting.before⟩, rfl⟩
          rw [hcollecting.respQ]
          simp [Exchange.callback, hcollecting.callbacks]

/-! ## The invariant -/

structure ExchangeInv (s : ExchangeState) : Prop where
  answered : EachAnswered s
  idle : s.stage = .idle → s.respQ = []
  collecting : ∀ x ∈ s.stage.exchange, Collecting s.respQ x
  pending : s.cmdPending = false → s.stage = .idle ∧ s.cmdQueue = [] ∧ s.cmdWork = false
  work : s.cmdWork = true → s.stage = .idle

theorem ExchangeInv.init (tgtActiveProt : Nat) : ExchangeInv (.init tgtActiveProt) where
  answered := ⟨rfl, fun x hx => (by cases hx)⟩
  idle _ := rfl
  collecting x hx := by cases hx
  pending _ := ⟨rfl, rfl, rfl⟩
  work h := by cases h

theorem ExchangeInv.transceive {s : ExchangeState} (h : ExchangeInv s) (len : Nat) (allocated : Bool)
    (sendRc : Int) : ExchangeInv (s.transceive len allocated sendRc) := by
  obtain ⟨hids, hright⟩ := h.answered
  unfold ExchangeState.transceive
  split
  · exact h
  · split
    · rename_i hpending
      refine ⟨⟨?_, hright⟩, h.idle, h.collecting, fun hnone => ?_, h.work⟩
      · rw [List.range_succ, ← hids, List.append_assoc _ s.cmdQueue]
      · rw [hpending] at hnone
        cases hnone
    · rename_i hpending
      obtain ⟨hidle, hqueue, hwork⟩ := h.pending (by simpa using hpending)
      refine ⟨⟨?_, hright⟩, fun hstage => (by cases hstage), ?_, fun hnone => (by cases hnone), ?_⟩
      · rw [List.range_succ, ← hids, hidle, hqueue]
        simp [Stage.exchange, Exchange.start]
      · intro x hx
        rw [List.mem_singleton.mp hx]
        show Collecting s.respQ _
        rw [h.idle hidle]
        exact Collecting.start _
      · intro hqueued
        rw [hwork] at hqueued
        cases hqueued

/-- An exchange that is right comes to its end, and leaves the queue empty. -/
theorem ExchangeInv.finish {s : ExchangeState} {x x' : Exchange} (h : ExchangeInv s)
    (hstage : s.stage = .inFlight x) (hright : x'.Right) (hid : x'.id = x.id) :
    ExchangeInv (ExchangeState.finish { s with respQ := [] } x') := by
  obtain ⟨hids, hall⟩ := h.answered
  rw [hstage] at hids
  refine ⟨⟨?_, ?_⟩, fun _ => rfl, fun x hx => (by cases hx), fun hnone => ?_, fun _ => rfl⟩
  · show (s.finished ++ [x']).map Exchange.id ++ [] ++ s.cmdQueue = List.range s.accepted
    rw [← hids]
    simp [Stage.exchange, hid]
  · exact List.forall_mem_append.mpr ⟨hall, List.forall_mem_singleton.mpr hright⟩
  · have hidle := (h.pending hnone).1
    rw [hstage] at hidle
    cases hidle

/-- The exchange goes on. -/
theorem ExchangeInv.goOn {s : ExchangeState} {x x' : Exchange} {respQ : List Bytes} {stage : Stage}
    (h : ExchangeInv s) (hx : s.stage.exchange = [x]) (hstage : stage.exchange = [x'])
    (hid : x'.id = x.id) (hcollecting : Collecting respQ x') :
    ExchangeInv { s with respQ := respQ, stage := stage } := by
  have hbusy : s.stage ≠ .idle := fun hidle => by simp [hidle, Stage.exchange] at hx
  obtain ⟨hids, hall⟩ := h.answered
  rw [hx] at hids
  refine ⟨⟨?_, hall⟩, fun hidle => ?_, ?_, fun hnone => absurd (h.pending hnone).1 hbusy,
    fun hwork => absurd (h.work hwork) hbusy⟩
  · show _ ++ stage.exchange.map Exchange.id ++ _ = _
    rw [hstage, ← hids, List.map_singleton, List.map_singleton, hid]
  · have hidle : stage = .idle := hidle
    simp [hidle, Stage.exchange] at hstage
  · show ∀ x ∈ stage.exchange, _
    rw [hstage, List.forall_mem_singleton]
    exact hcollecting

theorem ExchangeInv.step {s s' : ExchangeState} {e : ExchangeEvent} (h : ExchangeInv s)
    (hmeets : ExchangeMeets s e) (hstep : exchangeStep s e = some s') : ExchangeInv s' := by
  cases e with
  | transceive len allocated sendRc =>
    cases hstep
    exact h.transceive len allocated sendRc
  | complete answer allocated =>
    unfold exchangeStep at hstep
    dsimp only at hstep
    split at hstep
    · rename_i x hstage
      have hx : s.stage.exchange = [x] := by rw [hstage]; rfl
      have hspec := dataExchangeComplete_spec (h.collecting x (by simp [hx])) hmeets
      revert hspec hstep
      rcases dataExchangeComplete s.respQ x answer allocated with ⟨respQ, x' | x'⟩
      · rintro hstep ⟨hcollecting, hid⟩
        cases hstep
        exact h.goOn hx rfl hid hcollecting
      · rintro hstep ⟨rfl, hright, hid⟩
        cases hstep
        exact h.finish hstage hright hid
    · cases hstep
  | wqMiRecv r =>
    have hsent : r = .sent := hmeets
    subst hsent
    unfold exchangeStep at hstep
    dsimp only at hstep
    split at hstep
    · rename_i x hstage
      cases hstep
      have hx : s.stage.exchange = [x] := by rw [hstage]; rfl
      exact h.goOn hx rfl rfl (h.collecting x (by simp [hx]))
    · cases hstep
  | wqCmd =>
    unfold exchangeStep at hstep
    dsimp only at hstep
    split at hstep
    · rename_i hwork
      have hidle := h.work hwork
      obtain ⟨hids, hall⟩ := h.answered
      split at hstep
      · rename_i hqueue
        cases hstep
        exact ⟨h.answered, h.idle, h.collecting, fun _ => ⟨hidle, hqueue, rfl⟩, fun hnone => (by cases hnone)⟩
      · rename_i id rest hqueue
        cases hstep
        refine ⟨⟨?_, hall⟩, fun hstage => (by cases hstage), ?_, fun hnone => ?_, fun hnone => (by cases hnone)⟩
        · rw [← hids, hidle, hqueue]
          simp [Stage.exchange, Exchange.start]
        · intro x hx
          rw [List.mem_singleton.mp hx]
          show Collecting s.respQ _
          rw [h.idle hidle]
          exact Collecting.start id
        · have hempty := (h.pending hnone).2.1
          rw [hqueue] at hempty
          cases hempty
    · cases hstep

/-- In every run in which nothing fails between the fragments, each exchange ends with one call of
    its callback, with its own payloads or an error. -/
theorem exchanges_answered {tgtActiveProt : Nat} {es : List ExchangeEvent} {s : ExchangeState}
    (hmeets : RunMeets exchangeStep ExchangeMeets (.init tgtActiveProt) es)
    (hrun : runSteps exchangeStep (.init tgtActiveProt) es = some s) : EachAnswered s :=
  (runSteps_invariant_of_meets ExchangeInv (fun _ _ _ hmeets h hstep => h.step hmeets hstep) hmeets
    (ExchangeInv.init tgtActiveProt) hrun).answered

/-- An exchange with two fragments. -/
def twoFragments : List ExchangeEvent :=
  [.transceive 3 true 0, .complete (.response 0x40 [1, 2]) true, .wqMiRecv .sent,
    .complete (.response 0 [3]) true, .wqCmd]

theorem exchanges_answered_two :
    ∃ s, runSteps exchangeStep (.init 5) twoFragments = some s ∧
      s.finished = [⟨0, [[1, 2], [3]], [], [(some [1, 2, 3], 0)]⟩] ∧ EachAnswered s := by
  have hmeets : RunMeets exchangeStep ExchangeMeets (.init 5) twoFragments := by decide
  exact ⟨_, rfl, rfl, exchanges_answered hmeets rfl⟩

/-- There is no memory to ask for the second fragment, and a second exchange follows. -/
def noSkbThenNext : List ExchangeEvent :=
  [.transceive 3 true 0, .complete (.response 0x40 [1, 2]) true, .wqMiRecv .noSkb,
    .transceive 3 true 0, .wqCmd, .complete (.response 0 [9]) true]

/-- The first exchange gets no answer, and the second gets its fragment. -/
theorem leftover_prefixed :
    ∃ s, runSteps exchangeStep (.init 5) noSkbThenNext = some s ∧
      s.finished = [⟨0, [[1, 2]], [], []⟩, ⟨1, [[9]], [[1, 2]], [(some [1, 2, 9], 0)]⟩] ∧
      ¬ EachAnswered s := by
  refine ⟨_, rfl, rfl, fun h => ?_⟩
  have hright := h.2 _ List.mem_cons_self
  rcases hright.callback with hsome | ⟨rc, -, hnone⟩
  · cases hsome
  · cases hnone

end AndroidPatch.Nfc
