import AndroidPatch.Ril.Reference.Proofs.OnRequest

/-!
# How often a request is completed

Every request is completed once, but for an acknowledgement of an SMS with 0 or 1, which runs on
into its error label, and for a signal strength that the modem does not answer with success, which
is completed before the `goto error` as well.
-/

namespace AndroidPatch.Ril.Reference

open AtChannel
open Altair (Reply Token)

variable {t : Token} {data : Data} {env : Env}

/-! ## The acknowledgement -/

theorem exec_intData {i : Nat} {v : Int} (h : data.intAt env i = some v) (w : World Store Event) :
    (intData data i).exec env w = (.ok v, w) := by
  unfold intData
  rw [Traced.exec_bind, Traced.exec_read]
  dsimp only
  rw [h]
  rfl

theorem exec_intData_none {i : Nat} (h : data.intAt env i = none) (w : World Store Event) :
    (intData data i).exec env w = (.error .nullData, w) := by
  unfold intData
  rw [Traced.exec_bind, Traced.exec_read]
  dsimp only
  rw [h]
  rfl

/-- An argument that is known is sent, and the request completed with success and with failure. -/
theorem exec_requestSmsAcknowledge_known {v : Int} (h : data.intAt env 0 = some v)
    (hv : v = 0 ∨ v = 1) (w : World Store Event) :
    ∃ c reply s, (requestSmsAcknowledge t data).exec env w =
      (.ok (), ⟨s, w.trace ++ [.at c reply] ++ [.complete t .success .null] ++
        [.complete t .genericFailure .null]⟩) := by
  unfold requestSmsAcknowledge
  rw [Traced.exec_bind, exec_intData h]
  rcases hv with rfl | rfl
  · exact ⟨_, _, _, rfl⟩
  · exact ⟨_, _, _, rfl⟩

theorem exec_requestSmsAcknowledge_unknown {v : Int} (h : data.intAt env 0 = some v)
    (hzero : v ≠ 0) (hone : v ≠ 1) (w : World Store Event) :
    (requestSmsAcknowledge t data).exec env w =
      (.ok (), ⟨w.store, w.trace ++ [.complete t .genericFailure .null]⟩) := by
  unfold requestSmsAcknowledge acknowledge
  rw [Traced.exec_bind, exec_intData h]
  dsimp only
  rw [if_neg hone, if_neg hzero]
  rfl

/-! ## The signal strength -/

/-- The number of the question `AT+CSQ`: those before it repeat what has failed before. -/
def csqTick (env : Env) (s : Store) : Nat :=
  let creg := if s.unsolicitedCregFailed then (if failed (env.replies s.tick) then 2 else 1) else 0
  let cgreg := if s.unsolicitedCgregFailed then 1 else 0
  s.tick + creg + cgreg

/-- The reply to `AT+CSQ`. -/
def csqReply (env : Env) (s : Store) : Reply :=
  (env.replies (csqTick env s)).check (.singleline "+CSQ:")

theorem exec_enableCreg (env : Env) (w : World Store Event) :
    ∃ l, enableCreg.exec env w = (.ok (), l) ∧
      l.store.tick = w.store.tick + if failed (env.replies w.store.tick) then 2 else 1 := by
  unfold enableCreg
  rw [Traced.exec_bind, atSendCommand, exec_atSend]
  dsimp only
  have hcheck : (env.replies w.store.tick).check .command = env.replies w.store.tick := rfl
  rw [hcheck]
  cases failed (env.replies w.store.tick) with
  | true => exact ⟨_, rfl, rfl⟩
  | false => exact ⟨_, rfl, rfl⟩

theorem exec_enableCgreg (env : Env) (w : World Store Event) :
    ∃ w', enableCgreg.exec env w = (.ok (), w') ∧ w'.store.tick = w.store.tick + 1 :=
  ⟨_, rfl, rfl⟩

theorem exec_askSignalStrength (env : Env) (w : World Store Event) :
    ∃ w', askSignalStrength.exec env w = (.ok (csqReply env w.store), w') := by
  have hcreg : ∃ w1, (onlyIf w.store.unsolicitedCregFailed enableCreg).exec env w = (.ok (), w1) ∧
      w1.store.tick = w.store.tick + (if w.store.unsolicitedCregFailed then
        (if failed (env.replies w.store.tick) then 2 else 1) else 0) := by
    cases w.store.unsolicitedCregFailed with
    | true => exact exec_enableCreg env w
    | false => exact ⟨w, rfl, rfl⟩
  have hcgreg : ∀ w1, ∃ w2, (onlyIf w.store.unsolicitedCgregFailed enableCgreg).exec env w1 =
      (.ok (), w2) ∧ w2.store.tick = w1.store.tick +
        (if w.store.unsolicitedCgregFailed then 1 else 0) := by
    intro w1
    cases w.store.unsolicitedCgregFailed with
    | true => exact exec_enableCgreg env w1
    | false => exact ⟨w1, rfl, rfl⟩
  obtain ⟨w1, hexec1, htick1⟩ := hcreg
  obtain ⟨w2, hexec2, htick2⟩ := hcgreg w1
  apply Exists.intro
  unfold askSignalStrength
  rw [Traced.exec_bind, Traced.exec_getStore]
  dsimp only
  rw [Traced.exec_bind, hexec1]
  dsimp only
  rw [Traced.exec_bind, hexec2]
  dsimp only
  rw [atSendCommandSingleline, exec_atSend, htick2, htick1]
  rfl

/-- A failure is completed before the `goto error` and at the label. -/
theorem exec_signalStrengthReply_failed {reply : Reply} (h : failed reply = true) (n : Nat)
    (w : World Store Event) :
    (signalStrengthReply t n reply).exec env w =
      (.ok (), ⟨w.store, w.trace ++ [.complete t .genericFailure .null] ++
        [.complete t .genericFailure .null]⟩) := by
  unfold signalStrengthReply
  rw [h]
  rfl

/-! ## All requests -/

/-- The inputs for which the handler completes a second time. -/
def completesTwice (req : Request) (data : Data) (env : Env) (s : Store) : Bool :=
  match req with
  | .smsAcknowledge => data.intAt env 0 == some 0 || data.intAt env 0 == some 1
  | .signalStrength => failed (csqReply env s)
  | _ => false

/-- Runs of `p` that return have completed `n` times; a fault is one of the request's, and comes
    after one completion at most. -/
structure Completes (req : Request) (t : Token) (env : Env) (s : Store) (n : Nat) (p : Prog Unit) :
    Prop where
  returned : ∀ w, p.exec env ⟨s, []⟩ = (.ok (), w) → completions t w.trace = n
  faulted : ∀ f w, p.exec env ⟨s, []⟩ = (.error f, w) → f ∈ req.faults ∧ completions t w.trace ≤ 1

/-- Completions count, and the faults of the request may occur. -/
def completionTally (req : Request) (t : Token) : Tally Event Fault :=
  ⟨Event.completes t, fun _ => True, (· ∈ req.faults)⟩

theorem completionTally_serves (req : Request) (t : Token) : Serves (completionTally req t) t where
  uncounted e h := by
    cases e with
    | complete t' e response => cases h
    | _ => rfl
  ok _ _ := trivial
  counted e response := beq_self_eq_true t

section
variable {req : Request} {s : Store} {p : Prog Unit}

theorem completes_of_once (h : Once (completionTally req t) p) : Completes req t env s 1 p := by
  obtain ⟨l, htrace, hres⟩ := h env ⟨s, []⟩ trivial
  rw [List.nil_append] at htrace
  constructor
  · intro w hw
    rw [hw] at htrace hres
    subst htrace
    exact hres.1
  · intro f w hw
    rw [hw] at htrace hres
    subst htrace
    exact ⟨hres.2.1, hres.1⟩

theorem completes_of_exec {w : World Store Event} {n : Nat} (h : p.exec env ⟨s, []⟩ = (.ok (), w))
    (hn : completions t w.trace = n) : Completes req t env s n p := by
  constructor
  · intro w' hw'
    obtain ⟨-, rfl⟩ := Prod.mk.inj (h.symm.trans hw')
    exact hn
  · intro f w' hw'
    cases h.symm.trans hw'

end

theorem requestSmsAcknowledge_completes {s : Store}
    (h : completesTwice .smsAcknowledge data env s = false) :
    Completes .smsAcknowledge t env s 1 (requestSmsAcknowledge t data) := by
  cases hdata : data.intAt env 0 with
  | none =>
    have hexec : (requestSmsAcknowledge t data).exec env ⟨s, []⟩ = (.error .nullData, ⟨s, []⟩) := by
      unfold requestSmsAcknowledge
      rw [Traced.exec_bind, exec_intData_none hdata]
    constructor
    · intro w hw
      cases hexec.symm.trans hw
    · intro f w hw
      cases hexec.symm.trans hw
      exact ⟨List.mem_singleton_self _, Nat.zero_le 1⟩
  | some v =>
    unfold completesTwice at h
    rw [hdata] at h
    have hv : v ≠ 0 ∧ v ≠ 1 := by simpa using h
    apply completes_of_exec (exec_requestSmsAcknowledge_unknown hdata hv.1 hv.2 ⟨s, []⟩)
    simp [completions, Event.completes]

/-- The commands before the reply complete nothing. -/
theorem exec_requestSignalStrength (env : Env) (s : Store) :
    ∃ w, completions t w.trace = 0 ∧ (requestSignalStrength t).exec env ⟨s, []⟩ =
      (signalStrengthReply t env.modemType.numofElements (csqReply env s)).exec env w := by
  have hK := completionTally_serves .signalStrength t
  obtain ⟨w, hask⟩ := exec_askSignalStrength env ⟨s, []⟩
  obtain ⟨l, htrace, hcount⟩ := askSignalStrength_quiet hK.toSends env ⟨s, []⟩ trivial
  rw [hask] at htrace hcount
  rw [List.nil_append] at htrace
  refine ⟨w, ?_, ?_⟩
  · rw [htrace]
    exact hcount.1
  · unfold requestSignalStrength
    rw [Traced.exec_bind, Traced.exec_read]
    dsimp only
    rw [Traced.exec_bind, hask]

theorem exec_requestSignalStrength_failed {s : Store} (h : failed (csqReply env s) = true) :
    ∃ w, (requestSignalStrength t).exec env ⟨s, []⟩ = (.ok (), w) ∧ completions t w.trace = 2 := by
  obtain ⟨w, hzero, hexec⟩ := exec_requestSignalStrength (t := t) env s
  refine ⟨_, hexec.trans (exec_signalStrengthReply_failed h _ w), ?_⟩
  have htwo : completions t
      [Event.complete t .genericFailure .null, .complete t .genericFailure .null] = 2 := by
    simp [completions, Event.completes]
  rw [List.append_assoc, completions, List.countP_append]
  exact (congrArg₂ (· + ·) hzero htwo).trans (Nat.zero_add 2)

theorem requestSignalStrength_completes {s : Store} (h : failed (csqReply env s) = false) :
    Completes .signalStrength t env s 1 (requestSignalStrength t) := by
  obtain ⟨w, hzero, hexec⟩ := exec_requestSignalStrength (t := t) env s
  have hline : HasLine (csqReply env s) := hasLine_check_singleline _ _
  obtain ⟨l, htrace, hres⟩ := signalStrengthReply_once (completionTally_serves .signalStrength t)
    env.modemType.numofElements hline h env w trivial
  have hsum : completions t (w.trace ++ l) = completions t l := by
    rw [completions, List.countP_append]
    exact (congrArg (· + _) hzero).trans (Nat.zero_add _)
  constructor
  · intro w' hw'
    rw [hexec] at hw'
    rw [hw'] at htrace hres
    rw [htrace, hsum]
    exact hres.1
  · intro f w' hw'
    rw [hexec] at hw'
    rw [hw'] at htrace hres
    rw [htrace, hsum]
    exact ⟨hres.2.1, hres.1⟩

/-- The two exceptions return, after two completions. -/
theorem exec_dispatch_twice {req : Request} {data : Data} {s : Store}
    (h : completesTwice req data env s = true) :
    ∃ w, (dispatch t data req).exec env ⟨s, []⟩ = (.ok (), w) ∧ completions t w.trace = 2 := by
  cases req with
  | signalStrength => exact exec_requestSignalStrength_failed h
  | smsAcknowledge =>
    rcases Bool.or_eq_true_iff.mp h with hv | hv
    · obtain ⟨c, reply, s', hexec⟩ :=
        exec_requestSmsAcknowledge_known (t := t) (eq_of_beq hv) (Or.inl rfl) ⟨s, []⟩
      refine ⟨_, hexec, ?_⟩
      simp [completions, Event.completes]
    · obtain ⟨c, reply, s', hexec⟩ :=
        exec_requestSmsAcknowledge_known (t := t) (eq_of_beq hv) (Or.inr rfl) ⟨s, []⟩
      refine ⟨_, hexec, ?_⟩
      simp [completions, Event.completes]
  | _ => cases h

theorem dispatch_completes {req : Request} {data : Data} {s : Store} (t : Token)
    (h : completesTwice req data env s = false) :
    Completes req t env s 1 (dispatch t data req) := by
  by_cases hsignal : req = .signalStrength
  · subst hsignal
    exact requestSignalStrength_completes h
  · by_cases hack : req = .smsAcknowledge
    · subst hack
      exact requestSmsAcknowledge_completes h
    · apply completes_of_once
      exact dispatch_once (completionTally_serves req t) req (fun _ hf => hf) (fun _ _ _ => trivial)
        hsignal hack

/-! ## Whole runs -/

/-- A request that the radio state does not let through is completed at once. -/
theorem exec_onRequest_refused {req : Request} {s : Store} (h : req.refused s.sState) (t : Token)
    (data : Data) (env : Env) (l : List Event) :
    (onRequest req data t).exec env ⟨s, l⟩ =
      (.ok (), ⟨s, l ++ [.complete t .radioNotAvailable .null]⟩) := by
  unfold onRequest
  rw [Traced.exec_bind, Traced.exec_getStore]
  dsimp only
  rw [if_pos h]
  rfl

theorem exec_onRequest {req : Request} {s : Store} (h : ¬ req.refused s.sState) (t : Token)
    (data : Data) (env : Env) (l : List Event) :
    (onRequest req data t).exec env ⟨s, l⟩ = (dispatch t data req).exec env ⟨s, l⟩ := by
  unfold onRequest
  rw [Traced.exec_bind, Traced.exec_getStore]
  dsimp only
  rw [if_neg h]

/-- The request has been completed once when its handler returns. -/
def CompletedOnce (req : Request) (data : Data) (t : Token) (env : Env) (s : Store) : Prop :=
  ∀ w, (onRequest req data t).exec env ⟨s, []⟩ = (.ok (), w) → completions t w.trace = 1

end AndroidPatch.Ril.Reference
