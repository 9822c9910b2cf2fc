import AndroidPatch.Misc.Tally
import AndroidPatch.Ril.Reference.OnRequest
import AndroidPatch.Ril.Reference.Proofs.Modem

/-!
# What the statements of a handler add

Which statements complete a request, and which send the command that changes a password. A
statement that does neither is `Quiet` for every `Tally` with `Sends`; a completion is counted by
one with `Serves`.
-/

namespace AndroidPatch.Ril.Reference

open AtChannel
open Altair (Reply Token Undefined)

/-! ## Completions and password changes -/

def Event.isComplete : Event → Bool
  | .complete _ _ _ => true
  | _ => false

/-- A completion of the request `t`. -/
def Event.completes (t : Token) : Event → Bool
  | .complete t' _ _ => t' == t
  | _ => false

/-- The number of completions of the request `t`. -/
def completions (t : Token) (l : List Event) : Nat := l.countP (Event.completes t)

/-- `AT+CPWD`. -/
def changesPassword (command : CString) : Bool := strStartsWith command "AT+CPWD"

def Event.changesPassword : Event → Bool
  | .at command _ => Reference.changesPassword command
  | _ => false

/-- The text is no part of an `AT+CPWD` and begins with none, whatever follows. -/
def Differs (c : CString) : Prop := ¬ c <+: "AT+CPWD".toList ∧ ¬ "AT+CPWD".toList <+: c

instance (c : CString) : Decidable (Differs c) := inferInstanceAs (Decidable (_ ∧ _))

theorem Differs.append {c : CString} (h : Differs c) (d : CString) : Differs (c ++ d) := by
  have hc : c <+: c ++ d := List.prefix_append c d
  refine ⟨fun hd => h.1 (hc.trans hd), fun hd => ?_⟩
  rcases List.prefix_or_prefix_of_prefix hc hd with hle | hle
  · exact h.1 hle
  · exact h.2 hle

theorem Differs.changesPassword {c : CString} (h : Differs c) : changesPassword c = false := by
  rw [← Bool.not_eq_true, Reference.changesPassword, strStartsWith_iff]
  exact h.2

/-! ## Tallies of a handler -/

/-- Completions may count, and at most a change of a password is not allowed. -/
structure Sends (K : Tally Event Fault) : Prop where
  uncounted : ∀ e, e.isComplete = false → K.counts e = false
  ok : ∀ e, e.changesPassword = false → K.ok e

/-- The completions of the request count. -/
structure Serves (K : Tally Event Fault) (t : Token) : Prop extends Sends K where
  counted : ∀ e response, K.counts (.complete t e response) = true

variable {K : Tally Event Fault} {t : Token}

theorem Sends.forget (hK : Sends K) : Sends K.uncounted := ⟨fun _ _ => rfl, hK.ok⟩

theorem Serves.complete_once (hK : Serves K t) (e : Errno) (response : Payload) :
    Once K (onRequestComplete t e response) := Tallies.emit_once (hK.counted e response) (hK.ok _ rfl)

/-- A completion is an event like any other for those who do not count. -/
theorem Sends.complete_quiet (hK : Sends K) (e : Errno) (response : Payload) :
    Quiet K.uncounted (onRequestComplete t e response) := Tallies.emit_quiet rfl (hK.ok _ rfl)

namespace Sends

theorem emit_quiet (hK : Sends K) {e : Event} (hcomplete : e.isComplete = false)
    (hpassword : e.changesPassword = false) : Quiet K (emit e) :=
  Tallies.emit_quiet (hK.uncounted e hcomplete) (hK.ok e hpassword)

theorem unsolicited_quiet (hK : Sends K) (u : Unsolicited) (response : Payload) :
    Quiet K (onUnsolicitedResponse u response) := hK.emit_quiet rfl rfl

theorem undefinedIf_quiet (hK : Sends K) (c : Prop) [Decidable c] (u : Undefined) :
    Quiet K (undefinedIf c u) := Tallies.onlyIf fun _ => hK.emit_quiet rfl rfl

end Sends

theorem modifyStore_quiet (f : Store → Store) : Quiet K (modifyStore f) := Tallies.modifyStore f

theorem modifyMdm_quiet (f : ModemInfo → ModemInfo) : Quiet K (modifyMdm f) :=
  modifyStore_quiet fun s => { s with mdm := f s.mdm }

theorem tick_quiet : Quiet K tick := by
  apply Tallies.getStore.bind
  intro s
  exact (modifyStore_quiet _).bind fun _ => Tallies.quiet_pure

/-! ## Commands -/

/-- A command that is allowed with every reply. -/
theorem atSend_of_ok (hK : Sends K) (a : Api) {command : CString} (wantResponse : Bool)
    (hok : ∀ reply, K.ok (.at command reply)) : Quiet K (atSend a command wantResponse) := by
  apply Tallies.read.bind
  intro env
  apply tick_quiet.bind
  intro n
  have hat : ∀ reply, Quiet K (emit (.at command reply)) :=
    fun reply => Tallies.emit_quiet (hK.uncounted _ rfl) (hok reply)
  exact (hat _).bind fun _ => Tallies.quiet_pure

theorem atSend_quiet (hK : Sends K) (a : Api) {command : CString} (wantResponse : Bool)
    (h : Differs command) : Quiet K (atSend a command wantResponse) :=
  atSend_of_ok hK a wantResponse fun _ => hK.ok _ h.changesPassword

/-- A response of more than a final line is checked by the sender. -/
theorem atSend_hasLine {a : Api} (command : CString)
    (h : ∀ reply : Reply, reply.check a = reply.requireIntermediate) :
    Returns HasLine (atSend a command true) := by
  intro env w _
  refine ⟨_, rfl, ?_⟩
  show HasLine ((env.replies w.store.tick).check a)
  rw [h]
  exact hasLine_check_singleline _ []

theorem atSendCommandSingleline_hasLine (command responsePrefix : CString) :
    Returns HasLine (atSendCommandSingleline command responsePrefix) :=
  atSend_hasLine command fun _ => rfl

theorem atSendCommandNumeric_hasLine (command : CString) :
    Returns HasLine (atSendCommandNumeric command) := atSend_hasLine command fun _ => rfl

theorem succeeded_quiet (reply : Reply) : QuietBlock K (succeeded reply) := by
  cases reply with
  | response r => exact (TalliesBlock.gotoErrorIf _).bind fun _ => TalliesBlock.quiet_pure
  | failed e r => exact TalliesBlock.gotoError

theorem succeeded_hasLine {reply : Reply} (h : HasLine reply) :
    BlockReturns (fun r => r.intermediates ≠ []) (succeeded reply) := by
  cases reply with
  | failed e r => exact BlockReturns.gotoError
  | response r =>
    show BlockReturns _ (gotoErrorIf (r.success = false) >>= fun _ => pure r)
    unfold gotoErrorIf
    split
    · exact BlockReturns.gotoError
    · rename_i hsuccess
      exact BlockReturns.pure (h r rfl (by simpa using hsuccess))

theorem answered_quiet (reply : Reply) : QuietBlock K (answered reply) := by
  cases reply with
  | response r => exact TalliesBlock.quiet_pure
  | failed e r => exact TalliesBlock.gotoError

theorem firstLine_quiet {r : ATResponse} (h : r.intermediates = [] → K.allowed .nullIntermediates) :
    Quiet K (firstLine r) := by
  unfold firstLine
  split
  · exact Tallies.stop (h ‹_›)
  · exact Tallies.quiet_pure

theorem succeededLine_quiet {reply : Reply} (h : HasLine reply) :
    QuietBlock K (succeededLine reply) :=
  (succeeded_quiet reply).bind_of (succeeded_hasLine h) fun _ hline =>
    TalliesBlock.lift (firstLine_quiet fun hnone => absurd hnone hline)

theorem tokStart_quiet (l : TokLine) : QuietBlock K (tokStart l) :=
  (TalliesBlock.gotoErrorIf _).bind fun _ => TalliesBlock.quiet_pure

theorem tokChecked_quiet {α : Type} (r : TokOut α) : QuietBlock K (tokChecked r) := by
  apply (TalliesBlock.gotoErrorIf _).bind
  intro _
  cases r.out with
  | none => exact TalliesBlock.gotoError
  | some v => exact TalliesBlock.quiet_pure

theorem tokNextint_quiet (l : TokLine) : QuietBlock K (tokNextint l) := tokChecked_quiet _

theorem tokNexthexint_quiet (l : TokLine) : QuietBlock K (tokNexthexint l) := tokChecked_quiet _

theorem tokNextbool_quiet (l : TokLine) : QuietBlock K (tokNextbool l) := tokChecked_quiet _

theorem tokNextstr_quiet (l : TokLine) : QuietBlock K (tokNextstr l) := tokChecked_quiet _

/-- A question whose reply must have a line. -/
theorem queryLine_quiet (hK : Sends K) {command : CString} (h : Differs command)
    (responsePrefix : CString) : QuietBlock K (queryLine command responsePrefix) := by
  apply TalliesBlock.lift_bind_of (atSend_quiet hK _ _ h)
    (atSendCommandSingleline_hasLine command responsePrefix)
  intro reply hline
  exact (succeededLine_quiet hline).bind tokStart_quiet

/-! ## The data of a request -/

section
variable {data : Data}

theorem intData_quiet (h : data = .void → K.allowed .nullData) (i : Nat) :
    Quiet K (intData data i) := by
  apply Tallies.read.bind
  intro env
  cases data with
  | void => exact Tallies.stop (h rfl)
  | _ => exact Tallies.quiet_pure

theorem ptrData_quiet (h : data = .void → K.allowed .nullData) (i : Nat) :
    Quiet K (ptrData data i) := by
  apply Tallies.read.bind
  intro env
  cases data with
  | void => exact Tallies.stop (h rfl)
  | _ => exact Tallies.quiet_pure

theorem ptrData_quiet_of_ne (hdata : data ≠ .void) (i : Nat) : Quiet K (ptrData data i) :=
  ptrData_quiet (fun hvoid => absurd hvoid hdata) i

theorem assertThat_quiet (c : Prop) [Decidable c] (h : K.allowed .assertion) :
    Quiet K (assertThat c) := Tallies.ite (fun _ => Tallies.quiet_pure) fun _ => Tallies.stop h

theorem assertThat_returns (c : Prop) [Decidable c] : Returns (fun _ => c) (assertThat c) := by
  unfold assertThat
  split
  · exact Returns.pure ‹_›
  · exact Yields.stop fun _ _ => trivial

variable {p : Ptr}

theorem text_quiet (hnull : K.allowed .nullArgument) (hwild : K.allowed .wildPointer) :
    Quiet K p.text := by
  rcases p with _ | s | _
  · exact Tallies.stop hnull
  · exact Tallies.quiet_pure
  · exact Tallies.stop hwild

theorem format_quiet (hwild : K.allowed .wildPointer) : Quiet K p.format := by
  rcases p with _ | s | _
  · exact Tallies.quiet_pure
  · exact Tallies.quiet_pure
  · exact Tallies.stop hwild

theorem orDefaultSmsc_quiet (hwild : K.allowed .wildPointer) : Quiet K p.orDefaultSmsc := by
  rcases p with _ | s | _
  · exact Tallies.quiet_pure
  · exact Tallies.quiet_pure
  · exact Tallies.stop hwild

theorem orEmpty_quiet (hwild : K.allowed .wildPointer) : Quiet K p.orEmpty := by
  rcases p with _ | s | _
  · exact Tallies.quiet_pure
  · exact Tallies.quiet_pure
  · exact Tallies.stop hwild

end

/-! ## Handlers with one answer -/

section
variable (hK : Serves K t)
include hK

theorem completing_once (e : Errno) {body : Body Payload} (h : QuietBlock K body) :
    Once K (completing t e body) := by
  apply TalliesBlock.labelled
  · exact h.bind fun response => TalliesBlock.lift (hK.complete_once .success response)
  · exact hK.complete_once e .null

theorem commandAndComplete_once {command : CString} (h : Differs command) :
    Once K (commandAndComplete t command) := by
  apply completing_once hK
  apply TalliesBlock.lift_bind (atSend_quiet hK.toSends _ _ h)
  intro reply
  exact (succeeded_quiet reply).bind fun _ => TalliesBlock.quiet_pure

theorem sendAndComplete_once {command : CString} (h : Differs command) :
    Once K (sendAndComplete t command) :=
  (atSend_quiet hK.toSends _ _ h).bind fun _ => hK.complete_once .success .null

/-- A number on a line of its own. -/
theorem numericAndComplete_once {command : CString} (h : Differs command) :
    Once K (numericAndComplete t command) := by
  apply completing_once hK
  apply TalliesBlock.lift_bind_of (atSend_quiet hK.toSends _ _ h)
    (atSendCommandNumeric_hasLine command)
  intro reply hline
  exact (succeededLine_quiet hline).bind fun _ => TalliesBlock.quiet_pure

end

end AndroidPatch.Ril.Reference
