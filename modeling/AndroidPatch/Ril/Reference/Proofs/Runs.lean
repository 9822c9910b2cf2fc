import AndroidPatch.Misc.Exec
import AndroidPatch.Ril.Altair.Proofs.Tokens
import AndroidPatch.Ril.Reference.Proofs.Modem

/-!
# One run of the statements

What a statement of a handler makes of its world, and what the calls of the tokenizer make of the
line that they read.
-/

namespace AndroidPatch.Ril.Reference

open AtChannel
open Altair (Reply Token Undefined Reads Sees decimal hexadecimal reads_nextintBase nextstr_behind
  start_ofString)

/-! ## Commands -/

/-- The world after a question to the environment and some events. -/
def asked (w : World Store Event) (l : List Event) : World Store Event :=
  ⟨{ w.store with tick := w.store.tick + 1 }, w.trace ++ l⟩

@[simp] theorem asked_tick (w : World Store Event) (l : List Event) :
    (asked w l).store.tick = w.store.tick + 1 := rfl

@[simp] theorem asked_trace (w : World Store Event) (l : List Event) :
    (asked w l).trace = w.trace ++ l := rfl

/-- The next reply to a sender with a response pointer. -/
def nextReply (a : Api) (env : Env) (w : World Store Event) : Reply :=
  (env.replies w.store.tick).check a

@[simp] theorem exec_asked (a : Api) (command : CString) (env : Env) (w : World Store Event) :
    (atSend a command true).exec env w =
      (.ok (nextReply a env w), asked w [.at command (nextReply a env w)]) :=
  exec_atSend a command env w

@[simp] theorem exec_undefinedIf (c : Prop) [Decidable c] (u : Undefined) (env : Env)
    (w : World Store Event) :
    (undefinedIf c u).exec env w =
      (.ok (), { w with trace := w.trace ++ if c then [.undefined u] else [] }) :=
  Traced.exec_onlyIf_emit _ env w

@[simp] theorem exec_onRequestComplete (t : Token) (e : Errno) (response : Payload) (env : Env)
    (w : World Store Event) :
    (onRequestComplete t e response).exec env w =
      (.ok (), { w with trace := w.trace ++ [.complete t e response] }) := rfl

theorem exec_succeeded (final : Option CString) (lines : List CString) (env : Env)
    (w : World Store Event) :
    (succeeded (.response ⟨true, final, lines⟩)).exec env w = (.ok (some ⟨true, final, lines⟩), w) := rfl

/-- A handler that completes with the result of its body. -/
theorem exec_completing (t : Token) (e : Errno) (body : Body Payload) (env : Env)
    (w : World Store Event) :
    (completing t e body).exec env w =
      Block.reported (.complete t .success) (.complete t e .null) (body.exec env w) :=
  Traced.exec_labelled_emit body _ _ env w

/-- The completion with the result of a body. -/
def completion (t : Token) (e : Errno) : Option Payload → Event
  | none => .complete t e .null
  | some response => .complete t .success response

theorem completion_eq_success {t : Token} {e : Errno} (he : e ≠ .success) {o : Option Payload}
    {response : Payload} (h : completion t e o = .complete t .success response) :
    o = some response := by
  cases o with
  | none =>
    cases h
    exact absurd rfl he
  | some response' =>
    cases h
    rfl

theorem exec_completing_of {t : Token} {e : Errno} {body : Body Payload} {env : Env}
    {w w' : World Store Event} {o : Option Payload} (h : body.exec env w = (.ok o, w')) :
    (completing t e body).exec env w =
      (.ok (), { w' with trace := w'.trace ++ [completion t e o] }) := by
  rw [exec_completing, h]
  cases o <;> rfl

/-! ## The tokenizer -/

theorem reads_nextint : Reads tokNextint decimal :=
  reads_nextintBase (fun _ => rfl) (fun _ _ => rfl) (fun _ _ => rfl)

theorem reads_nexthexint : Reads tokNexthexint hexadecimal :=
  reads_nextintBase (fun _ => rfl) (fun _ _ => rfl) (fun _ _ => rfl)

theorem tokNextstr_behind {done s : CString} (hs : nul ∉ s) :
    tokNextstr (.behind done s) = pure ((cutField s).index done, (cutField s).line done) :=
  nextstr_behind (fun _ _ => rfl) hs

theorem tokStart_ofString {line : CString} (hline : nul ∉ line) :
    match (cutAt ':' line).2 with
    | none => tokStart (.ofString line) = gotoError
    | some s => ∃ l, Sees l (some s) ∧ tokStart (.ofString line) = pure l :=
  start_ofString (fun _ => rfl) hline

end AndroidPatch.Ril.Reference
