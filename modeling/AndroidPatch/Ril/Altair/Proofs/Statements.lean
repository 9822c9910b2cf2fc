import AndroidPatch.Misc.Exec
import AndroidPatch.Ril.Altair.Defs

/-!
# One run of the statements

What a statement of a handler makes of its world: the question that it asks of the environment and
the events that it adds.
-/

namespace AndroidPatch.Ril.Altair

open AtChannel

/-- The world after a question to the environment and some events. -/
def asked (w : World Store Event) (l : List Event) : World Store Event :=
  ⟨{ w.store with tick := w.store.tick + 1 }, w.trace ++ l⟩

@[simp] theorem asked_tick (w : World Store Event) (l : List Event) :
    (asked w l).store.tick = w.store.tick + 1 := rfl

@[simp] theorem asked_trace (w : World Store Event) (l : List Event) :
    (asked w l).trace = w.trace ++ l := rfl

/-- The next reply to a sender with a response pointer. -/
def nextReply (a : Api) (env : Env) (w : World Store Event) : Reply :=
  (env.replies w.store.tick).check a

@[simp] theorem exec_atSend (a : Api) (command : CString) (env : Env) (w : World Store Event) :
    (atSend a command true).exec env w =
      (.ok (nextReply a env w), asked w [.at command (nextReply a env w)]) := rfl

@[simp] theorem exec_atSend_only (a : Api) (command : CString) (env : Env)
    (w : World Store Event) :
    (atSend a command false).exec env w =
      (.ok (env.replies w.store.tick), asked w [.at command (env.replies w.store.tick)]) := rfl

@[simp] theorem exec_undefinedIf (c : Prop) [Decidable c] (u : Undefined) (env : Env)
    (w : World Store Event) :
    (undefinedIf c u).exec env w =
      (.ok (), { w with trace := w.trace ++ if c then [.undefined u] else [] }) :=
  Traced.exec_onlyIf_emit _ env w

/-- A reply is given up, or it is a response that has succeeded. -/
theorem exec_succeeded (reply : Reply) (env : Env) (w : World Store Event) :
    (succeeded reply).exec env w = (.ok none, w) ∨ ∃ r, reply = .response r ∧ r.success = true ∧
      (succeeded reply).exec env w = (.ok (some r), w) := by
  cases reply with
  | failed e r => exact .inl rfl
  | response r =>
    unfold succeeded
    dsimp only
    rw [Block.exec_bind, Block.exec_gotoErrorIf]
    by_cases hsuccess : r.success = false
    · rw [if_pos hsuccess]
      exact .inl rfl
    · rw [if_neg hsuccess]
      exact .inr ⟨r, rfl, by simpa using hsuccess, rfl⟩

theorem succeeded_eq_some {reply : Reply} {r : ATResponse} {env : Env} {w w' : World Store Event}
    (h : (succeeded reply).exec env w = (.ok (some r), w')) :
    reply = .response r ∧ r.success = true ∧ w' = w := by
  rcases exec_succeeded reply env w with hnone | ⟨r', hreply, hsuccess, hsome⟩
  · rw [hnone] at h
    cases h
  · rw [hsome] at h
    cases h
    exact ⟨hreply, hsuccess, rfl⟩

/-- A handler that completes with the result of its body. -/
theorem exec_completing (t : Token) (e : Errno) (body : Body Payload) (env : Env)
    (w : World Store Event) :
    (completing t e body).exec env w =
      Block.reported (.complete t .success) (.complete t e .null) (body.exec env w) :=
  Traced.exec_labelled_emit body _ _ env w

/-! ## The tokenizer asks nothing -/

section Ignores

variable {R : Env → Env → Prop}

theorem tokChecked_ignores {α : Type} (r : TokOut α) : (tokChecked r).Ignores R := by
  unfold tokChecked
  apply Block.Ignores.bind (Block.Ignores.gotoErrorIf _)
  intro _
  cases r.out with
  | none => exact Block.Ignores.gotoError
  | some v => exact Block.Ignores.pure _

theorem tokStart_ignores (l : TokLine) : (tokStart l).Ignores R :=
  Block.Ignores.bind (Block.Ignores.gotoErrorIf _) fun _ => Block.Ignores.pure _

theorem undefinedIf_ignores (c : Prop) [Decidable c] (u : Undefined) :
    (undefinedIf c u).Ignores R :=
  Traced.Ignores.onlyIf fun _ _ _ _ => rfl

theorem succeeded_ignores (reply : Reply) : (succeeded reply).Ignores R := by
  cases reply with
  | response r => exact Block.Ignores.bind (Block.Ignores.gotoErrorIf _) fun _ => Block.Ignores.pure _
  | failed e r => exact Block.Ignores.gotoError

/-- The environments are the same for the senders. -/
theorem atSend_ignores (hR : ∀ r r', R r r' → r.replies = r'.replies) (a : Api) (command : CString)
    (wantResponse : Bool) : (atSend a command wantResponse).Ignores R := by
  intro r r' hr w
  cases wantResponse with
  | false => rw [exec_atSend_only, exec_atSend_only, hR r r' hr]
  | true => rw [exec_atSend, exec_atSend, nextReply, nextReply, hR r r' hr]

end Ignores

end AndroidPatch.Ril.Altair
