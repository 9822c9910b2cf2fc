import AndroidPatch.Misc.Lock
import AndroidPatch.Misc.Progress
import AndroidPatch.Nfc.Pn544Irq

/-!
# No message of the pn544 is lost, and when one is

While the line is up the driver knows of it in exactly one way: the interrupt thread is to run, it is about
to set `read_irq`, or `read_irq` is set and has not been used by the reader that clears it. This is what
keeps a reader from an empty chip and from waiting for a message that is there (`messages_in_order`,
`reader_served`). A transfer that fails uses up the one edge of the message (`deaf_after_failure`), and a
reader that waits keeps everybody else away from the device (`wait_blocks_device`).
-/

namespace AndroidPatch.Nfc.Pn544.Irq

/-! ## The invariant -/

/-- The thread has `info->mutex`. -/
def HoldsMutex : Pc → Prop
  | .idle | .lock _ | .returned _ => False
  | _ => True

/-- The thread has `info->read_mutex`. -/
def HoldsRead : Pc → Prop
  | .transfer | .clear _ => True
  | _ => False

def isClear : Pc → Bool
  | .clear _ => true
  | _ => false

/-- The message that a thread has read and not yet returned. -/
def carried : Pc → List Message
  | .clear (some m) | .copy m => [m]
  | .unlock a => (Sys.messages a).map Prod.fst
  | _ => []

theorem holdsMutex_of_read {p : Pc} (h : HoldsRead p) : HoldsMutex p := by
  cases p <;> trivial

theorem not_holdsRead {p : Pc} (h : ¬HoldsMutex p) : ¬HoldsRead p := fun hr => h (holdsMutex_of_read hr)

namespace Sys

/-- `read_irq` is about to be cleared. -/
def stale (s : Sys) : Bool := s.readMutex.elim false fun t => isClear (s.pc t)

/-- The ways in which the driver knows of the line. -/
def tokens (s : Sys) : Nat := (s.readIrq && !s.stale).toNat + s.flag.toNat + s.handler.toNat

/-- The messages of the calls that have returned. -/
def taken (s : Sys) : List Message := s.returned.map Prod.fst

/-- The messages on their way from the chip to a user. -/
def inHand (s : Sys) : List Message := s.mutex.elim [] fun t => carried (s.pc t)

structure Inv (s : Sys) : Prop where
  mutex : OwnedBy HoldsMutex s.pc s.mutex
  readMutex : OwnedBy HoldsRead s.pc s.readMutex
  seen : ∀ t, s.pc t = .lockRead ∨ s.pc t = .transfer → s.readIrq = true
  tokens : s.tokens = if s.failures = 0 then s.line.toNat else 0
  line : s.failures ≠ 0 → s.line = true
  queue : s.line = true → s.queue ≠ []
  order : s.produced = s.taken ++ s.inHand ++ s.queue

variable {s s' : Sys} {t : Tid} {q : Pc}

theorem Inv.enabled : Inv .enabled where
  mutex := fun _ => by simp [Sys.enabled, HoldsMutex]
  readMutex := fun _ => by simp [Sys.enabled, HoldsRead]
  seen := fun _ h => by simp [Sys.enabled] at h
  tokens := rfl
  line := fun h => absurd rfl h
  queue := fun h => Bool.noConfusion h
  order := rfl

theorem Inv.mutex_eq (h : Inv s) (ht : HoldsMutex (s.pc t)) : s.mutex = some t := (h.mutex t).mp ht

theorem Inv.readMutex_eq (h : Inv s) (ht : HoldsRead (s.pc t)) : s.readMutex = some t :=
  (h.readMutex t).mp ht

/-- While a thread that is not in a transfer has the device, `info->read_mutex` is free. -/
theorem Inv.readMutex_free (h : Inv s) (ht : HoldsMutex (s.pc t)) (hread : ¬HoldsRead (s.pc t)) :
    s.readMutex = none := by
  cases howner : s.readMutex with
  | none => rfl
  | some u =>
    have hu := (h.readMutex u).mpr howner
    rw [← h.mutex.unique (holdsMutex_of_read hu) ht] at hread
    exact absurd hu hread

theorem Inv.line_of_token (h : Inv s) (hpos : 0 < s.tokens) : s.line = true := by
  rw [h.tokens] at hpos
  split at hpos
  · cases hline : s.line with
    | true => rfl
    | false => simp [hline] at hpos
  · omega

theorem Inv.tokens_le (h : Inv s) : s.tokens ≤ 1 := by
  rw [h.tokens]
  split
  · exact Bool.toNat_le _
  · exact Nat.zero_le 1

theorem Inv.flag_of_handler (h : Inv s) (hhandler : s.handler = true) : s.flag = false := by
  have hle := h.tokens_le
  rw [Sys.tokens, hhandler] at hle
  cases hflag : s.flag with
  | false => rfl
  | true => simp [hflag] at hle

/-! ## What a step does to it -/

@[simp] theorem goto_pc_self (s : Sys) (t : Tid) (q : Pc) : (s.goto t q).pc t = q :=
  Function.update_self ..

theorem goto_pc_of_ne {u : Tid} (s : Sys) (q : Pc) (hu : u ≠ t) : (s.goto t q).pc u = s.pc u :=
  Function.update_of_ne hu ..

theorem stale_of_free (h : s.readMutex = none) : s.stale = false := by rw [stale, h]; rfl

theorem stale_of_owner (h : s.readMutex = some t) (hpc : s.pc t = q) : s.stale = isClear q := by
  rw [stale, h, ← hpc]; rfl

theorem inHand_of_owner (h : s.mutex = some t) (hpc : s.pc t = q) : s.inHand = carried q := by
  rw [inHand, h, ← hpc]; rfl

theorem inHand_of_free (h : s.mutex = none) : s.inHand = [] := by
  rw [inHand, h]; rfl

theorem inHand_goto_of_not_holds (h : Inv s) (ht : ¬HoldsMutex (s.pc t)) :
    (s.goto t q).inHand = s.inHand := by
  show s.mutex.elim [] (fun u => carried ((s.goto t q).pc u)) = s.mutex.elim [] fun u => carried (s.pc u)
  cases howner : s.mutex with
  | none => rfl
  | some u =>
    have hu : u ≠ t := fun heq => ht ((h.mutex t).mpr (heq ▸ howner))
    exact congrArg carried (goto_pc_of_ne s q hu)

theorem stale_goto_of_not_holds (h : Inv s) (ht : ¬HoldsRead (s.pc t)) :
    (s.goto t q).stale = s.stale := by
  show s.readMutex.elim false (fun u => isClear ((s.goto t q).pc u)) =
    s.readMutex.elim false fun u => isClear (s.pc u)
  cases howner : s.readMutex with
  | none => rfl
  | some u =>
    have hu : u ≠ t := fun heq => ht ((h.readMutex t).mpr (heq ▸ howner))
    exact congrArg isClear (goto_pc_of_ne s q hu)

theorem seen_goto (h : Inv s) (hq : q = .lockRead ∨ q = .transfer → s.readIrq = true) (u : Tid) :
    (s.goto t q).pc u = .lockRead ∨ (s.goto t q).pc u = .transfer → s.readIrq = true := by
  by_cases hu : u = t
  · rw [hu, goto_pc_self]
    exact hq
  · rw [goto_pc_of_ne s q hu]
    exact h.seen u

/-- A thread that has the device goes on outside the transfer. -/
theorem Inv.goto (h : Inv s) (ht : HoldsMutex (s.pc t)) (hread : ¬HoldsRead (s.pc t))
    (hq : HoldsMutex q) (hqread : ¬HoldsRead q) (hcarried : carried q = carried (s.pc t))
    (hseen : q = .lockRead ∨ q = .transfer → s.readIrq = true) : Inv (s.goto t q) where
  mutex := h.mutex.keep (iff_of_true hq ht)
  readMutex := h.readMutex.keep (iff_of_false hqread hread)
  seen := seen_goto h hseen
  tokens := by
    have hstale := stale_goto_of_not_holds (q := q) h hread
    have htokens := h.tokens
    rw [Sys.tokens] at htokens ⊢
    rw [hstale]
    exact htokens
  line := h.line
  queue := h.queue
  order := by
    have hhand : (s.goto t q).inHand = carried q :=
      inHand_of_owner (h.mutex_eq ht) (goto_pc_self s t q)
    rw [hhand, hcarried, ← inHand_of_owner (h.mutex_eq ht) rfl]
    exact h.order

/-- In a transfer that nobody has spoiled, the line is up and the driver knows of it by `read_irq`. -/
theorem Inv.transfer (h : Inv s) (ht : s.pc t = .transfer) :
    s.failures = 0 ∧ s.line = true ∧ s.readIrq = true ∧ s.flag = false ∧ s.handler = false := by
  have hread := h.seen t (.inr ht)
  have howner := h.readMutex_eq (t := t) (by rw [ht]; trivial)
  have hstale := stale_of_owner howner ht
  have htokens := h.tokens
  rw [Sys.tokens, hread, hstale] at htokens
  by_cases hfail : s.failures = 0
  · rw [if_pos hfail] at htokens
    cases hline : s.line <;> cases hflag : s.flag <;> cases hhandler : s.handler <;>
      simp [hline, hflag, hhandler, isClear] at htokens
    exact ⟨hfail, rfl, hread, rfl, rfl⟩
  · rw [if_neg hfail] at htokens
    simp [isClear] at htokens

theorem Inv.raise (h : Inv s) (hline : s.line = false) (hqueue : s.queue ≠ []) :
    Inv { s with line := true, flag := true } where
  __ := h
  line := fun _ => rfl
  queue := fun _ => hqueue
  tokens := by
    have hfail : s.failures = 0 := by
      by_contra hne
      rw [h.line hne] at hline
      cases hline
    have htokens := h.tokens
    rw [if_pos hfail, hline, Bool.toNat_false, Sys.tokens] at htokens
    show (s.readIrq && !s.stale).toNat + 1 + s.handler.toNat = if s.failures = 0 then 1 else 0
    rw [if_pos hfail]
    omega

theorem Inv.wakeHandler (h : Inv s) (hflag : s.flag = true) (hhandler : s.handler = false) :
    Inv { s with flag := false, handler := true } where
  __ := h
  tokens := by
    have htokens := h.tokens
    rw [Sys.tokens, hflag, hhandler] at htokens
    exact htokens

theorem Inv.handle (h : Inv s) (hhandler : s.handler = true) (hfree : s.readMutex = none) :
    Inv { s with handler := false, readIrq := true } where
  __ := h
  seen := fun _ _ => rfl
  tokens := by
    have hstale := stale_of_free hfree
    have hle := h.tokens_le
    have htokens := h.tokens
    rw [Sys.tokens, hhandler, hstale] at htokens hle
    show (true && !s.stale).toNat + s.flag.toNat + 0 = if s.failures = 0 then s.line.toNat else 0
    rw [hstale, ← htokens]
    -- there was no other token, for there is only one
    cases hread : s.readIrq with
    | false => simp [Nat.add_comm]
    | true =>
      rw [hread] at hle
      simp at hle

theorem Inv.call (h : Inv s) (ht : ¬HoldsMutex (s.pc t)) (op : Op) : Inv (s.goto t (.lock op)) where
  mutex := h.mutex.keep (iff_of_false id ht)
  readMutex := h.readMutex.keep (iff_of_false id (not_holdsRead ht))
  seen := seen_goto h (by simp)
  tokens := by
    have hstale := stale_goto_of_not_holds (q := .lock op) h (not_holdsRead ht)
    have htokens := h.tokens
    rw [Sys.tokens] at htokens ⊢
    rw [hstale]
    exact htokens
  line := h.line
  queue := h.queue
  order := by
    rw [inHand_goto_of_not_holds h ht]
    exact h.order

theorem Inv.enter (h : Inv s) (ht : ¬HoldsMutex (s.pc t)) (hfree : s.mutex = none) (op : Op) :
    Inv { s.goto t (entered op) with mutex := some t } := by
  obtain ⟨hq, hqread, hcarried, hne⟩ : HoldsMutex (entered op) ∧ ¬HoldsRead (entered op) ∧
      carried (entered op) = [] ∧ ¬(entered op = .lockRead ∨ entered op = .transfer) := by
    cases op <;> simp [entered, HoldsMutex, HoldsRead, carried]
  have hstale := stale_goto_of_not_holds (q := entered op) h (not_holdsRead ht)
  have hhand : ({ s.goto t (entered op) with mutex := some t } : Sys).inHand = carried (entered op) :=
    inHand_of_owner rfl (goto_pc_self s t _)
  exact
    { mutex := h.mutex.acquire hfree hq
      readMutex := h.readMutex.keep (iff_of_false hqread (not_holdsRead ht))
      seen := seen_goto h fun hor => absurd hor hne
      tokens := by
        have htokens := h.tokens
        rw [Sys.tokens] at htokens ⊢
        show (s.readIrq && !(s.goto t (entered op)).stale).toNat + s.flag.toNat + s.handler.toNat = _
        rw [hstale]
        exact htokens
      line := h.line
      queue := h.queue
      order := by
        have horder := h.order
        rw [inHand_of_free hfree] at horder
        rw [hhand, hcarried]
        exact horder }

theorem Inv.check (h : Inv s) {op : Op} (hpc : s.pc t = .check op) :
    Inv (s.goto t (checked s.readIrq op)) := by
  obtain ⟨hq, hqread, hcarried, hseen⟩ : HoldsMutex (checked s.readIrq op) ∧
      ¬HoldsRead (checked s.readIrq op) ∧ carried (checked s.readIrq op) = [] ∧
      (checked s.readIrq op = .lockRead ∨ checked s.readIrq op = .transfer → s.readIrq = true) := by
    cases op with
    | read nonblock =>
      cases s.readIrq <;> cases nonblock <;> simp [checked, HoldsMutex, HoldsRead, carried, messages]
    | write m => simp [checked, HoldsMutex, HoldsRead, carried]
    | poll => simp [checked, HoldsMutex, HoldsRead, carried, messages]
  exact h.goto (by rw [hpc]; trivial) (by rw [hpc]; exact id) hq hqread (by rw [hpc, hcarried]; rfl) hseen

theorem Inv.lockRead (h : Inv s) (hpc : s.pc t = .lockRead) (hfree : s.readMutex = none) :
    Inv { s.goto t .transfer with readMutex := some t } := by
  have ht : HoldsMutex (s.pc t) := by rw [hpc]; trivial
  have hstale : ({ s.goto t .transfer with readMutex := some t } : Sys).stale = isClear .transfer :=
    stale_of_owner rfl (goto_pc_self s t .transfer)
  have hhand : ({ s.goto t .transfer with readMutex := some t } : Sys).inHand = carried .transfer :=
    inHand_of_owner (h.mutex_eq ht) (goto_pc_self s t .transfer)
  exact
    { mutex := h.mutex.keep (iff_of_true trivial ht)
      readMutex := h.readMutex.acquire hfree trivial
      seen := seen_goto h fun _ => h.seen t (.inl hpc)
      tokens := by
        have htokens := h.tokens
        rw [Sys.tokens, stale_of_free hfree] at htokens
        rw [Sys.tokens, hstale]
        exact htokens
      line := h.line
      queue := h.queue
      order := by
        have horder := h.order
        rw [inHand_of_owner (h.mutex_eq ht) hpc] at horder
        rw [hhand]
        exact horder }

theorem Inv.transferred (h : Inv s) (hpc : s.pc t = .transfer) (ok : Bool) : Inv (s.transferred t ok) := by
  obtain ⟨hfail, hline, hread, hflag, hhandler⟩ := h.transfer hpc
  have ht : HoldsMutex (s.pc t) := by rw [hpc]; trivial
  have htread : HoldsRead (s.pc t) := by rw [hpc]; trivial
  have horder := h.order
  rw [inHand_of_owner (h.mutex_eq ht) hpc] at horder
  have hstale : ∀ got, (s.goto t (.clear got)).stale = isClear (.clear got) := fun got =>
    stale_of_owner (h.readMutex_eq htread) (goto_pc_self s t _)
  have hhand : ∀ got, (s.goto t (.clear got)).inHand = carried (.clear got) := fun got =>
    inHand_of_owner (h.mutex_eq ht) (goto_pc_self s t _)
  -- the token has been used
  have hused : ∀ got, (s.readIrq && !(s.goto t (.clear got)).stale).toNat + s.flag.toNat +
      s.handler.toNat = 0 := by
    intro got
    rw [hstale, hflag, hhandler, isClear, Bool.not_true, Bool.and_false]
    rfl
  cases ok with
  | true =>
    obtain ⟨m, rest, hsplit⟩ := List.exists_cons_of_ne_nil (h.queue hline)
    rw [Sys.transferred, hsplit]
    exact
      { mutex := h.mutex.keep (iff_of_true trivial ht)
        readMutex := h.readMutex.keep (iff_of_true trivial htread)
        seen := seen_goto h (by simp)
        tokens := (hused (some m)).trans (ite_self 0).symm
        line := fun hne => absurd hfail hne
        queue := fun hfalse => Bool.noConfusion hfalse
        order := by
          show s.produced = s.taken ++ (s.goto t (.clear (some m))).inHand ++ rest
          rw [hhand, horder, hsplit]
          simp [carried] }
  | false =>
    exact
      { mutex := h.mutex.keep (iff_of_true trivial ht)
        readMutex := h.readMutex.keep (iff_of_true trivial htread)
        seen := seen_goto h (by simp)
        tokens := (hused none).trans (if_neg (Nat.succ_ne_zero s.failures)).symm
        line := fun _ => hline
        queue := h.queue
        order := by
          show s.produced = s.taken ++ (s.goto t (.clear none)).inHand ++ s.queue
          rw [hhand]
          exact horder }

theorem Inv.clear (h : Inv s) {got : Option Message} (hpc : s.pc t = .clear got) :
    Inv { s.goto t (cleared got) with readIrq := false, readMutex := none } := by
  obtain ⟨hq, hqread, hcarried, hne⟩ : HoldsMutex (cleared got) ∧ ¬HoldsRead (cleared got) ∧
      carried (cleared got) = carried (.clear got) ∧
      ¬(cleared got = .lockRead ∨ cleared got = .transfer) := by
    cases got <;> simp [cleared, HoldsMutex, HoldsRead, carried, messages]
  have ht : HoldsMutex (s.pc t) := by rw [hpc]; trivial
  have htread : HoldsRead (s.pc t) := by rw [hpc]; trivial
  have hhand : ({ s.goto t (cleared got) with readIrq := false, readMutex := none } : Sys).inHand =
      carried (cleared got) :=
    inHand_of_owner (h.mutex_eq ht) (goto_pc_self s t _)
  exact
    { mutex := h.mutex.keep (iff_of_true hq ht)
      readMutex := h.readMutex.release htread hqread
      seen := by
        intro u hu
        have hother : u ≠ t := by
          rintro rfl
          rw [show ({ s.goto u (cleared got) with readIrq := false, readMutex := none } : Sys).pc u =
            cleared got from goto_pc_self s _ _] at hu
          exact hne hu
        rw [show ({ s.goto t (cleared got) with readIrq := false, readMutex := none } : Sys).pc u =
          s.pc u from goto_pc_of_ne s _ hother] at hu
        have hpcu : HoldsMutex (s.pc u) := by
          rcases hu with hu | hu <;> rw [hu] <;> trivial
        exact absurd (h.mutex.unique hpcu ht) hother
      tokens := by
        have htokens := h.tokens
        rw [Sys.tokens, stale_of_owner (h.readMutex_eq htread) hpc, isClear, Bool.not_true,
          Bool.and_false] at htokens
        show (false && _).toNat + s.flag.toNat + s.handler.toNat = _
        rw [Bool.false_and]
        exact htokens
      line := h.line
      queue := h.queue
      order := by
        have horder := h.order
        rw [inHand_of_owner (h.mutex_eq ht) hpc] at horder
        rw [hhand, hcarried]
        exact horder }

/-- The message is copied to the user, or it is lost. -/
theorem Inv.copy (h : Inv s) {m : Message} (hpc : s.pc t = .copy m) (ok : Bool) :
    Inv (s.goto t (.unlock (if ok then .message m else .fault m))) := by
  have hcarried : carried (.unlock (if ok then .message m else .fault m)) = carried (s.pc t) := by
    rw [hpc]
    cases ok <;> rfl
  exact h.goto (by rw [hpc]; trivial) (by rw [hpc]; exact id) trivial id hcarried (by simp)

theorem Inv.leave (h : Inv s) {a : Answer} (hpc : s.pc t = .unlock a) :
    Inv { s.goto t (.returned a) with mutex := none, returned := s.returned ++ messages a } := by
  have ht : HoldsMutex (s.pc t) := by rw [hpc]; trivial
  have hread : ¬HoldsRead (s.pc t) := by rw [hpc]; exact id
  have hstale := stale_goto_of_not_holds (q := .returned a) h hread
  exact
    { mutex := h.mutex.release ht id
      readMutex := h.readMutex.keep (iff_of_false id hread)
      seen := seen_goto h (by simp)
      tokens := by
        have htokens := h.tokens
        rw [Sys.tokens] at htokens ⊢
        show (s.readIrq && !(s.goto t (.returned a)).stale).toNat + s.flag.toNat + s.handler.toNat = _
        rw [hstale]
        exact htokens
      line := h.line
      queue := h.queue
      order := by
        have horder := h.order
        rw [inHand_of_owner (h.mutex_eq ht) hpc] at horder
        rw [inHand_of_free rfl, List.append_nil, taken, List.map_append]
        exact horder }

theorem Inv.step {e : Event} (h : Inv s) (hstep : Irq.step s e = some s') : Inv s' := by
  cases e with
  | produce m =>
    cases hstep
    refine { h with queue := fun _ => by simp, order := ?_ }
    show s.produced ++ [m] = s.taken ++ s.inHand ++ (s.queue ++ [m])
    rw [h.order, List.append_assoc]
  | raise =>
    simp only [Irq.step] at hstep
    split at hstep
    · rename_i hguard
      cases hstep
      exact h.raise hguard.1 hguard.2
    · cases hstep
  | wakeHandler =>
    simp only [Irq.step] at hstep
    split at hstep
    · rename_i hguard
      cases hstep
      exact h.wakeHandler hguard.1 hguard.2
    · cases hstep
  | handle =>
    simp only [Irq.step] at hstep
    split at hstep
    · rename_i hguard
      cases hstep
      exact h.handle hguard.1 hguard.2
    · cases hstep
  | call t op =>
    simp only [Irq.step] at hstep
    split at hstep <;> cases hstep <;> rename_i hpc <;> exact h.call (by rw [hpc]; exact id) op
  | enter t =>
    simp only [Irq.step] at hstep
    split at hstep
    · rename_i op hpc
      split at hstep
      · rename_i hfree
        cases hstep
        exact h.enter (by rw [hpc]; exact id) hfree op
      · cases hstep
    · cases hstep
  | check t =>
    simp only [Irq.step] at hstep
    split at hstep
    · rename_i op hpc
      split at hstep
      · cases hstep
        exact h.check hpc
      · cases hstep
    · cases hstep
  | wake t =>
    simp only [Irq.step] at hstep
    split at hstep
    · rename_i hguard
      cases hstep
      exact h.goto (by rw [hguard.1]; trivial) (by rw [hguard.1]; exact id) trivial id
        (by rw [hguard.1]; rfl) fun _ => hguard.2
    · cases hstep
  | signal t =>
    simp only [Irq.step] at hstep
    split at hstep
    · rename_i hguard
      cases hstep
      exact h.goto (by rw [hguard.1]; trivial) (by rw [hguard.1]; exact id) trivial id
        (by rw [hguard.1]; rfl) (by simp)
    · cases hstep
  | lockRead t =>
    simp only [Irq.step] at hstep
    split at hstep
    · rename_i hguard
      cases hstep
      exact h.lockRead hguard.1 hguard.2
    · cases hstep
  | transfer t ok =>
    simp only [Irq.step] at hstep
    split at hstep
    · rename_i hpc
      cases hstep
      exact h.transferred hpc ok
    · cases hstep
  | clear t =>
    simp only [Irq.step] at hstep
    split at hstep
    · rename_i got hpc
      cases hstep
      exact h.clear hpc
    · cases hstep
  | copy t ok =>
    simp only [Irq.step] at hstep
    split at hstep
    · rename_i m hpc
      cases hstep
      exact h.copy hpc ok
    · cases hstep
  | send t =>
    simp only [Irq.step] at hstep
    split at hstep
    · rename_i m hpc
      cases hstep
      exact { h.goto (t := t) (q := .unlock .written) (by rw [hpc]; trivial) (by rw [hpc]; exact id)
        trivial id (by rw [hpc]; rfl) (by simp) with }
    · cases hstep
  | leave t =>
    simp only [Irq.step] at hstep
    split at hstep
    · rename_i a hpc
      cases hstep
      exact h.leave hpc
    · cases hstep

/-! ## No message is lost -/

theorem Inv.run {es : List Event} (h : Inv s) (hrun : runSteps Irq.step s es = some s') : Inv s' :=
  runSteps_invariant Inv (fun _ => True) (fun _ _ _ _ hinv hstep => hinv.step hstep)
    (fun _ _ => trivial) h hrun

theorem length_carried_le (q : Pc) : (carried q).length ≤ 1 := by
  unfold carried
  split
  · exact Nat.le_refl 1
  · exact Nat.le_refl 1
  · unfold messages
    split <;> simp
  · exact Nat.zero_le 1

end Sys

/-- In every run, whatever the threads, the interrupt and the chip do when, the calls that have returned have
    had the messages of the chip in its order, each one once: they have given it to the user, or lost it with
    `-EFAULT`. At most one is on its way, and no transfer starts on a chip that has nothing to read. -/
theorem messages_in_order {es : List Event} {s : Sys} (hrun : runSteps step .enabled es = some s) :
    s.produced = s.taken ++ s.inHand ++ s.queue ∧ s.inHand.length ≤ 1 ∧
      ∀ t, s.pc t = .transfer → s.line = true ∧ s.queue ≠ [] := by
  have hinv := Sys.Inv.enabled.run hrun
  refine ⟨hinv.order, ?_, fun t ht => ?_⟩
  · unfold Sys.inHand
    cases s.mutex with
    | none => exact Nat.zero_le 1
    | some t => exact Sys.length_carried_le _
  · obtain ⟨_, hline, _⟩ := hinv.transfer ht
    exact ⟨hline, hinv.queue hline⟩

/-- The second message comes while the first one is read. -/
def readOfTwo : List Event :=
  [.produce [1], .produce [2], .raise, .call 7 (.read true), .enter 7, .wakeHandler, .handle, .check 7,
    .lockRead 7, .transfer 7 true, .raise, .wakeHandler, .clear 7, .handle, .copy 7 false, .leave 7]

theorem messages_in_order_two :
    ∃ s, runSteps step .enabled readOfTwo = some s ∧ s.produced = s.taken ++ s.inHand ++ s.queue := by
  obtain ⟨s, hrun⟩ : ∃ s, runSteps step .enabled readOfTwo = some s := ⟨_, rfl⟩
  exact ⟨s, hrun, (messages_in_order hrun).1⟩

/-! ## After a failed transfer -/

namespace Sys

variable {s s' : Sys} {t : Tid}

/-- What has been read from the chip, returned or not. -/
def received (s : Sys) : List Message := s.taken ++ s.inHand

/-- Only a transfer takes messages from the chip. -/
theorem step_queue {e : Event} (hstep : Irq.step s e = some s') (hne : ∀ t ok, e ≠ .transfer t ok) :
    ∃ new, s'.queue = s.queue ++ new ∧ s'.produced = s.produced ++ new ∧ s'.failures = s.failures := by
  cases e with
  | transfer t ok => exact absurd rfl (hne t ok)
  | produce m => cases hstep; exact ⟨[m], rfl, rfl, rfl⟩
  | raise | wakeHandler | handle | wake | signal | lockRead =>
    simp only [Irq.step] at hstep
    split at hstep
    · cases hstep
      exact ⟨[], (List.append_nil _).symm, (List.append_nil _).symm, rfl⟩
    · cases hstep
  | call t op =>
    simp only [Irq.step] at hstep
    split at hstep <;> cases hstep <;>
      exact ⟨[], (List.append_nil _).symm, (List.append_nil _).symm, rfl⟩
  | clear | copy | send | leave =>
    simp only [Irq.step] at hstep
    split at hstep
    · cases hstep
      exact ⟨[], (List.append_nil _).symm, (List.append_nil _).symm, rfl⟩
    · cases hstep
  | enter | check =>
    simp only [Irq.step] at hstep
    split at hstep
    · split at hstep
      · cases hstep
        exact ⟨[], (List.append_nil _).symm, (List.append_nil _).symm, rfl⟩
      · cases hstep
    · cases hstep

theorem Inv.step_received {e : Event} (h : Inv s) (hstep : Irq.step s e = some s')
    (hne : ∀ t ok, e ≠ .transfer t ok) : s'.received = s.received ∧ s'.failures = s.failures := by
  obtain ⟨new, hqueue, hproduced, hfail⟩ := step_queue hstep hne
  refine ⟨?_, hfail⟩
  have horder := (h.step hstep).order
  rw [hproduced, h.order, hqueue, ← List.append_assoc, List.append_cancel_right_eq,
    List.append_cancel_right_eq] at horder
  exact horder.symm

end Sys

/-- A transfer that fails uses up the one edge for the message. In every run with such a transfer, nothing
    is read from the chip afterwards, whatever the threads and the chip do: the line stays up, and no call
    returns a message that had not been read before. -/
theorem deaf_after_failure {es es' : List Event} {s s' : Sys}
    (hrun : runSteps step .enabled es = some s) (hfail : s.failures ≠ 0)
    (hrest : runSteps step s es' = some s') :
    s'.line = true ∧ s'.failures = s.failures ∧ s'.taken ++ s'.inHand = s.taken ++ s.inHand := by
  have hdeaf := runSteps_invariant (fun u => u.Inv ∧ u.failures = s.failures ∧ u.received = s.received)
    (fun _ => True) ?_ (fun _ _ => trivial) ⟨Sys.Inv.enabled.run hrun, rfl, rfl⟩ hrest
  · obtain ⟨hinv, hfail', hreceived⟩ := hdeaf
    exact ⟨hinv.line (hfail' ▸ hfail), hfail', hreceived⟩
  · rintro u e u' - ⟨hinv, hfail', hreceived⟩ hstep
    have hne : ∀ t ok, e ≠ .transfer t ok := by
      rintro t ok rfl
      simp only [step] at hstep
      split at hstep
      · rename_i hpc
        exact hfail (hfail'.symm.trans (hinv.transfer hpc).1)
      · cases hstep
    obtain ⟨hsame, hsame'⟩ := hinv.step_received hstep hne
    exact ⟨hinv.step hstep, hsame'.trans hfail', hsame.trans hreceived⟩

/-- A transfer fails, and the same thread reads again. -/
def failedRead : List Event :=
  [.produce [1], .raise, .wakeHandler, .handle, .call 7 (.read true), .enter 7, .check 7, .lockRead 7,
    .transfer 7 false]

theorem deaf_after_failure_again :
    ∃ s s', runSteps step .enabled failedRead = some s ∧
      runSteps step s [.clear 7, .leave 7, .produce [2], .call 7 (.read true), .enter 7, .check 7] = some s' ∧
      s'.line = true := by
  refine ⟨_, _, rfl, rfl, ?_⟩
  exact (@deaf_after_failure failedRead [.clear 7, .leave 7, .produce [2], .call 7 (.read true), .enter 7,
    .check 7] _ _ rfl Nat.one_ne_zero rfl).1

/-! ## A reader that waits -/

/-- The thread of an event that needs `info->mutex` or takes it. -/
def Event.thread : Event → Option Tid
  | .produce _ | .raise | .wakeHandler | .handle | .call _ _ => none
  | .enter t | .check t | .wake t | .signal t | .lockRead t | .transfer t _ | .clear t | .copy t _ | .send t
  | .leave t => some t

/-- The event brings a message closer to the reader `t`. -/
def Event.helps (t : Tid) : Event → Bool
  | .raise | .wakeHandler | .handle => true
  | .wake u | .lockRead u | .transfer u _ | .clear u | .copy u _ | .leave u => u == t
  | _ => false

/-- The event is not a signal for the thread `t`, and not a transfer that fails. -/
def Event.undisturbed (t : Tid) : Event → Bool
  | .signal u => u != t
  | .transfer _ ok => ok
  | _ => true

namespace Sys

variable {s s' : Sys} {t : Tid} {m : Message}

/-- While a thread has the device, the others only get to the start of a call. -/
theorem Inv.thread_eq (h : Inv s) (ht : HoldsMutex (s.pc t)) {e : Event} {u : Tid}
    (hstep : Irq.step s e = some s') (hu : e.thread = some u) : u = t := by
  have holds : HoldsMutex (s.pc u) → u = t := fun hold => h.mutex.unique hold ht
  cases e <;> simp only [Event.thread, Option.some.injEq, reduceCtorEq] at hu <;> subst hu
  case enter =>
    have hown := h.mutex_eq ht
    simp only [Irq.step] at hstep
    split at hstep
    · simp [hown] at hstep
    · cases hstep
  case check | clear | copy | send | leave =>
    simp only [Irq.step] at hstep
    split at hstep
    · rename_i hpc
      exact holds (by rw [hpc]; trivial)
    · cases hstep
  case wake | signal | lockRead =>
    simp only [Irq.step] at hstep
    split at hstep
    · rename_i hpc
      exact holds (by rw [hpc.1]; trivial)
    · cases hstep
  case transfer =>
    simp only [Irq.step] at hstep
    split at hstep
    · rename_i hpc
      exact holds (by rw [hpc]; trivial)
    · cases hstep

/-- What is left to do in a thread that reads. -/
def pcRank : Pc → Nat
  | .wait => 9
  | .lockRead => 8
  | .transfer => 7
  | .clear _ => 3
  | .copy _ => 2
  | .unlock _ => 1
  | _ => 0

/-- What is left to do until the driver knows of the next message. -/
def irqRank (s : Sys) : Nat :=
  if s.line = false then 3 else if s.flag = true then 2 else if s.handler = true then 1 else 0

def rank (t : Tid) (s : Sys) : Nat := pcRank (s.pc t) + s.irqRank

theorem irqRank_le (s : Sys) : s.irqRank ≤ 3 := by
  unfold irqRank
  split_ifs <;> omega

/-- The thread has returned the message, or has lost it. -/
def Served (m : Message) (t : Tid) (s : Sys) : Prop :=
  s.pc t = .returned (.message m) ∨ s.pc t = .returned (.fault m)

/-- The thread is on its way to return the message. -/
def Reads (m : Message) (t : Tid) (s : Sys) : Prop :=
  ((s.pc t = .wait ∨ s.pc t = .lockRead ∨ s.pc t = .transfer) ∧ s.queue.head? = some m) ∨
    s.pc t = .clear (some m) ∨ s.pc t = .copy m ∨
    s.pc t = .unlock (.message m) ∨ s.pc t = .unlock (.fault m)

theorem Reads.holdsMutex (h : s.Reads m t) : HoldsMutex (s.pc t) := by
  rcases h with ⟨h | h | h, -⟩ | h | h | h | h <;> rw [h] <;> trivial

theorem Reads.rank_pos (h : s.Reads m t) : 0 < s.rank t := by
  have hpc : 0 < pcRank (s.pc t) := by
    rcases h with ⟨h | h | h, -⟩ | h | h | h | h <;> rw [h] <;> exact Nat.succ_pos _
  exact Nat.add_pos_left hpc _

/-- An event that is not one of the thread leaves it where it is. -/
theorem Inv.step_other (h : Inv s) (ht : HoldsMutex (s.pc t)) {e : Event} (hstep : Irq.step s e = some s')
    (he : e.thread = none) :
    s'.pc t = s.pc t ∧ (∀ m, s.queue.head? = some m → s'.queue.head? = some m) ∧
      s'.irqRank + (e.helps t).toNat ≤ s.irqRank := by
  cases e <;> simp only [Event.thread, reduceCtorEq] at he
  case produce m' =>
    cases hstep
    refine ⟨rfl, fun m hm => ?_, Nat.le_refl _⟩
    show (s.queue ++ [m']).head? = some m
    rw [List.head?_append, hm]
    rfl
  case raise =>
    simp only [Irq.step] at hstep
    split at hstep
    · rename_i hguard
      cases hstep
      refine ⟨rfl, fun _ hm => hm, ?_⟩
      simp [irqRank, hguard.1, Event.helps]
    · cases hstep
  case wakeHandler =>
    simp only [Irq.step] at hstep
    split at hstep
    · rename_i hguard
      cases hstep
      refine ⟨rfl, fun _ hm => hm, ?_⟩
      have hline := h.line_of_token (by rw [Sys.tokens, hguard.1, Bool.toNat_true]; omega)
      simp [irqRank, hguard.1, hline, Event.helps]
    · cases hstep
  case handle =>
    simp only [Irq.step] at hstep
    split at hstep
    · rename_i hguard
      cases hstep
      refine ⟨rfl, fun _ hm => hm, ?_⟩
      have hline := h.line_of_token (by rw [Sys.tokens, hguard.1, Bool.toNat_true]; omega)
      have hflag := h.flag_of_handler hguard.1
      simp [irqRank, hguard.1, hflag, hline, Event.helps]
    · cases hstep
  case call u op =>
    simp only [Irq.step] at hstep
    have hne : t ≠ u := by
      rintro rfl
      cases hpc : s.pc t <;> simp [hpc] at hstep <;> rw [hpc] at ht <;> exact ht
    split at hstep <;> cases hstep <;>
      exact ⟨goto_pc_of_ne s _ hne, fun _ hm => hm, Nat.le_refl _⟩

/-- An event of the thread itself brings it nearer to the end. -/
theorem Reads.step_self (hreads : s.Reads m t) {e : Event} (hstep : Irq.step s e = some s')
    (he : e.thread = some t) (hok : e.undisturbed t = true) :
    s'.Served m t ∨ (s'.Reads m t ∧ s'.failures = s.failures ∧ s'.rank t < s.rank t) := by
  have hirq : s'.irqRank ≤ 3 := irqRank_le s'
  have hhelps : (e.helps t).toNat ≤ 1 := Bool.toNat_le _
  rcases hreads with ⟨hpc, hhead⟩ | hpc | hpc | hpc | hpc
  · cases e <;> simp only [Event.thread, Option.some.injEq, reduceCtorEq] at he <;> subst he
    case enter | check | clear | copy | send | leave =>
      rcases hpc with hpc | hpc | hpc <;> simp [Irq.step, hpc] at hstep
    case signal => simp [Event.undisturbed] at hok
    case wake =>
      simp only [Irq.step] at hstep
      split at hstep
      · rename_i hguard
        cases hstep
        refine .inr ⟨.inl ⟨.inr (.inl (goto_pc_self s _ _)), hhead⟩, rfl, ?_⟩
        rw [rank, rank, goto_pc_self, hguard.1]
        exact Nat.add_lt_add_right (by decide) _
      · cases hstep
    case lockRead u =>
      simp only [Irq.step] at hstep
      split at hstep
      · rename_i hguard
        cases hstep
        have hnext : ({ s.goto u .transfer with readMutex := some u } : Sys).pc u = .transfer :=
          goto_pc_self s _ _
        refine .inr ⟨.inl ⟨.inr (.inr hnext), hhead⟩, rfl, ?_⟩
        rw [rank, rank, hnext, hguard.1]
        exact Nat.add_lt_add_right (by decide) _
      · cases hstep
    case transfer u ok =>
      simp only [Event.undisturbed] at hok
      subst hok
      simp only [Irq.step] at hstep
      split at hstep
      · rename_i hguard
        cases hstep
        obtain ⟨rest, hqueue⟩ : ∃ rest, s.queue = m :: rest := List.head?_eq_some_iff.mp hhead
        have hnext : (s.transferred u true).pc u = .clear (some m) := by
          rw [transferred, hqueue]
          exact goto_pc_self s _ _
        refine .inr ⟨.inr (.inl hnext), by rw [transferred, hqueue]; rfl, ?_⟩
        rw [rank, rank, hnext, hguard, pcRank, pcRank]
        omega
      · cases hstep
  · cases e <;> simp only [Event.thread, Option.some.injEq, reduceCtorEq] at he <;> subst he
    case clear u =>
      simp only [Irq.step, hpc] at hstep
      cases hstep
      have hnext : ({ s.goto u (cleared (some m)) with readIrq := false, readMutex := none } : Sys).pc u =
          .copy m := goto_pc_self s _ _
      refine .inr ⟨.inr (.inr (.inl hnext)), rfl, ?_⟩
      rw [rank, rank, hnext, hpc]
      exact Nat.add_lt_add_right (Nat.lt_succ_self 2) _
    all_goals simp [Irq.step, hpc] at hstep
  · cases e <;> simp only [Event.thread, Option.some.injEq, reduceCtorEq] at he <;> subst he
    case copy u ok =>
      simp only [Irq.step, hpc] at hstep
      cases hstep
      refine .inr ⟨.inr (.inr (.inr ?_)), rfl, ?_⟩
      · cases ok
        · exact .inr (goto_pc_self s _ _)
        · exact .inl (goto_pc_self s _ _)
      · rw [rank, rank, goto_pc_self, hpc]
        exact Nat.add_lt_add_right (Nat.lt_succ_self 1) _
    all_goals simp [Irq.step, hpc] at hstep
  · cases e <;> simp only [Event.thread, Option.some.injEq, reduceCtorEq] at he <;> subst he
    case leave u =>
      simp only [Irq.step, hpc] at hstep
      cases hstep
      exact .inl (.inl (goto_pc_self s _ _))
    all_goals simp [Irq.step, hpc] at hstep
  · cases e <;> simp only [Event.thread, Option.some.injEq, reduceCtorEq] at he <;> subst he
    case leave u =>
      simp only [Irq.step, hpc] at hstep
      cases hstep
      exact .inl (.inr (goto_pc_self s _ _))
    all_goals simp [Irq.step, hpc] at hstep

theorem Inv.step_reads (h : Inv s) (hreads : s.Reads m t) {e : Event} (hstep : Irq.step s e = some s')
    (hok : e.undisturbed t = true) :
    s'.Served m t ∨
      (s'.Reads m t ∧ s'.failures = s.failures ∧ s'.rank t + (e.helps t).toNat ≤ s.rank t) := by
  cases he : e.thread with
  | none =>
    obtain ⟨hpc, hhead, hrank⟩ := h.step_other hreads.holdsMutex hstep he
    obtain ⟨_, _, _, hfail⟩ := step_queue hstep (by rintro u ok rfl; cases he)
    refine .inr ⟨?_, hfail, by rw [rank, rank, hpc]; omega⟩
    rw [Reads, hpc]
    exact hreads.imp_left (And.imp_right (hhead m))
  | some u =>
    cases h.thread_eq hreads.holdsMutex hstep he
    rcases hreads.step_self hstep he hok with hdone | ⟨hreads', hfail, hrank⟩
    · exact .inl hdone
    · have hhelps : (e.helps t).toNat ≤ 1 := Bool.toNat_le _
      exact .inr ⟨hreads', hfail, by omega⟩

/-- Something that helps can happen. -/
theorem Inv.exists_helps (h : Inv s) (hfail : s.failures = 0) (hreads : s.Reads m t) :
    ∃ e : Event, e.helps t = true ∧ e.undisturbed t = true ∧ (Irq.step s e).isSome := by
  have ht := hreads.holdsMutex
  rcases hreads with ⟨hpc | hpc | hpc, hhead⟩ | hpc | hpc | hpc | hpc
  · -- the driver is told at last, for there is a token when the line is up
    have hfree := h.readMutex_free ht (by rw [hpc]; exact id)
    by_cases hread : s.readIrq = true
    · exact ⟨.wake t, beq_self_eq_true t, rfl, by simp [Irq.step, hpc, hread]⟩
    · by_cases hhandler : s.handler = true
      · exact ⟨.handle, rfl, rfl, by simp [Irq.step, hhandler, hfree]⟩
      · by_cases hflag : s.flag = true
        · exact ⟨.wakeHandler, rfl, rfl, by simp [Irq.step, hflag, hhandler]⟩
        · have hline : s.line = false := by
            have htokens := h.tokens
            rw [Sys.tokens, if_pos hfail] at htokens
            simp only [hread, hhandler, hflag] at htokens
            cases hline : s.line with
            | false => rfl
            | true => simp [hline] at htokens
          have hqueue : s.queue ≠ [] := fun hnil => by rw [hnil] at hhead; cases hhead
          exact ⟨.raise, rfl, rfl, by simp [Irq.step, hline, hqueue]⟩
  · have hfree := h.readMutex_free ht (by rw [hpc]; exact id)
    exact ⟨.lockRead t, beq_self_eq_true t, rfl, by simp [Irq.step, hpc, hfree]⟩
  · exact ⟨.transfer t true, beq_self_eq_true t, rfl, by simp [Irq.step, hpc]⟩
  · exact ⟨.clear t, beq_self_eq_true t, rfl, by simp [Irq.step, hpc]⟩
  · exact ⟨.copy t true, beq_self_eq_true t, rfl, by simp [Irq.step, hpc]⟩
  · exact ⟨.leave t, beq_self_eq_true t, rfl, by simp [Irq.step, hpc]⟩
  · exact ⟨.leave t, beq_self_eq_true t, rfl, by simp [Irq.step, hpc]⟩

end Sys

/-- No wake-up is lost. In every run without a failed transfer, a reader that waits while the chip has a
    message returns the first one, or `-EFAULT` where it cannot be copied to the user, unless a signal comes,
    within twelve steps of the chip, of the interrupt thread and of its own, however the other threads run;
    and until it has returned one of these steps can be taken. -/
theorem reader_served {es es' : List Event} {s s' : Sys} {t : Tid} {m : Message}
    (hrun : runSteps step .enabled es = some s) (hfail : s.failures = 0) (hwait : s.pc t = .wait)
    (hqueue : s.queue.head? = some m) (hok : ∀ e ∈ es', e.undisturbed t = true)
    (hrest : runSteps step s es' = some s') :
    Reaches step (Sys.Served m t) s es' ∨
      (es'.countP (Event.helps t) < 12 ∧
        ∃ e : Event, e.helps t = true ∧ e.undisturbed t = true ∧ (step s' e).isSome) := by
  have hreads : s.Reads m t := .inl ⟨.inl hwait, hqueue⟩
  have hstep : ∀ u e u', e.undisturbed t = true → (u.Inv ∧ u.failures = 0 ∧ u.Reads m t) →
      ¬u.Served m t → step u e = some u' → u'.Served m t ∨
        ((u'.Inv ∧ u'.failures = 0 ∧ u'.Reads m t) ∧
          u'.rank t + (e.helps t).toNat ≤ u.rank t) := by
    rintro u e u' he ⟨hinv, hfail', hreads'⟩ - hstep
    rcases hinv.step_reads hreads' hstep he with hdone | ⟨hnext, hsame, hrank⟩
    · exact .inl hdone
    · exact .inr ⟨⟨hinv.step hstep, hsame.trans hfail', hnext⟩, hrank⟩
  rcases runSteps_reaches (fun u => u.Inv ∧ u.failures = 0 ∧ u.Reads m t)
      (Sys.Served m t) (Event.undisturbed t) (Event.helps t) (Sys.rank t) hstep hok
      ⟨Sys.Inv.enabled.run hrun, hfail, hreads⟩ hrest with hreach | ⟨⟨hinv, hfail', hreads'⟩, hrank⟩
  · exact .inl hreach
  · refine .inr ⟨?_, hinv.exists_helps hfail' hreads'⟩
    have hirq := s.irqRank_le
    have hleft := hreads'.rank_pos
    have hstart : s.rank t = 9 + s.irqRank := by rw [Sys.rank, hwait]; rfl
    omega

/-- What a reader needs that waits when the message comes. -/
def readOfOne : List Event :=
  [.raise, .wakeHandler, .handle, .wake 7, .lockRead 7, .transfer 7 true, .clear 7, .copy 7 true, .leave 7]

theorem reader_served_one :
    ∃ s s', runSteps step .enabled [.call 7 (.read false), .enter 7, .check 7, .produce [1]] = some s ∧
      runSteps step s readOfOne = some s' ∧
      (Reaches step (Sys.Served [1] 7) s readOfOne ∨
        (readOfOne.countP (Event.helps 7) < 12 ∧
          ∃ e : Event, e.helps 7 = true ∧ e.undisturbed 7 = true ∧ (step s' e).isSome)) := by
  refine ⟨_, _, rfl, rfl, ?_⟩
  exact @reader_served [.call 7 (.read false), .enter 7, .check 7, .produce [1]] readOfOne _ _ 7 [1]
    rfl rfl rfl rfl (by decide) rfl

namespace Sys

/-- The thread waits, there is nothing for it, and `s` was like that before. -/
structure Blocked (t : Tid) (s u : Sys) : Prop where
  inv : u.Inv
  wait : u.pc t = .wait
  readIrq : u.readIrq = false
  flag : u.flag = false
  handler : u.handler = false
  queue : u.queue = []
  written : u.written = s.written
  locked : ∀ v op, s.pc v = .lock op → u.pc v = .lock op

variable {s u u' : Sys} {t : Tid}

theorem Blocked.of_wait (h : Inv s) (hwait : s.pc t = .wait) (hread : s.readIrq = false)
    (hline : s.line = false) (hqueue : s.queue = []) : Blocked t s s := by
  have htokens := h.tokens
  rw [hline, Bool.toNat_false, ite_self, Sys.tokens, hread] at htokens
  have hflag : s.flag = false := by
    cases hflag : s.flag with
    | false => rfl
    | true => simp [hflag] at htokens
  have hhandler : s.handler = false := by
    cases hhandler : s.handler with
    | false => rfl
    | true => simp [hhandler] at htokens
  exact ⟨h, hwait, hread, hflag, hhandler, hqueue, rfl, fun _ _ hlock => hlock⟩

theorem Blocked.step {e : Event} (hb : Blocked t s u) (hstep : Irq.step u e = some u')
    (hsignal : e ≠ .signal t) (hproduce : ∀ m, e ≠ .produce m) : Blocked t s u' := by
  have ht : HoldsMutex (u.pc t) := by rw [hb.wait]; trivial
  cases he : e.thread with
  | none =>
    cases e <;> simp only [Event.thread, reduceCtorEq] at he
    case produce m => exact absurd rfl (hproduce m)
    case raise => simp [Irq.step, hb.queue] at hstep
    case wakeHandler => simp [Irq.step, hb.flag] at hstep
    case handle => simp [Irq.step, hb.handler] at hstep
    case call v op =>
      have hinv := hb.inv.step hstep
      simp only [Irq.step] at hstep
      have hcall : (∀ op', u.pc v ≠ .lock op') ∧ t ≠ v ∧ u' = u.goto v (.lock op) := by
        split at hstep <;> cases hstep <;> rename_i hpc <;> refine ⟨by simp [hpc], ?_, rfl⟩ <;>
          rintro rfl <;> exact absurd (hb.wait.symm.trans hpc) (by simp)
      obtain ⟨hnot, hne, rfl⟩ := hcall
      refine { hb with inv := hinv, wait := (goto_pc_of_ne u _ hne).trans hb.wait, locked := ?_ }
      intro w op' hlock
      have hw : w ≠ v := fun heq => hnot op' (heq ▸ hb.locked w op' hlock)
      exact (goto_pc_of_ne u _ hw).trans (hb.locked w op' hlock)
  | some v =>
    cases hb.inv.thread_eq ht hstep he
    cases e <;> simp only [Event.thread, Option.some.injEq, reduceCtorEq] at he <;> subst he
    case signal => exact absurd rfl hsignal
    all_goals simp [Irq.step, hb.wait, hb.readIrq] at hstep

end Sys

/-- While a reader waits and the chip has nothing to say, the device is closed to everybody else: until the
    chip has a message or a signal comes, nothing is written and no call of another thread gets any further
    than `mutex_lock(&info->mutex)`. -/
theorem wait_blocks_device {es es' : List Event} {s s' : Sys} {t : Tid}
    (hrun : runSteps step .enabled es = some s) (hwait : s.pc t = .wait) (hread : s.readIrq = false)
    (hline : s.line = false) (hqueue : s.queue = [])
    (hok : ∀ e ∈ es', e ≠ .signal t ∧ ∀ m, e ≠ .produce m) (hrest : runSteps step s es' = some s') :
    s'.pc t = .wait ∧ s'.written = s.written ∧
      ∀ u op, s.pc u = .lock op → s'.pc u = .lock op := by
  have hinv := Sys.Inv.enabled.run hrun
  have hblocked := runSteps_invariant (Sys.Blocked t s) (fun e => e ≠ .signal t ∧ ∀ m, e ≠ .produce m)
    (fun _ _ _ hok hb hstep => hb.step hstep hok.1 hok.2) hok (.of_wait hinv hwait hread hline hqueue) hrest
  exact ⟨hblocked.wait, hblocked.written, hblocked.locked⟩

/-- A thread reads an empty chip, and another one is to write the command that the chip would answer. -/
theorem wait_blocks_device_write :
    ∃ s s', runSteps step .enabled
        [.call 7 (.read false), .enter 7, .check 7, .call 8 (.write [1])] = some s ∧
      runSteps step s [.call 9 .poll] = some s' ∧ s'.pc 8 = .lock (.write [1]) := by
  refine ⟨_, _, rfl, rfl, ?_⟩
  exact (@wait_blocks_device [.call 7 (.read false), .enter 7, .check 7, .call 8 (.write [1])]
    [.call 9 .poll] _ _ 7 rfl rfl rfl rfl rfl (by simp) rfl).2.2 8 _ rfl

end AndroidPatch.Nfc.Pn544.Irq
