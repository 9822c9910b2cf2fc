import AndroidPatch.Ril.AtChannel.Readline

/-!
# What the line reader does, without the buffer

The unread bytes are a list here, and of the buffer only the index of the first unread byte is
left: it decides how much room there is for the next `read` and when the buffer is full.
`Proofs.ReadlineRefines` shows that `readline` computes this as long as no line ends at the end
of the data, which only the SMS prompt can do (`Outcome.prompt`).
-/

namespace AndroidPatch.Ril.AtChannel

/-- A byte that neither ends a line nor the data. -/
def inLine (c : Cell) : Bool := c.byte != nul && !isNewline c.byte

/-- What stands at the front of the unread bytes. -/
inductive Next where
  /-- a line, and what follows its terminator -/
  | line (l rest : List Cell)
  /-- the SMS prompt and nothing else -/
  | prompt
  | incomplete
  deriving DecidableEq, Repr

def nextLine (pend : List Cell) : Next :=
  if pend.map Cell.byte = smsPrompt then .prompt
  -- a received `NUL` ends a prompt too
  else if (pend.take 3).map Cell.byte = smsPrompt ++ [nul] then .line (pend.take 2) (pend.drop 3)
  else
    match pend.dropWhile inLine with
    | [] => .incomplete
    | c :: rest => if c.byte = nul then .incomplete else .line (pend.takeWhile inLine) rest

structure Splitter where
  start : Nat
  pend : List Cell
  fd : List ReadEvent
  rxCount : Nat
  deriving DecidableEq, Repr

inductive Outcome where
  | line (l : List Cell)
  | ended
  | prompt
  deriving DecidableEq, Repr

/-- Leading newlines are skipped; they keep their place in the buffer. -/
def Splitter.skip (a : Splitter) : Splitter :=
  { a with
    start := a.start + (a.pend.takeWhile fun c => isNewline c.byte).length
    pend := a.pend.dropWhile fun c => isNewline c.byte }

/-- The next line, when there is one. -/
def Splitter.take (a : Splitter) : Option (Outcome × Splitter) :=
  match nextLine a.pend with
  | .line l rest => some (.line l, { a with start := a.start + l.length + 1, pend := rest })
  | .prompt => some (.prompt, a)
  | .incomplete => none

/-- A full buffer is thrown away. -/
def Splitter.ditch (a : Splitter) : Splitter :=
  if maxAtResponse - (a.start + a.pend.length) = 0 then { a with start := 0, pend := [] } else a

def Splitter.receive (a : Splitter) (bytes : CString) (fd : List ReadEvent) : Splitter :=
  { a with
    pend := a.pend ++ tagged a.rxCount bytes
    fd := fd
    rxCount := a.rxCount + bytes.length }

def Splitter.loop : Nat → Splitter → Option (Outcome × Splitter)
  | 0, _ => none
  | fuel + 1, a =>
      let a := a.ditch
      match readFd (maxAtResponse - (a.start + a.pend.length)) a.fd with
      | .ended fd => some (.ended, { a with fd := fd })
      | .data bytes fd =>
          let a := (a.receive bytes fd).skip
          match a.take with
          | some r => some r
          | none => a.loop fuel

/-- One call of `readline`. Bytes that follow a received `NUL` are lost. -/
def Splitter.call (a : Splitter) : Option (Outcome × Splitter) :=
  if (a.pend.map Cell.byte).headD nul = nul then
    { a with start := 0, pend := [] }.loop (readFuel a.fd)
  else
    let a := a.skip
    match a.take with
    | some r => some r
    | none =>
        { a with start := 0, pend := a.pend.takeWhile fun c => c.byte != nul }.loop (readFuel a.fd)

/-- The splitter of an empty buffer. -/
def Splitter.fresh (fd : List ReadEvent) : Splitter := ⟨0, [], fd, 0⟩

/-- In none of `n` calls is the unread data exactly the prompt when a line is looked for. -/
def Splitter.promptFree : Nat → Splitter → Bool
  | 0, _ => true
  | n + 1, a =>
      match a.call with
      | some (.prompt, _) => false
      | some (_, a') => a'.promptFree n
      | none => true

/-- What `n` calls return, up to the first prompt. -/
def Splitter.lines : Nat → Splitter → List (Option (List Cell))
  | 0, _ => []
  | n + 1, a =>
      match a.call with
      | some (.line l, a') => some l :: a'.lines n
      | some (.ended, a') => none :: a'.lines n
      | _ => []

/-! ## Enough reads -/

theorem readFuel_pos (fd : List ReadEvent) : 0 < readFuel fd := by
  cases fd with
  | nil => exact Nat.one_pos
  | cons e es => cases e <;> exact Nat.succ_pos _

theorem readFuel_readFd {n : Nat} {fd fd' : List ReadEvent} {bytes : CString} (hn : 0 < n)
    (h : readFd n fd = .data bytes fd') : readFuel fd' < readFuel fd := by
  induction fd with
  | nil => cases h
  | cons e es ih =>
    cases e with
    | eintr =>
      have hes := ih h
      show readFuel fd' < readFuel es + 1
      omega
    | fail => cases h
    | chunk bs =>
      rw [readFd] at h
      split at h
      · cases h
      · split at h
        · cases h
          rw [readFuel]
          omega
        · rename_i hlen
          cases h
          rw [readFuel, readFuel, List.length_drop]
          omega

theorem readFd_length_le {n : Nat} {fd fd' : List ReadEvent} {bytes : CString} (hn : 0 < n)
    (h : readFd n fd = .data bytes fd') : bytes.length ≤ n ∧ bytes ≠ [] := by
  induction fd with
  | nil => cases h
  | cons e es ih =>
    cases e with
    | eintr => exact ih h
    | fail => cases h
    | chunk bs =>
      rw [readFd] at h
      split at h
      · cases h
      · rename_i hne
        split at h
        · rename_i hlen
          cases h
          exact ⟨hlen, hne⟩
        · cases h
          refine ⟨List.length_take_le n bs, ?_⟩
          rw [Ne, List.take_eq_nil_iff, not_or]
          exact ⟨by omega, hne⟩

theorem ditch_room (a : Splitter) : 0 < maxAtResponse - (a.ditch.start + a.ditch.pend.length) := by
  unfold Splitter.ditch
  split
  · show 0 < maxAtResponse - (0 + 0)
    decide
  · omega

@[simp] theorem ditch_fd (a : Splitter) : a.ditch.fd = a.fd := by
  unfold Splitter.ditch
  split <;> rfl

/-- The loop never runs out of fuel. -/
theorem loop_isSome {fuel : Nat} {a : Splitter} (h : readFuel a.fd ≤ fuel) :
    (a.loop fuel).isSome = true := by
  induction fuel generalizing a with
  | zero =>
    have hpos := readFuel_pos a.fd
    omega
  | succ fuel ih =>
    rw [Splitter.loop]
    dsimp only
    split
    · rfl
    · rename_i bytes fd hread
      split
      · rfl
      · apply ih
        have hless := readFuel_readFd (ditch_room a) hread
        rw [ditch_fd] at hless
        exact Nat.le_of_lt_succ (Nat.lt_of_lt_of_le hless h)

theorem call_isSome (a : Splitter) : a.call.isSome = true := by
  unfold Splitter.call
  split
  · exact loop_isSome (Nat.le_refl _)
  · dsimp only
    split
    · rfl
    · exact loop_isSome (Nat.le_refl _)

end AndroidPatch.Ril.AtChannel
