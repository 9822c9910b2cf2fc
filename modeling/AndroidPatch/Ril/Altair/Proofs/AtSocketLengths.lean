import Mathlib.Algebra.GroupWithZero.Nat
import AndroidPatch.Ril.Altair.Proofs.AtSocketReplies

/-!
# The lengths in the frames of the AT socket

What both sides make of the two length bytes of a header, and which answers fit in `resultBuff` and
in the length that their frame carries. Neither the final line nor the length of an answer is
checked, and a length below the size of the header wraps around in `readFromATSocket`.
-/

namespace AndroidPatch.Ril.Altair.AtSocket

open AtChannel

/-! ## The length of a request -/

/-- The client gives up where the number is negative, since it compares with the size of its
    buffer. -/
theorem readFromAtSocketAsks_eq (l1 l2 : Char) :
    readFromAtSocketAsks maxSize l1 l2 =
      if lengthField l1 l2 < 5 then none else some (lengthField l1 l2 - 5) := by
  have hmax := lengthField_le l1 l2
  rw [readFromAtSocketAsks]
  rw [maxSize] at hmax ⊢
  generalize lengthField l1 l2 = n at hmax ⊢
  have hsize : sizeT (n - 5) = if n < 5 then n + 0xfffffffb else n - 5 := by
    rw [sizeT]
    split <;> omega
  simp only [hsize]
  by_cases hshort : n < 5
  · simp only [if_pos hshort]
    exact if_neg (by omega)
  · simp only [if_neg hshort]
    exact if_pos (by omega)

/-- Both sides reject the frame or ask for the bytes behind its header, no more than their buffer
    has. -/
def AsksInBounds (l1 l2 : Char) : Prop :=
  (∀ n ∈ readFromATSocketAsks l1 l2, (n : Int) = lengthField l1 l2 - 4 ∧ n ≤ maxSize) ∧
  ∀ n ∈ readFromAtSocketAsks maxSize l1 l2, (n : Int) = lengthField l1 l2 - 5 ∧ n ≤ maxSize

/-- Without the header in its length, a frame makes the server ask for about `2^32` bytes. -/
theorem not_asksInBounds {l1 l2 : Char} (hshort : lengthField l1 l2 < 4) :
    ¬ AsksInBounds l1 l2 := by
  rintro ⟨hserver, -⟩
  rw [readFromATSocketAsks_eq, if_pos hshort] at hserver
  have hsize := (hserver _ rfl).2
  rw [maxSize] at hsize
  omega

/-- The two sides ask for what the frame has exactly when its length counts the header. -/
theorem asksInBounds_iff (l1 l2 : Char) : AsksInBounds l1 l2 ↔ 4 ≤ lengthField l1 l2 := by
  constructor
  · intro h
    by_contra hshort
    exact not_asksInBounds (by omega) h
  · intro hlong
    have hmax := lengthField_le l1 l2
    constructor
    · intro n hn
      rw [readFromATSocketAsks_eq, if_neg (by omega)] at hn
      split at hn
      · cases hn
      · cases hn
        omega
    · intro n hn
      rw [readFromAtSocketAsks_eq] at hn
      split at hn
      · cases hn
      · cases hn
        omega

/-- The length field 3: the server asks for `2^32 - 1` bytes. -/
theorem header_not_asksInBounds : ¬ AsksInBounds '\x00' '\x03' :=
  not_asksInBounds (by decide)

/-! ## The length of an answer -/

/-- What the client makes of a stream: the byte of the type, the string in its buffer and the
    stream behind the frame. -/
def readReply (buffer : Nat → Char) (stream : CString) : Option (Char × CString × CString) := do
  let (type, buffer, rest) ← readFromAtSocket buffer maxSize stream
  let text ← stringAt buffer 0
  return (type, text, rest)

/-- The length in the header of a frame. -/
def announced : CString → Option Nat
  | _ :: _ :: l1 :: l2 :: _ => some (lengthField l1 l2)
  | _ => none

/-- The answer to a command stays in `resultBuff`, its frame carries its own length, and the client
    finds the type and the lines in it, from whatever the arrays of both sides held. -/
def Decodes (o : Outcome) : Prop :=
  ∃ text, o.text = some text ∧ ∀ resultBuff clientBuffer rest,
    let reply : Reply := ⟨if o.response.success then .ok else .error, text⟩
    (processMessage o resultBuff).bind (fun r => (stringAt r.2 0).map (Reply.mk r.1)) = some reply ∧
    announced (writeToAtSocket reply) = some (writeToAtSocket reply).length ∧
    readReply clientBuffer (writeToAtSocket reply ++ rest) = some (reply.type.toByte, text, rest)

theorem length_writeToAtSocket (r : Reply) : (writeToAtSocket r).length = r.text.length + 6 := by
  simp [writeToAtSocket, frameMark]

/-- The header of an answer. -/
theorem announced_writeToAtSocket (r : Reply) :
    announced (writeToAtSocket r) = some ((r.text.length + 6) % 65536) := by
  show some (lengthField (uchar ((r.text.length + 1 + 5) / 256)) (uchar (r.text.length + 1 + 5))) = _
  rw [lengthField, toNat_uchar, toNat_uchar]
  congr 1
  omega

/-- The client reads an answer whose length is its own. -/
theorem readReply_writeToAtSocket (clientBuffer : Nat → Char) {r : Reply} (rest : CString)
    (htext : nul ∉ r.text) (hsize : r.text.length + 6 ≤ maxSize) :
    readReply clientBuffer (writeToAtSocket r ++ rest) = some (r.type.toByte, r.text, rest) := by
  have hheader := announced_writeToAtSocket r
  have hframe : writeToAtSocket r ++ rest = '\x03' :: '\x00' ::
      uchar ((r.text.length + 1 + 5) / 256) :: uchar (r.text.length + 1 + 5) :: r.type.toByte ::
      (r.text ++ [nul] ++ rest) := by
    rw [writeToAtSocket, frameMark]
    simp
  have hasks : readFromAtSocketAsks maxSize (uchar ((r.text.length + 1 + 5) / 256))
      (uchar (r.text.length + 1 + 5)) = some (r.text ++ [nul]).length := by
    have hfield : lengthField (uchar ((r.text.length + 1 + 5) / 256))
        (uchar (r.text.length + 1 + 5)) = (r.text.length + 6) % 65536 := Option.some.inj hheader
    rw [maxSize] at hsize
    rw [readFromAtSocketAsks_eq, hfield, if_neg (by omega), List.length_append,
      List.length_singleton]
    congr 1
    omega
  have hfound : stringAt (blit clientBuffer 0 (r.text ++ [nul])) 0 = some r.text :=
    stringAt_of_holds (holds_blit clientBuffer 0 _) htext (by omega)
  rw [readReply, hframe, readFromAtSocket,
    if_pos (show ['\x03', '\x00'] = frameMark from rfl), hasks]
  simp only [Option.bind_eq_bind, Option.bind_some, List.take_left, List.drop_left, if_true, pure,
    hfound]

theorem not_mem_joinLines {lines : List CString} (hlines : ∀ line ∈ lines, nul ∉ line)
    (len : Nat) : nul ∉ joinLines lines len := by
  induction lines generalizing len with
  | nil => simp [joinLines]
  | cons line lines ih =>
    rw [List.forall_mem_cons] at hlines
    rw [joinLines]
    split
    · have hend : nul ∉ ['\n', '\r'] := by decide
      simp only [List.mem_append, not_or]
      exact ⟨⟨hlines.1, hend⟩, ih hlines.2 _⟩
    · exact ih hlines.2 len

/-- The answer is right in `resultBuff` as long as its terminator is in it. -/
theorem decodes_iff_of_text {o : Outcome} {text : CString} (herr : o.err = 0) (htext : o.text = some text)
    (hnul : nul ∉ text) : Decodes o ↔ text.length + 6 ≤ maxSize := by
  have hanswer : o.answer text = ⟨if o.response.success then .ok else .error, text⟩ := by
    rw [Outcome.answer, List.takeWhile_eq_self_iff.mpr]
    intro c hc
    simpa using fun heq : c = nul => hnul (heq ▸ hc)
  have hran := fun resultBuff => processMessage_ran herr resultBuff
  simp only [htext, Option.bind_some, hanswer] at hran
  constructor
  · rintro ⟨text', htext', h⟩
    cases htext.symm.trans htext'
    obtain ⟨-, hframe, -⟩ := h (fun _ => nul) (fun _ => nul) []
    -- the length that the frame carries is less than 65536
    rw [announced_writeToAtSocket, length_writeToAtSocket] at hframe
    have hlength := Option.some.inj hframe
    dsimp only at hlength
    rw [maxSize]
    omega
  · intro hsize
    refine ⟨text, htext, ?_⟩
    intro resultBuff clientBuffer rest
    refine ⟨?_, ?_, readReply_writeToAtSocket clientBuffer rest hnul hsize⟩
    · rw [hran, if_pos (by omega)]
    · rw [announced_writeToAtSocket, length_writeToAtSocket]
      rw [maxSize] at hsize
      congr 1
      exact Nat.mod_eq_of_lt (by dsimp only; omega)

/-- The answer to a command that has run is right exactly when the lines that fit and the final
    line have at most 65529 bytes: six are for the header and the terminator. -/
theorem decodes_iff {o : Outcome} {final : CString} (herr : o.err = 0)
    (hfinal : o.response.finalResponse = some final)
    (hlines : ∀ line ∈ o.response.intermediates, nul ∉ line) (hnul : nul ∉ final) :
    Decodes o ↔ (joinLines o.response.intermediates 0).length + final.length + 6 ≤ maxSize := by
  have htext : o.text = some (joinLines o.response.intermediates 0 ++ final) := by
    rw [Outcome.text, hfinal, Option.map_some]
  rw [decodes_iff_of_text herr htext, List.length_append]
  rw [List.mem_append, not_or]
  exact ⟨not_mem_joinLines hlines 0, hnul⟩

theorem decodes_iff_signal :
    Decodes ⟨0, ⟨true, some "OK", ["+CSQ: 21,99"]⟩⟩ :=
  (decodes_iff rfl rfl (by decide) (by decide)).mpr (by decide)

/-- Lines that fit together. -/
theorem length_joinLines {lines : List CString} {len : Nat}
    (h : len + (lines.map fun line => line.length + 2).sum + 1 ≤ maxSize) :
    (joinLines lines len).length = (lines.map fun line => line.length + 2).sum := by
  induction lines generalizing len with
  | nil => rfl
  | cons line lines ih =>
    rw [List.map_cons, List.sum_cons] at h
    rw [joinLines, if_pos (by omega), List.map_cons, List.sum_cons, List.length_append, ih (by omega)]
    simp

/-- Seven lines of 8190 bytes, as long as the channel reads them, and one that fits behind them. -/
def fullLines : List CString :=
  List.replicate 7 (List.replicate 8190 'A') ++ [List.replicate 8187 'A']

/-- The terminator of the final line is copied behind the end of `resultBuff`. -/
theorem full_not_decodes : ¬ Decodes ⟨0, ⟨true, some "OK", fullLines⟩⟩ := by
  have hlines : ∀ line ∈ fullLines, nul ∉ line := by
    intro line hline hnul
    simp only [fullLines, List.mem_append, List.mem_singleton] at hline
    rcases hline with hline | rfl
    · rw [(List.mem_replicate.mp hline).2] at hnul
      exact absurd (List.mem_replicate.mp hnul).2 (by decide)
    · exact absurd (List.mem_replicate.mp hnul).2 (by decide)
  have hsum : (fullLines.map fun line => line.length + 2).sum = 65533 := by
    simp only [fullLines, List.map_append, List.map_replicate, List.map_cons, List.map_nil,
      List.length_replicate, List.sum_append, List.sum_replicate_nat, List.sum_cons, List.sum_nil]
    rfl
  have hlength : (joinLines fullLines 0).length = 65533 := by
    rw [length_joinLines (by rw [hsum, maxSize]; omega), hsum]
  have hnul : nul ∉ joinLines fullLines 0 ++ ("OK" : CString) := by
    rw [List.mem_append, not_or]
    exact ⟨not_mem_joinLines hlines 0, by decide⟩
  rw [decodes_iff_of_text rfl rfl hnul, List.length_append, hlength, maxSize]
  simp

end AndroidPatch.Ril.Altair.AtSocket
