import AndroidPatch.Ril.Altair.AtSocket

/-!
# The frames of the AT socket

What the client writes is read by the server and split into the same strings, unless it is shorter
than the length that `readFromATSocket` asks of a payload.
-/

namespace AndroidPatch.Ril.Altair.AtSocket

/-! ## Strings in an array -/

section Strings

variable {buffer : Nat → Char} {i : Nat} {s : CString}

/-- A terminator anywhere behind bounds the string. -/
theorem stringAt_of_nul {j : Nat} (hij : i ≤ j) (hj : j < maxSize) (hnul : buffer j = nul) :
    stringAt buffer i = some ((slice buffer i j).takeWhile (· != nul)) := by
  rw [stringAt, scan_eq_some hij (by rw [hnul]; rfl) (by omega), Option.map_some,
    slice_takeWhile _ _ hij]

theorem stringAt_of_holds (h : Holds buffer i (s ++ [nul])) (hs : nul ∉ s)
    (hsize : i + s.length < maxSize) : stringAt buffer i = some s := by
  rw [holds_append] at h
  rw [stringAt_of_nul (Nat.le_add_right i s.length) hsize h.2.1, holds_iff_slice.mp h.1,
    List.takeWhile_eq_self_iff.mpr]
  intro c hc
  simpa using fun hnul : c = nul => hs (hnul ▸ hc)

end Strings

/-! ## A frame -/

/-- The strings of a frame. -/
def payload (atCmd : CString) (atCmdPrefix : Option CString) : CString :=
  atCmd ++ [nul] ++ match atCmdPrefix with
    | some p => p ++ [nul]
    | none => []

/-- A frame around a payload. -/
def frame (p : CString) : CString :=
  frameMark ++ [uchar ((4 + p.length) / 256), uchar (4 + p.length)] ++ p

theorem length_payload (atCmd : CString) (atCmdPrefix : Option CString) :
    (payload atCmd atCmdPrefix).length = payloadSize atCmd atCmdPrefix := by
  cases atCmdPrefix with
  | none => simp [payload, payloadSize]
  | some p =>
    simp [payload, payloadSize]
    omega

/-- The copies of the client are one behind the other. -/
theorem writeToATSocket_eq (buffer : Nat → Char) (atCmd : CString) (atCmdPrefix : Option CString) :
    writeToATSocket buffer atCmd atCmdPrefix = frame (payload atCmd atCmdPrefix) := by
  unfold writeToATSocket
  dsimp only
  generalize hhead : frameMark ++ [uchar ((4 + payloadSize atCmd atCmdPrefix) / 256),
    uchar (4 + payloadSize atCmd atCmdPrefix)] = head
  have hlen : head.length = 4 := by
    rw [← hhead]
    rfl
  have hframe : frame (payload atCmd atCmdPrefix) = head ++ payload atCmd atCmdPrefix := by
    rw [frame, length_payload, hhead]
  have hsize : 4 + payloadSize atCmd atCmdPrefix = 0 + (head ++ payload atCmd atCmdPrefix).length := by
    rw [List.length_append, length_payload, hlen]
    omega
  have hcopies : ∀ xs ys : CString, blit (blit buffer 0 head) 4 xs = blit buffer 0 (head ++ xs) ∧
      blit (blit buffer 0 (head ++ xs)) (4 + xs.length) ys = blit buffer 0 (head ++ (xs ++ ys)) := by
    intro xs ys
    constructor
    · rw [← blit_append, hlen]
    · rw [← List.append_assoc, ← blit_append buffer 0 (head ++ xs), List.length_append, hlen,
        Nat.zero_add]
  rw [hframe, hsize]
  cases atCmdPrefix with
  | none =>
    dsimp only
    rw [(hcopies (atCmd ++ [nul]) []).1, payload, List.append_nil]
    exact slice_blit buffer 0 _
  | some p =>
    have hplace : 5 + atCmd.length = 4 + (atCmd ++ [nul]).length := by
      rw [List.length_append, List.length_singleton]
      omega
    dsimp only
    rw [(hcopies (atCmd ++ [nul]) []).1, hplace, (hcopies (atCmd ++ [nul]) (p ++ [nul])).2]
    exact slice_blit buffer 0 (head ++ payload atCmd (some p))

theorem toNat_uchar (n : Nat) : (uchar n).toNat = n % 256 := by
  have hvalid : (n % 256).isValidChar := .inl (by omega)
  rw [uchar, Char.ofNat, dif_pos hvalid]
  rfl

/-- The number in the length bytes of the client. -/
theorem lengthField_uchar {n : Nat} (h : n ≤ 65535) : lengthField (uchar (n / 256)) (uchar n) = n := by
  rw [lengthField, toNat_uchar, toNat_uchar]
  omega

theorem lengthField_le (l1 l2 : Char) : lengthField l1 l2 ≤ maxSize := by
  rw [lengthField, maxSize]
  omega

/-- The server asks for what the header announces behind itself; four bytes are too few, and a
    negative number is one near `2^32`. -/
theorem readFromATSocketAsks_eq (l1 l2 : Char) :
    readFromATSocketAsks l1 l2 =
      if lengthField l1 l2 < 4 then some (lengthField l1 l2 + 0xfffffffc)
      else if lengthField l1 l2 < 8 then none else some (lengthField l1 l2 - 4) := by
  have hmax := lengthField_le l1 l2
  rw [maxSize] at hmax
  rw [readFromATSocketAsks]
  generalize lengthField l1 l2 = n at hmax ⊢
  have hsize : sizeT (n - 4) = if n < 4 then n + 0xfffffffc else n - 4 := by
    rw [sizeT]
    split <;> omega
  simp only [hsize]
  by_cases hshort : n < 4
  · simp only [if_pos hshort]
    exact if_pos (by omega)
  · simp only [if_neg hshort]
    split <;> split <;> first | rfl | omega

/-- The lengths of a header with which a frame is accepted: 3 is one of them, since the failed read
    gives as many bytes as it has been asked for. -/
def Accepted (l1 l2 : Char) : Prop := lengthField l1 l2 = 3 ∨ 8 ≤ lengthField l1 l2

instance (l1 l2 : Char) : Decidable (Accepted l1 l2) := by
  unfold Accepted
  infer_instance

/-- The length that `atSocketMainLoop` goes by. -/
def acceptedSize (l1 l2 : Char) : Nat :=
  if lengthField l1 l2 = 3 then 0xffffffff else lengthField l1 l2 - 4

/-- A read of more than `SSIZE_MAX` bytes. -/
theorem readSocket_fails {n : Nat} (stream : CString) (h : 0x7fffffff < n) :
    readSocket n stream = (-1, [], stream) := by
  rw [readSocket, if_pos h]

theorem readSocket_append {p : CString} (rest : CString) (h : p.length ≤ 0x7fffffff) :
    readSocket p.length (p ++ rest) = ((p.length : Int), p, rest) := by
  rw [readSocket, if_neg (by omega), List.take_left, List.drop_left]

/-- What becomes of a frame whose payload is all there. -/
theorem readFromATSocket_header (buffer : Nat → Char) {l1 l2 : Char} {p : CString} (rest : CString)
    (hp : p.length = lengthField l1 l2 - 4) :
    readFromATSocket buffer (frameMark ++ l1 :: l2 :: (p ++ rest)) =
      if Accepted l1 l2 then .payload (acceptedSize l1 l2) (blit buffer 0 p) rest
      else .closed buffer := by
  have hmax := lengthField_le l1 l2
  rw [maxSize] at hmax
  show readFromATSocket buffer ('\x03' :: '\x00' :: l1 :: l2 :: (p ++ rest)) = _
  rw [readFromATSocket, if_pos (show ['\x03', '\x00'] = frameMark from rfl),
    readFromATSocketAsks_eq]
  by_cases hheader : lengthField l1 l2 < 4
  · rw [if_pos hheader]
    have hnil : p = [] := List.length_eq_zero_iff.mp (by omega)
    obtain ⟨size, hsize⟩ : ∃ size, lengthField l1 l2 + 0xfffffffc = size := ⟨_, rfl⟩
    have hresult : sizeT (-1) = 0xffffffff := by
      rw [sizeT]
      omega
    rw [hsize, hnil]
    dsimp only
    rw [readSocket_fails _ (by omega), hresult, List.nil_append]
    dsimp only
    by_cases hthree : lengthField l1 l2 = 3
    · rw [if_pos (show Accepted l1 l2 from .inl hthree), acceptedSize, if_pos hthree,
        if_pos (by omega)]
      congr 1
      omega
    · rw [if_neg (show ¬ Accepted l1 l2 from fun h => h.elim hthree (by omega)),
        if_neg (by omega), blit_nil]
  · rw [if_neg hheader]
    by_cases hshort : lengthField l1 l2 < 8
    · rw [if_pos hshort, if_neg (show ¬ Accepted l1 l2 from fun h => h.elim (by omega) (by omega))]
    · have hresult : sizeT p.length = p.length := by
        rw [sizeT]
        omega
      rw [if_neg hshort, if_pos (show Accepted l1 l2 from .inr (by omega)), acceptedSize,
        if_neg (show lengthField l1 l2 ≠ 3 by omega), ← hp]
      dsimp only
      rw [readSocket_append rest (by omega)]
      dsimp only
      rw [if_pos hresult]

/-- A frame whose payload has at least four bytes is accepted, and nothing behind it is read. -/
theorem readFromATSocket_frame (buffer : Nat → Char) {p : CString} (rest : CString)
    (hmax : p.length ≤ 65531) :
    readFromATSocket buffer (frame p ++ rest) =
      if 4 ≤ p.length then .payload p.length (blit buffer 0 p) rest else .closed buffer := by
  have hfield := lengthField_uchar (show 4 + p.length ≤ 65535 by omega)
  have hsize : acceptedSize (uchar ((4 + p.length) / 256)) (uchar (4 + p.length)) = p.length := by
    rw [acceptedSize, hfield, if_neg (by omega)]
    omega
  have hhead := readFromATSocket_header buffer rest
    (show p.length = lengthField (uchar ((4 + p.length) / 256)) (uchar (4 + p.length)) - 4 by
      rw [hfield]; omega)
  rw [hsize] at hhead
  have hframe : frame p ++ rest = frameMark ++ uchar ((4 + p.length) / 256) ::
      uchar (4 + p.length) :: (p ++ rest) := by
    rw [frame, List.append_assoc, List.append_assoc]
    rfl
  have haccepted : Accepted (uchar ((4 + p.length) / 256)) (uchar (4 + p.length)) ↔
      4 ≤ p.length := by
    unfold Accepted
    rw [hfield]
    omega
  rw [hframe, hhead]
  by_cases hlong : 4 ≤ p.length
  · rw [if_pos (haccepted.mpr hlong), if_pos hlong]
  · rw [if_neg (hlong ∘ haccepted.mp), if_neg hlong]

/-! ## The strings of a payload -/

/-- The strings are found, whatever the array held before. -/
theorem splitPayload_payload (buffer : Nat → Char) {atCmd : CString} {atCmdPrefix : Option CString}
    (hcmd : nul ∉ atCmd) (hpfx : ∀ p ∈ atCmdPrefix, nul ∉ p)
    (hmax : payloadSize atCmd atCmdPrefix ≤ 65531) :
    splitPayload (blit buffer 0 (payload atCmd atCmdPrefix)) (payloadSize atCmd atCmdPrefix) =
      some (atCmd, atCmdPrefix) := by
  have hholds := holds_blit buffer 0 (payload atCmd atCmdPrefix)
  generalize blit buffer 0 (payload atCmd atCmdPrefix) = buff at hholds ⊢
  unfold payload at hholds
  rw [holds_append] at hholds
  have hmessage : stringAt buff 0 = some atCmd := by
    apply stringAt_of_holds hholds.1 hcmd
    unfold payloadSize at hmax
    rw [maxSize]
    omega
  unfold splitPayload
  rw [hmessage]
  cases atCmdPrefix with
  | none => simp [payloadSize]
  | some p =>
    have hfound : stringAt buff (atCmd.length + 1) = some p := by
      have hplace := hholds.2
      rw [List.length_append, List.length_singleton, Nat.zero_add] at hplace
      apply stringAt_of_holds hplace (hpfx p rfl)
      simp only [payloadSize] at hmax
      rw [maxSize]
      omega
    have hlonger : atCmd.length + 1 < payloadSize atCmd (some p) := by
      simp only [payloadSize]
      omega
    simp only [Option.bind_eq_bind, Option.bind_some, hfound, if_pos hlonger]
    rfl

/-! ## The round trip -/

/-- The request that the server finds at the front of a stream, and the stream behind it. -/
def receive (buffer : Nat → Char) (stream : CString) :
    Option ((CString × Option CString) × CString) :=
  match readFromATSocket buffer stream with
  | .payload len buff rest => (splitPayload buff len).map fun request => (request, rest)
  | _ => none

/-- A request of the client arrives as it was sent, from whatever the arrays of both sides held,
    and the next frame is read from its first byte. -/
def Arrives (atCmd : CString) (atCmdPrefix : Option CString) : Prop :=
  ∀ (clientBuffer buff : Nat → Char) (rest : CString),
    receive buff (writeToATSocket clientBuffer atCmd atCmdPrefix ++ rest) =
      some ((atCmd, atCmdPrefix), rest)

theorem receive_writeToATSocket (clientBuffer buff : Nat → Char) (rest : CString)
    {atCmd : CString} {atCmdPrefix : Option CString} (hcmd : nul ∉ atCmd)
    (hpfx : ∀ p ∈ atCmdPrefix, nul ∉ p) (hmax : payloadSize atCmd atCmdPrefix ≤ 65531) :
    receive buff (writeToATSocket clientBuffer atCmd atCmdPrefix ++ rest) =
      if 4 ≤ payloadSize atCmd atCmdPrefix then some ((atCmd, atCmdPrefix), rest) else none := by
  rw [receive, writeToATSocket_eq, readFromATSocket_frame buff rest (by rwa [length_payload]),
    length_payload]
  by_cases hshort : 4 ≤ payloadSize atCmd atCmdPrefix
  · simp only [if_pos hshort, splitPayload_payload buff hcmd hpfx hmax, Option.map_some]
  · simp only [if_neg hshort]

/-- A request whose frame has at most 65535 bytes arrives if and only if its strings have four
    bytes at least, with their terminators. -/
theorem arrives_iff {atCmd : CString} {atCmdPrefix : Option CString} (hcmd : nul ∉ atCmd)
    (hpfx : ∀ p ∈ atCmdPrefix, nul ∉ p) (hmax : 4 + payloadSize atCmd atCmdPrefix ≤ 65535) :
    Arrives atCmd atCmdPrefix ↔ 4 ≤ payloadSize atCmd atCmdPrefix := by
  have hreceive := fun clientBuffer buff rest => @receive_writeToATSocket clientBuffer buff rest
    atCmd atCmdPrefix hcmd hpfx (by omega)
  constructor
  · intro h
    by_contra hshort
    have hnone := hreceive (fun _ => nul) (fun _ => nul) []
    rw [h, if_neg hshort] at hnone
    cases hnone
  · intro hlong clientBuffer buff rest
    rw [hreceive, if_pos hlong]

theorem arrives_iff_signal : Arrives "AT+CSQ" (some "+CSQ:") :=
  (arrives_iff (by decide) (by decide) (by decide)).mpr (by decide)

/-- The command `AT` alone. -/
theorem at_not_arrives : ¬ Arrives "AT" none := by
  intro h
  have hreceive := @receive_writeToATSocket (fun _ => nul) (fun _ => nul) [] "AT" none (by decide)
    (by decide) (by decide)
  rw [h, if_neg (by decide)] at hreceive
  cases hreceive

end AndroidPatch.Ril.Altair.AtSocket
