import AndroidPatch.Ril.Altair.Proofs.AtSocketFraming

/-!
# What an answer of the AT socket depends on

The answer to a request after two histories of the same connection. `processMessage` writes the
text of an answer if the command has run, and else leaves the text of the answer before; a string
of a payload that has no terminator ends where an earlier request has left one, or nowhere.
-/

namespace AndroidPatch.Ril.Altair.AtSocket

open AtChannel

/-! ## The text of an answer -/

/-- The lines that fit behind `len` bytes. -/
def joinLines : List CString → (len : Nat) → CString
  | [], _ => []
  | line :: lines, len =>
      if len + line.length + 3 ≤ maxSize then
        line ++ ['\n', '\r'] ++ joinLines lines (len + line.length + 2)
      else joinLines lines len

/-- The lines that fit and the final line. -/
def Outcome.text (o : Outcome) : Option CString :=
  o.response.finalResponse.map fun final => joinLines o.response.intermediates 0 ++ final

/-- The final line is there and fits behind the lines. -/
def Outcome.Fits (o : Outcome) : Prop := ∃ text, o.text = some text ∧ text.length + 1 ≤ maxSize

/-- The answer to a command that has run. -/
def Outcome.answer (o : Outcome) (text : CString) : Reply :=
  ⟨if o.response.success then .ok else .error, text.takeWhile (· != nul)⟩

theorem appendLines_eq (lines : List CString) (buff : Nat → Char) (len : Nat) :
    appendLines lines buff len =
      (blit buff len (joinLines lines len), len + (joinLines lines len).length) := by
  induction lines generalizing buff len with
  | nil => simp [appendLines, joinLines]
  | cons line lines ih =>
    unfold appendLines joinLines
    split
    · have hplace : len + line.length + 2 = len + (line ++ ['\n', '\r']).length := by
        rw [List.length_append, Nat.add_assoc]
        rfl
      rw [ih, hplace, blit_append, Nat.add_assoc, ← List.length_append]
    · exact ih buff len

/-- If the command has run, the answer is its own. -/
theorem processMessage_ran {o : Outcome} (herr : o.err = 0) (buff : Nat → Char) :
    (processMessage o buff).bind (fun r => (stringAt r.2 0).map (Reply.mk r.1)) =
      o.text.bind fun text =>
        if text.length + 1 ≤ maxSize then some (o.answer text) else none := by
  unfold processMessage Outcome.text
  rw [if_pos herr, appendLines_eq]
  cases hfinal : o.response.finalResponse with
  | none => rfl
  | some final =>
    have hlen : 0 + (joinLines o.response.intermediates 0).length + final.length + 1 =
        (joinLines o.response.intermediates 0 ++ final).length + 1 := by
      rw [List.length_append, Nat.zero_add]
    simp only [Option.bind_eq_bind, Option.bind_some, Option.map_some, hlen, blit_append]
    split
    · rename_i hfits
      have hholds := holds_blit buff 0 (joinLines o.response.intermediates 0 ++ (final ++ [nul]))
      rw [← List.append_assoc] at hholds ⊢
      rw [holds_append, Nat.zero_add] at hholds
      have hslice := holds_iff_slice.mp hholds.1
      rw [Nat.zero_add] at hslice
      simp only [pure, Option.bind_some]
      rw [stringAt_of_nul (Nat.zero_le _) (by omega) hholds.2.1, hslice]
      rfl
    · rfl

/-! ## One turn -/

/-- The answer to a frame with the length bytes `l1` and `l2` and the payload `p`, if it gets one. -/
def replyTo (b : Buffers) (l1 l2 : Char) (p : CString) (outcomes : List Outcome) : Option Reply :=
  match serve b (frameMark ++ l1 :: l2 :: p) outcomes with
  | .answered _ _ reply _ _ => some reply
  | _ => none

section Turn

variable {l1 l2 : Char} {p : CString} {outcomes : List Outcome} {o : Outcome}

/-- A request is answered if its strings end in the array and the text of the answer does. -/
theorem replyTo_eq (hp : p.length = lengthField l1 l2 - 4) (hframe : Accepted l1 l2) (b : Buffers)
    (hsent : sendCommand outcomes = some o) :
    replyTo b l1 l2 p outcomes =
      (splitPayload (blit b.buff 0 p) (acceptedSize l1 l2)).bind fun _ =>
        (processMessage o b.resultBuff).bind fun r => (stringAt r.2 0).map (Reply.mk r.1) := by
  have hread := readFromATSocket_header b.buff [] hp
  rw [if_pos hframe, List.append_nil] at hread
  unfold replyTo serve
  rw [hread]
  dsimp only
  cases splitPayload (blit b.buff 0 p) (acceptedSize l1 l2) with
  | none => rfl
  | some request =>
    rw [hsent]
    dsimp only
    cases processMessage o b.resultBuff with
    | none => rfl
    | some r =>
      dsimp only
      cases hfound : stringAt r.2 0 with
      | none => simp [hfound]
      | some text => simp [hfound]

theorem replyTo_rejected (hp : p.length = lengthField l1 l2 - 4) (hframe : ¬ Accepted l1 l2)
    (b : Buffers) : replyTo b l1 l2 p outcomes = none := by
  have hread := readFromATSocket_header b.buff [] hp
  rw [if_neg hframe, List.append_nil] at hread
  unfold replyTo serve
  rw [hread]

theorem replyTo_none (b : Buffers) (hsent : sendCommand outcomes = none) :
    replyTo b l1 l2 p outcomes = none := by
  unfold replyTo serve
  rw [hsent]
  cases readFromATSocket b.buff (frameMark ++ l1 :: l2 :: p) with
  | closed buff => rfl
  | payload len buff rest =>
    dsimp only
    cases splitPayload buff len <;> rfl

end Turn

/-! ## The strings of a request -/

/-- Every string of the payload that the server looks at has its terminator in it. -/
def Terminated (p : CString) : Prop :=
  match p.dropWhile (· != nul) with
  | [] => False
  | _ :: rest => rest = [] ∨ nul ∈ rest

instance (p : CString) : Decidable (Terminated p) := by
  unfold Terminated
  split <;> infer_instance

section Strings

variable {p : CString} {buff : Nat → Char}

/-- A payload with a terminator is a string and what follows it. -/
theorem terminated_split {rest : CString} {c : Char}
    (h : p.dropWhile (· != nul) = c :: rest) :
    p = p.takeWhile (· != nul) ++ nul :: rest ∧ nul ∉ p.takeWhile (· != nul) := by
  have hc : c = nul := by
    have hhead := List.head?_dropWhile_not (· != nul) p
    rw [h] at hhead
    simpa using hhead
  subst hc
  constructor
  · rw [← h]
    exact List.takeWhile_append_dropWhile.symm
  · intro hmem
    have hpass := List.mem_takeWhile_imp hmem
    simp at hpass

/-- What is found in a payload with its terminators does not depend on what was there before. -/
theorem splitPayload_of_terminated (h : Terminated p) (hmax : p.length ≤ 65531) :
    ∃ request, ∀ buff, splitPayload (blit buff 0 p) p.length = some request := by
  unfold Terminated at h
  cases hdrop : p.dropWhile (· != nul) with
  | nil =>
    rw [hdrop] at h
    exact h.elim
  | cons c rest =>
    rw [hdrop] at h
    obtain ⟨hp, hmessage⟩ := terminated_split hdrop
    generalize p.takeWhile (· != nul) = message at hp hmessage
    subst hp
    rw [List.length_append, List.length_cons] at hmax
    have hfirst : ∀ buff, stringAt (blit buff 0 (message ++ nul :: rest)) 0 = some message := by
      intro buff
      have hholds := holds_blit buff 0 (message ++ nul :: rest)
      rw [List.append_cons, holds_append] at hholds
      rw [List.append_cons]
      exact stringAt_of_holds hholds.1 hmessage (by rw [maxSize]; omega)
    rcases h with rfl | hrest
    · refine ⟨(message, none), ?_⟩
      intro buff
      unfold splitPayload
      rw [hfirst]
      simp
    · have hsecond : ∃ q r, rest = q ++ nul :: r ∧ nul ∉ q := by
        have hne : rest.dropWhile (· != nul) ≠ [] := by
          intro hnil
          rw [List.dropWhile_eq_nil_iff] at hnil
          simpa using hnil nul hrest
        obtain ⟨c', r, hr⟩ := List.exists_cons_of_ne_nil hne
        exact ⟨_, r, terminated_split hr⟩
      obtain ⟨q, r, rfl, hq⟩ := hsecond
      refine ⟨(message, some q), ?_⟩
      intro buff
      have hplace : stringAt (blit buff 0 (message ++ nul :: (q ++ nul :: r)))
          (message.length + 1) = some q := by
        have hholds := holds_blit buff 0 (message ++ nul :: (q ++ nul :: r))
        rw [List.append_cons, List.append_cons q, holds_append, List.length_append,
          List.length_singleton, Nat.zero_add] at hholds
        rw [List.append_cons message, List.append_cons q]
        rw [List.length_append] at hmax
        exact stringAt_of_holds (holds_append.mp hholds.2).1 hq (by rw [maxSize]; omega)
      unfold splitPayload
      rw [hfirst]
      simp only [Option.bind_eq_bind, Option.bind_some, hplace]
      rw [if_pos (by simp only [List.length_append, List.length_cons]; omega)]
      rfl

/-- Two terminators are enough, whatever the length. -/
theorem splitPayload_of_nuls {j k : Nat} (hjk : j < k) (hk : k < maxSize) (hj : buff j = nul)
    (hnul : buff k = nul) (len : Nat) : ∃ request, splitPayload buff len = some request := by
  have hmessage : ((slice buff 0 j).takeWhile (· != nul)).length ≤ j :=
    length_takeWhile_slice_le _ _ _ _
  unfold splitPayload
  rw [stringAt_of_nul (Nat.zero_le j) (by omega) hj]
  simp only [Option.bind_eq_bind, Option.bind_some]
  generalize (slice buff 0 j).takeWhile (· != nul) = message at hmessage ⊢
  split
  · rw [stringAt_of_nul (by omega) hk hnul]
    exact ⟨_, rfl⟩
  · exact ⟨_, rfl⟩

/-- With a terminator behind the payload its strings end somewhere. -/
theorem splitPayload_of_nul {len j : Nat} (hj : j < maxSize) (hlen : len ≤ j)
    (hnul : buff j = nul) : ∃ request, splitPayload buff len = some request := by
  unfold splitPayload
  rw [stringAt_of_nul (Nat.zero_le j) hj hnul]
  simp only [Option.bind_eq_bind, Option.bind_some]
  generalize (slice buff 0 j).takeWhile (· != nul) = message
  split
  · rename_i hshort
    rw [stringAt_of_nul (by omega) hj hnul]
    exact ⟨_, rfl⟩
  · exact ⟨_, rfl⟩

theorem blit_ne_nul {i : Nat} (hbuff : ∀ k, buff k ≠ nul) {message rest : CString}
    (hp : p = message ++ rest) (hrest : nul ∉ rest) (hi : message.length ≤ i) :
    (blit buff 0 p i != nul) = true := by
  rw [hp, ← blit_append, Nat.zero_add]
  have hcell : blit (blit buff 0 message) message.length rest i ≠ nul := by
    rcases Nat.lt_or_ge i (message.length + rest.length) with hin | hout
    · have hlt : i - message.length < rest.length := by omega
      have hget : blit (blit buff 0 message) message.length rest i = rest[i - message.length] := by
        rw [blit, if_pos hi, List.getD_eq_getElem?_getD, List.getElem?_eq_getElem hlt,
          Option.getD_some]
      rw [hget]
      exact fun hnul => hrest (hnul ▸ List.getElem_mem _)
    · rw [blit_of_le hout, blit_of_le (by omega)]
      exact hbuff i
  simpa using hcell

/-- Without its terminators it has none to be found in an array without any. -/
theorem splitPayload_none (h : ¬ Terminated p) (hmax : p.length ≤ 65531) {len : Nat}
    (hlen : p.length ≤ len) (hbuff : ∀ k, buff k ≠ nul) :
    splitPayload (blit buff 0 p) len = none := by
  unfold Terminated at h
  cases hdrop : p.dropWhile (· != nul) with
  | nil =>
    rw [List.dropWhile_eq_nil_iff] at hdrop
    have hnone : nul ∉ p := fun hmem => by simpa using hdrop nul hmem
    have hmessage : stringAt (blit buff 0 p) 0 = none := by
      rw [stringAt, scan_eq_none, Option.map_none]
      intro k hk _
      exact blit_ne_nul hbuff (List.nil_append p).symm hnone (Nat.zero_le k)
    unfold splitPayload
    rw [hmessage]
    rfl
  | cons c rest =>
    rw [hdrop, not_or] at h
    obtain ⟨hne, hrest⟩ := h
    obtain ⟨hp, hmessage⟩ := terminated_split hdrop
    generalize p.takeWhile (· != nul) = message at hp hmessage
    have hsum : p.length = message.length + 1 + rest.length := by
      rw [hp, List.length_append, List.length_cons]
      omega
    have hpos : 0 < rest.length := List.length_pos_iff.mpr hne
    rw [List.append_cons] at hp
    have hfirst : stringAt (blit buff 0 p) 0 = some message := by
      have hholds := holds_blit buff 0 p
      rw [hp, holds_append] at hholds
      rw [hp]
      exact stringAt_of_holds hholds.1 hmessage (by rw [maxSize]; omega)
    have hsecond : stringAt (blit buff 0 p) (message.length + 1) = none := by
      rw [stringAt, scan_eq_none, Option.map_none]
      intro k hk _
      exact blit_ne_nul hbuff hp hrest (by rw [List.length_append]; exact hk)
    unfold splitPayload
    rw [hfirst]
    simp only [Option.bind_eq_bind, Option.bind_some, hsecond, Option.bind_none]
    rw [if_pos (by omega)]

end Strings

/-! ## Histories -/

section Histories

variable {b b' : Buffers} {l1 l2 : Char} {p : CString} {outcomes : List Outcome}

theorem readFromATSocket_keeps {buffer buff : Nat → Char} {stream rest : CString} {len i : Nat}
    (h : readFromATSocket buffer stream = .payload len buff rest) (hi : 65531 ≤ i) :
    buff i = buffer i := by
  unfold readFromATSocket at h
  split at h
  · rename_i c1 c2 l1 l2 tail
    split at h
    · rw [readFromATSocketAsks_eq] at h
      have hmax := lengthField_le l1 l2
      rw [maxSize] at hmax
      by_cases hheader : lengthField l1 l2 < 4
      · -- nothing is stored by the read
        obtain ⟨size, hsize⟩ : ∃ size, lengthField l1 l2 + 0xfffffffc = size := ⟨_, rfl⟩
        rw [if_pos hheader, hsize] at h
        dsimp only at h
        rw [readSocket_fails _ (by omega)] at h
        split at h
        · cases h
          rw [blit_nil]
        · cases h
      · rw [if_neg hheader] at h
        by_cases hshort : lengthField l1 l2 < 8
        · rw [if_pos hshort] at h
          cases h
        · rw [if_neg hshort] at h
          dsimp only at h
          rw [readSocket, if_neg (show ¬ 0x7fffffff < lengthField l1 l2 - 4 by omega)] at h
          split at h
          · cases h
            have htake := List.length_take_le (lengthField l1 l2 - 4) tail
            apply blit_of_le
            dsimp only
            omega
          · cases h
    · cases h
  · cases h

/-- No request reaches the last four bytes of the array. -/
theorem serveAll_keeps {stream rest : CString} {sent : List (List Outcome)}
    (h : serveAll b stream sent = some (b', rest)) {i : Nat} (hi : 65531 ≤ i) :
    b'.buff i = b.buff i := by
  induction sent generalizing b stream with
  | nil =>
    cases h
    rfl
  | cons outcomes more ih =>
    unfold serveAll at h
    cases hturn : serve b stream outcomes with
    | closed t => rw [hturn] at h; cases h
    | waiting => rw [hturn] at h; cases h
    | fault => rw [hturn] at h; cases h
    | answered command pre reply t tail =>
      rw [hturn] at h
      rw [ih h]
      unfold serve at hturn
      cases hread : readFromATSocket b.buff stream with
      | closed buff => rw [hread] at hturn; cases hturn
      | payload len buff tail' =>
        rw [hread] at hturn
        dsimp only at hturn
        repeat' split at hturn
        all_goals first
          | cases hturn; done
          | cases hturn; exact readFromATSocket_keeps hread hi

/-- The answer to the request is the same after every two histories of a connection. -/
def OwnReply (l1 l2 : Char) (p : CString) (outcomes : List Outcome) : Prop :=
  ∀ (b b1 b2 : Buffers) (past1 past2 : CString) (sent1 sent2 : List (List Outcome)),
    serveAll b past1 sent1 = some (b1, []) → serveAll b past2 sent2 = some (b2, []) →
      replyTo b1 l1 l2 p outcomes = replyTo b2 l1 l2 p outcomes

/-- A command that has run, without lines. -/
def okOutcome : Outcome := ⟨0, ⟨true, some "OK", []⟩⟩

/-- A history of one request. -/
theorem serveAll_one {request : CString × Option CString} (hmin : 4 ≤ p.length)
    (hmax : p.length ≤ 65531) (hsplit : splitPayload (blit b.buff 0 p) p.length = some request) :
    serveAll b (frame p) [[okOutcome]] =
      some (⟨blit b.buff 0 p, blit b.resultBuff 0 ("OK".toList ++ [nul])⟩, []) := by
  have hread := readFromATSocket_frame b.buff [] hmax
  rw [if_pos hmin, List.append_nil] at hread
  have hsent : sendCommand [okOutcome] = some okOutcome := rfl
  have hprocess : processMessage okOutcome b.resultBuff =
      some (.ok, blit b.resultBuff 0 ("OK".toList ++ [nul])) := rfl
  have htext : stringAt (blit b.resultBuff 0 ("OK".toList ++ [nul])) 0 = some "OK".toList :=
    stringAt_of_holds (holds_blit _ _ _) (by decide) (by decide)
  unfold serveAll serve
  rw [hread]
  dsimp only
  rw [hsplit, hsent]
  dsimp only
  rw [hprocess]
  dsimp only
  rw [htext]
  rfl

/-- After a command that has not run the answer has the text that is in the array. -/
theorem replyTo_of_failed {o : Outcome} {text : CString} {request : CString × Option CString}
    (hp : p.length = lengthField l1 l2 - 4) (hframe : Accepted l1 l2)
    (hsent : sendCommand outcomes = some o) (herr : o.err ≠ 0)
    (hsplit : splitPayload (blit b.buff 0 p) (acceptedSize l1 l2) = some request)
    (htext : stringAt b.resultBuff 0 = some text) :
    replyTo b l1 l2 p outcomes = some ⟨.error, text⟩ := by
  rw [replyTo_eq hp hframe b hsent, hsplit, processMessage, if_neg herr]
  simp [htext]

/-- It is the text of the answer before. -/
theorem not_ownReply_of_failed {o : Outcome} (hp : p.length = lengthField l1 l2 - 4)
    (hframe : Accepted l1 l2) (hsent : sendCommand outcomes = some o) (herr : o.err ≠ 0) :
    ¬ OwnReply l1 l2 p outcomes := by
  intro h
  have hmax := lengthField_le l1 l2
  rw [maxSize] at hmax
  let zeros : Buffers := ⟨fun _ => nul, fun _ => nul⟩
  let before : CString := "ATE0".toList ++ [nul]
  -- the strings of every request end in the zeros at the end of the array
  have hlast : ∀ (buff : Nat → Char) (q : CString) (len : Nat), q.length ≤ 65531 →
      buff 65533 = nul → buff 65534 = nul → ∃ request, splitPayload (blit buff 0 q) len = some request := by
    intro buff q len hq hbuff hbuff'
    apply splitPayload_of_nuls (show 65533 < 65534 by decide) (by decide)
    · rw [blit_of_le (by omega)]
      exact hbuff
    · rw [blit_of_le (by omega)]
      exact hbuff'
  obtain ⟨request, hbefore⟩ := hlast zeros.buff before before.length (by decide) rfl rfl
  have hpast := serveAll_one (by decide) (by decide) hbefore
  obtain ⟨request1, hsplit1⟩ := hlast zeros.buff p (acceptedSize l1 l2) (by omega) rfl rfl
  obtain ⟨request2, hsplit2⟩ := hlast (blit zeros.buff 0 before) p (acceptedSize l1 l2) (by omega)
    (blit_of_le (by decide)) (blit_of_le (by decide))
  have hreply1 := @replyTo_of_failed zeros l1 l2 p outcomes o [] request1 hp hframe hsent herr
    hsplit1 (stringAt_of_holds ⟨rfl, trivial⟩ (by decide) (by decide))
  have hreply2 := @replyTo_of_failed
    ⟨blit zeros.buff 0 before, blit zeros.resultBuff 0 ("OK".toList ++ [nul])⟩ l1 l2 p outcomes o
    "OK".toList request2 hp hframe hsent herr hsplit2
    (stringAt_of_holds (holds_blit zeros.resultBuff 0 _) (by decide) (by decide))
  have hsame := h zeros zeros _ [] (frame before) [] [[okOutcome]] rfl hpast
  rw [hreply1, hreply2] at hsame
  cases hsame

/-- After a command that has run the answer is its own, if the strings of the request end in the
    array. -/
theorem replyTo_of_ran {o : Outcome} (hp : p.length = lengthField l1 l2 - 4)
    (hframe : Accepted l1 l2) (hsent : sendCommand outcomes = some o) (herr : o.err = 0) :
    replyTo b l1 l2 p outcomes =
      (splitPayload (blit b.buff 0 p) (acceptedSize l1 l2)).bind fun _ =>
        o.text.bind fun text => if text.length + 1 ≤ maxSize then some (o.answer text) else none := by
  rw [replyTo_eq hp hframe b hsent, processMessage_ran herr]

/-- A string without its terminator is found if an earlier request has left one behind it. -/
theorem not_ownReply_of_before {o : Outcome} {before : CString}
    {request request' : CString × Option CString} (hp : p.length = lengthField l1 l2 - 4)
    (hframe : Accepted l1 l2) (hsent : sendCommand outcomes = some o) (herr : o.err = 0)
    (hfits : o.Fits) (hopen : ¬ Terminated p) (hmin : 4 ≤ before.length)
    (hmax : before.length ≤ 65531)
    (hbefore : splitPayload (blit (fun _ => 'x') 0 before) before.length = some request)
    (hsplit : splitPayload (blit (blit (fun _ => 'x') 0 before) 0 p) (acceptedSize l1 l2) =
      some request') : ¬ OwnReply l1 l2 p outcomes := by
  intro h
  let blank : Buffers := ⟨fun _ => 'x', fun _ => 'x'⟩
  have hfield := lengthField_le l1 l2
  rw [maxSize] at hfield
  have hlen : p.length ≤ acceptedSize l1 l2 := by
    rw [acceptedSize]
    split <;> omega
  have hpast := @serveAll_one blank before request hmin hmax hbefore
  obtain ⟨text, htext, hsize⟩ := hfits
  have hreply1 := @replyTo_of_ran blank l1 l2 p outcomes o hp hframe hsent herr
  rw [splitPayload_none hopen (by omega) hlen (fun _ => show 'x' ≠ nul by decide)] at hreply1
  have hreply2 := @replyTo_of_ran
    ⟨blit blank.buff 0 before, blit blank.resultBuff 0 ("OK".toList ++ [nul])⟩ l1 l2 p outcomes o
    hp hframe hsent herr
  rw [hsplit, htext, Option.bind_some, Option.bind_some, if_pos hsize] at hreply2
  have hsame := h blank blank _ [] (frame before) [] [[okOutcome]] rfl hpast
  rw [hreply1, hreply2] at hsame
  cases hsame

/-- A string without its terminator ends where an earlier request has left one. -/
theorem not_ownReply_of_unterminated {o : Outcome} (hp : p.length = lengthField l1 l2 - 4)
    (hframe : Accepted l1 l2) (hmax : p.length < 65531) (hsent : sendCommand outcomes = some o)
    (herr : o.err = 0) (hfits : o.Fits) (hopen : ¬ Terminated p) : ¬ OwnReply l1 l2 p outcomes := by
  rcases hframe with hheader | hlong
  · -- all of the request is what the array holds
    have hnil : p = [] := List.length_eq_zero_iff.mp (by omega)
    have hholds := holds_blit (fun _ => 'x') 0 ("ATE0".toList ++ [nul, nul])
    have hnuls := splitPayload_of_nuls (show 4 < 5 by decide) (by decide) hholds.2.2.2.2.1
      hholds.2.2.2.2.2.1
    obtain ⟨request, hbefore⟩ := hnuls ("ATE0".toList ++ [nul, nul]).length
    obtain ⟨request', hsplit⟩ := hnuls (acceptedSize l1 l2)
    subst hnil
    exact not_ownReply_of_before hp (.inl hheader) hsent herr hfits hopen (by decide) (by decide)
      hbefore (by rw [blit_nil]; exact hsplit)
  · let before : CString := List.replicate p.length 'x' ++ [nul]
    have hlen : before.length = p.length + 1 := by simp [before]
    have hterminated : Terminated before := by
      have hdrop : before.dropWhile (· != nul) = [nul] := by
        show (List.replicate p.length 'x' ++ [nul]).dropWhile (· != nul) = [nul]
        rw [List.dropWhile_append_of_pos]
        · rfl
        · intro c hc
          rw [List.eq_of_mem_replicate hc]
          rfl
      rw [Terminated, hdrop]
      exact .inl rfl
    obtain ⟨request, hbefore⟩ := splitPayload_of_terminated hterminated (by omega)
    have hnul : blit (blit (fun _ => 'x') 0 before) 0 p p.length = nul := by
      have hholds := holds_blit (fun _ => 'x') 0 before
      rw [holds_append, List.length_replicate, Nat.zero_add] at hholds
      rw [blit_of_le (by omega)]
      exact hholds.2.1
    have hsize : acceptedSize l1 l2 = p.length := by
      rw [acceptedSize, if_neg (by omega), hp]
    obtain ⟨request', hsplit⟩ := splitPayload_of_nul (show p.length < maxSize by rw [maxSize]; omega)
      (Nat.le_of_eq hsize) hnul
    exact not_ownReply_of_before hp (.inr hlong) hsent herr hfits hopen (by omega) (by omega)
      (hbefore _) hsplit

/-- The answer to a frame is its own if and only if the frame is rejected, or its command runs and
    its strings have their terminators in the payload: unless the answer does not fit, or the
    payload is so long that no other one has written behind it. The frame with the length 3 has no
    payload. -/
theorem ownReply_iff (hp : p.length = lengthField l1 l2 - 4) :
    OwnReply l1 l2 p outcomes ↔ (Accepted l1 l2 → ∀ o, sendCommand outcomes = some o →
      o.err = 0 ∧ (o.Fits → Terminated p ∨ p.length = 65531)) := by
  have hmax := lengthField_le l1 l2
  rw [maxSize] at hmax
  constructor
  · intro h hframe o hsent
    have herr : o.err = 0 := by
      by_contra herr
      exact not_ownReply_of_failed hp hframe hsent herr h
    refine ⟨herr, ?_⟩
    intro hfits
    by_contra hopen
    rw [not_or] at hopen
    exact not_ownReply_of_unterminated hp hframe (by omega) hsent herr hfits hopen.1 h
  · intro h b b1 b2 past1 past2 sent1 sent2 hpast1 hpast2
    by_cases hframe : Accepted l1 l2
    · cases hsent : sendCommand outcomes with
      | none => rw [replyTo_none b1 hsent, replyTo_none b2 hsent]
      | some o =>
        obtain ⟨herr, hstrings⟩ := h hframe o hsent
        rw [replyTo_of_ran hp hframe hsent herr, replyTo_of_ran hp hframe hsent herr]
        by_cases hfits : o.Fits
        · have hsize : p ≠ [] → acceptedSize l1 l2 = p.length := by
            intro hne
            have hpos := List.length_pos_iff.mpr hne
            rw [acceptedSize, if_neg (by omega), hp]
          rcases hstrings hfits with hterminated | hfull
          · have hne : p ≠ [] := by
              rintro rfl
              exact hterminated
            obtain ⟨request, hsplit⟩ := splitPayload_of_terminated hterminated (by omega)
            rw [hsize hne, hsplit, hsplit]
          · -- the payload covers all that the histories have written
            have hsame : blit b1.buff 0 p = blit b2.buff 0 p := by
              funext i
              rcases Nat.lt_or_ge i p.length with hin | hout
              · simp [blit, hin]
              · rw [blit_of_le (by omega), blit_of_le (by omega), serveAll_keeps hpast1 (by omega),
                  serveAll_keeps hpast2 (by omega)]
            rw [hsame]
        · have hnone : (o.text.bind fun text =>
              if text.length + 1 ≤ maxSize then some (o.answer text) else none) = none := by
            cases htext : o.text with
            | none => rfl
            | some text => exact if_neg fun hsize => hfits ⟨text, htext, hsize⟩
          rw [hnone, Option.bind_fun_none, Option.bind_fun_none]
    · rw [replyTo_rejected hp hframe, replyTo_rejected hp hframe]

theorem ownReply_iff_signal :
    OwnReply '\x00' '\x0b' ("AT+CSQ".toList ++ [nul])
      [⟨atErrorCommandPending, atResponseNew⟩, okOutcome] :=
  (ownReply_iff (by decide)).mpr fun _ o hsent => by
    cases hsent
    exact ⟨rfl, fun _ => .inl (by decide)⟩

/-- A command after the channel has been closed. -/
theorem closed_not_ownReply :
    ¬ OwnReply '\x00' '\x0b' ("AT+CSQ".toList ++ [nul]) [⟨atErrorChannelClosed, atResponseNew⟩] :=
  not_ownReply_of_failed (by decide) (by decide) rfl (by decide)

end Histories

end AndroidPatch.Ril.Altair.AtSocket
