import AndroidPatch.Nfc.Payload

/-!
# Inside the payload

A response about targets that is too short, or in which a tag says that its identifier is longer than it
is, makes the driver leave the payload (`parsesInside_iff`).
-/

namespace AndroidPatch.Nfc

open Logged

variable {resp : Resp} {core : NfcCore} {s : PollState}

/-! ## What is left -/

section Results

variable {β : Type}

@[simp] theorem result_readAt_bind (i : Nat) (q : Nat → PayloadM β) (s : PollState) :
    (readAt resp i >>= q).result s = (q (resp.data i)).result s := rfl

@[simp] theorem result_readBe16_bind (i : Nat) (q : Nat → PayloadM β) (s : PollState) :
    (readBe16 resp i >>= q).result s = (q (be16 resp.data i)).result s := rfl

@[simp] theorem result_copyNfcid1_bind (i n : Nat) (q : List Nat → PayloadM β) (s : PollState) :
    (copyNfcid1 resp i n >>= q).result s = (q (bytesAt resp.data i n)).result s := rfl

@[simp] theorem result_copyBytes_bind (i n : Nat) (q : List Nat → PayloadM β) (s : PollState) :
    (copyBytes resp i n >>= q).result s = (q (bytesAt resp.data i n)).result s := rfl

end Results

/-- The payload from `tgt_data` on. -/
def Resp.target (resp : Resp) (tgt : Nat) : Nat → Nat := fun i => resp.data (i + tgt)

theorem be16_target (tgt : Nat) : be16 (resp.target tgt) 0 = be16 resp.data tgt := by
  rw [be16, be16, Resp.target, Resp.target, Nat.zero_add, Nat.add_comm 1]

theorem bytesAt_target (tgt i n : Nat) : bytesAt (resp.target tgt) i n = bytesAt resp.data (tgt + i) n := by
  apply List.map_congr_left
  intro k _
  show resp.data (i + k + tgt) = resp.data (tgt + i + k)
  congr 1
  omega

theorem target_apply (tgt i : Nat) : resp.target tgt i = resp.data (tgt + i) := by
  rw [Resp.target, Nat.add_comm]

theorem targetTypeAIsValidLog_result (tgt : Nat) (len : Int) (s : PollState) :
    (targetTypeAIsValidLog resp tgt len).result s =
      .ok (targetTypeAIsValid (resp.target tgt) len, s) := by
  unfold targetTypeAIsValidLog targetTypeAIsValid
  rw [be16_target, target_apply]
  by_cases hshort : shorterThan len 4 = true
  · simp [hshort]
  · rw [if_neg hshort, result_readBe16_bind]
    by_cases hinvalid : sensResInvalid (be16 resp.data tgt) = true
    · simp [hinvalid]
    · rw [if_neg hinvalid, result_readAt_bind]
      simp [hshort, hinvalid]

theorem targetFoundTypeALog_result (tgt : Nat) (len : Int) (s : PollState) :
    (targetFoundTypeALog resp tgt len).result s = .ok (targetFoundTypeA (resp.target tgt) len, s) := by
  unfold targetFoundTypeALog targetFoundTypeA
  rw [result_bind_of_ok (targetTypeAIsValidLog_result tgt len s)]
  cases hvalid : targetTypeAIsValid (resp.target tgt) len
  · rfl
  · simp only [Bool.true_eq_false, if_false, Bool.not_true, Bool.false_eq_true, result_readBe16_bind,
      result_readAt_bind, result_copyNfcid1_bind, result_pure, be16_target, bytesAt_target, target_apply]
    rfl

theorem targetFoundFelicaLog_result (tgt : Nat) (len : Int) (s : PollState) :
    (targetFoundFelicaLog resp tgt len).result s = .ok (targetFoundFelica (resp.target tgt) len, s) := by
  unfold targetFoundFelicaLog targetFoundFelica
  simp only [target_apply, bytesAt_target]
  by_cases hshort : shorterThan len 18 = true
  · simp [hshort]
  · rw [if_neg hshort, result_readAt_bind]
    by_cases hopcode : resp.data (tgt + 1) = 1
    · simp [hshort, hopcode]
    · simp [hopcode]

theorem targetFoundJewelLog_result (tgt : Nat) (len : Int) (s : PollState) :
    (targetFoundJewelLog resp tgt len).result s = .ok (targetFoundJewel (resp.target tgt) len, s) := by
  unfold targetFoundJewelLog targetFoundJewel
  rw [be16_target, bytesAt_target]
  by_cases hshort : shorterThan len 6 = true
  · simp [hshort]
  · rw [if_neg hshort, result_readBe16_bind]
    by_cases hinvalid : sensResInvalid (be16 resp.data tgt) = true
    · simp [hinvalid]
    · simp [hshort, hinvalid]

theorem targetFoundTypeBLog_result (tgt : Nat) (len : Int) (s : PollState) :
    (targetFoundTypeBLog resp tgt len).result s = .ok (targetFoundTypeB (resp.target tgt) len, s) := by
  unfold targetFoundTypeBLog targetFoundTypeB
  simp only [target_apply, Nat.add_zero]
  by_cases hshort : shorterThan len 13 = true
  · simp [hshort]
  · rw [if_neg hshort, result_readAt_bind]
    by_cases hopcode : resp.data tgt = 0x50
    · by_cases htype : (resp.data (tgt + 10) &&& 0x0f) &&& 0x08 = 0
      · simp [hshort, hopcode, htype]
      · simp [hopcode, htype]
    · simp [hopcode]

theorem runLog_result (parser : Parser) (tgt : Nat) (len : Int) (s : PollState) :
    (parser.runLog resp tgt len).result s = .ok (parser.run (resp.target tgt) len, s) := by
  cases parser with
  | typeA => exact targetFoundTypeALog_result tgt len s
  | felica => exact targetFoundFelicaLog_result tgt len s
  | jewel => exact targetFoundJewelLog_result tgt len s
  | typeB => exact targetFoundTypeBLog_result tgt len s

/-- What `pn533_target_found` returns and leaves. -/
def leaveTarget (s : PollState) : Except Int NfcTarget → Int × PollState
  | .error rc => (rc, s)
  | .ok target => (0, { s with tgtAvailableProts := target.supportedProtocols })

theorem targetFoundLog_result (tg tgt : Nat) (len : Int) (s : PollState) :
    (targetFoundLog resp tg tgt len).result s =
      .ok (leaveTarget s (targetFound s.pollModCurr s.pollProtocols tg (resp.target tgt) len).2) := by
  unfold targetFoundLog targetFound
  by_cases htg : tg = 1
  · simp only [htg, ne_eq, not_true_eq_false, if_false, result_get_bind]
    cases parserAt s.pollModCurr with
    | none => rfl
    | some parser =>
      rw [runParser, result_bind_of_ok (runLog_result parser tgt len s)]
      cases hrun : parser.run (resp.target tgt) len with
      | error rc => simp [targetParsed, leaveTarget, hrun]
      | ok target =>
        by_cases hprotocols : target.supportedProtocols &&& s.pollProtocols = 0
        · simp [targetParsed, leaveTarget, hrun, hprotocols]
        · simp [targetParsed, leaveTarget, hrun, hprotocols]
  · simp [htg, leaveTarget]

theorem run_error {parser : Parser} {data : Nat → Nat} {len : Int} {rc : Int}
    (h : parser.run data len = .error rc) : rc = -eproto := by
  cases parser <;> simp only [Parser.run, targetFoundTypeA, targetFoundFelica, targetFoundJewel,
    targetFoundTypeB] at h <;> split at h <;> cases h <;> rfl

theorem targetFound_error {pollModCurr pollProtocols tg : Nat} {data : Nat → Nat} {len : Int} {rc : Int}
    (h : (targetFound pollModCurr pollProtocols tg data len).2 = .error rc) : rc ≠ 0 := by
  have hproto : -eproto ≠ 0 := by decide
  have hagain : -eagain ≠ 0 := by decide
  unfold targetFound at h
  by_cases htg : tg = 1
  · simp only [htg, ne_eq, not_true_eq_false, if_false] at h
    cases hparser : parserAt pollModCurr with
    | none =>
      rw [hparser] at h
      cases h
      exact hproto
    | some parser =>
      rw [hparser] at h
      cases hrun : parser.run data len with
      | error rc' =>
        simp only [hrun] at h
        cases h
        rw [run_error hrun]
        exact hproto
      | ok target =>
        simp only [hrun] at h
        split at h
        · cases h
          exact hagain
        · cases h
  · rw [if_pos htg] at h
    cases h
    exact hproto

/-- What `pn533_start_poll_complete` returns and leaves. -/
def leavePoll (s : PollState) : Except Int NfcTarget → Int × PollState
  | .error rc => (rc, s)
  | .ok target => (0, { s with mods := s.mods.reset, tgtAvailableProts := target.supportedProtocols })

theorem startPollCompleteLog_result (s : PollState) :
    (startPollCompleteLog resp).result s =
      .ok (leavePoll s (startPollComplete s.pollModCurr s.pollProtocols resp).2) := by
  unfold startPollCompleteLog startPollComplete
  rw [result_readAt_bind, result_readAt_bind, result_emit_bind]
  by_cases hnbtg : resp.data 0 = 0
  · simp [hnbtg, leavePoll]
  · have hresult : (targetFoundLog resp (resp.data 1) 2 (resp.len - 2)).result s = _ :=
      targetFoundLog_result (resp.data 1) 2 _ s
    have htarget : resp.target 2 = fun i => resp.data (i + 2) := rfl
    rw [if_neg hnbtg, if_pos hnbtg, result_bind_of_ok hresult, htarget]
    rcases hfound : targetFound s.pollModCurr s.pollProtocols (resp.data 1)
      (fun i => resp.data (i + 2)) (resp.len - 2) with ⟨parser, rc | target⟩
    · have hrc : rc ≠ 0 := targetFound_error (congrArg Prod.snd hfound)
      simp [leavePoll, hrc]
    · simp [leavePoll]

/-- The response to `PN533_CMD_TG_INIT_AS_TARGET`: what `initTargetComplete` says. -/
theorem initTargetCompleteLog_result (s : PollState) :
    ∃ rc, (initTargetCompleteLog core resp).result s =
      .ok (rc, s.initTargetComplete resp core.tmActivated) := by
  unfold initTargetCompleteLog PollState.initTargetComplete
  by_cases hlen : resp.len < 18
  · exact ⟨-einval, by simp [hlen]⟩
  · rw [if_neg hlen, result_readAt_bind]
    by_cases hdep : resp.data 0 &&& 0x4 = 0
    · exact ⟨-eopnotsupp, by simp [hdep]⟩
    · rw [if_neg hdep, result_emit_bind, result_copyBytes_bind]
      by_cases hrc : core.tmActivated < 0
      · exact ⟨core.tmActivated, by simp [hrc]⟩
      · exact ⟨0, by simp [hlen, hdep, hrc]⟩

/-- A response to `PN533_CMD_IN_ATR` leaves the state alone. -/
theorem activateTargetNfcdepLog_result (s : PollState) :
    ∃ rc, (activateTargetNfcdepLog core resp).result s = .ok (rc, s) := by
  unfold activateTargetNfcdepLog
  rw [result_readAt_bind]
  split
  · exact ⟨_, rfl⟩
  · exact ⟨_, rfl⟩

/-- A response to `PN533_CMD_IN_JUMP_FOR_DEP`: what `inDepLinkUpComplete` says. -/
theorem inDepLinkUpCompleteLog_result (t : TargetState) :
    ∃ rc, (inDepLinkUpCompleteLog core resp).result t.poll =
      .ok (rc, (t.inDepLinkUpComplete (.resp (resp.data 0) core.targetsFound)).poll) := by
  have hbytes : ∀ s : PollState, ∃ rc, (depLinkGeneralBytesLog core resp).result s =
      .ok (rc, { s with tgtActiveProt := nfcProtoNfcDep }) := by
    intro s
    unfold depLinkGeneralBytesLog
    rw [result_modify_bind, result_emit_bind, result_copyBytes_bind]
    split
    · exact ⟨_, rfl⟩
    · exact ⟨_, rfl⟩
  unfold inDepLinkUpCompleteLog
  rw [result_get_bind, TargetState.inDepLinkUpComplete]
  by_cases hdep : t.poll.tgtAvailableProts ≠ 0 ∧ t.poll.tgtAvailableProts &&& (1 <<< nfcProtoNfcDep) = 0
  · rw [if_pos hdep, if_pos hdep]
    exact ⟨-einval, rfl⟩
  rw [if_neg hdep, if_neg hdep, result_readAt_bind]
  by_cases hstatus : resp.data 0 &&& cmdRetMask ≠ cmdRetSuccess
  · rw [if_pos hstatus, if_pos hstatus]
    exact ⟨_, rfl⟩
  rw [if_neg hstatus, if_neg hstatus]
  by_cases havailable : t.poll.tgtAvailableProts = 0
  · rw [if_pos havailable, result_copyNfcid1_bind]
    by_cases hfound : core.targetsFound ≠ 0
    · rw [if_pos hfound, if_pos ⟨havailable, hfound⟩]
      exact ⟨_, rfl⟩
    · rw [if_neg hfound, if_neg fun h => hfound h.2]
      exact hbytes t.poll
  · rw [if_neg havailable, if_neg fun h => havailable h.1]
    exact hbytes t.poll

/-! ## Accesses -/

/-- The access stays inside a payload of `len` bytes; `nfcid1` has room for 10
    (`NFC_NFCID1_MAXSIZE`). -/
def InPayload (len : Nat) : PayloadAccess → Prop
  | .read i => i < len
  | .copy i n => ∀ k < n, i + k < len
  | .copyNfcid1 i n => (∀ k < n, i + k < len) ∧ n ≤ 10
  | .length n => 0 ≤ n ∧ n ≤ len

section Accesses

variable {len : Nat}

@[simp] theorem inPayload_read (i : Nat) : InPayload len (.read i) ↔ i < len := Iff.rfl

@[simp] theorem inPayload_copy (i n : Nat) : InPayload len (.copy i n) ↔ ∀ k < n, i + k < len := Iff.rfl

@[simp] theorem inPayload_copyNfcid1 (i n : Nat) :
    InPayload len (.copyNfcid1 i n) ↔ (∀ k < n, i + k < len) ∧ n ≤ 10 := Iff.rfl

@[simp] theorem inPayload_length (n : Int) : InPayload len (.length n) ↔ 0 ≤ n ∧ n ≤ len := Iff.rfl

variable {P : PayloadAccess → Prop} {β : Type}

@[simp] theorem allLogged_readAt_bind (i : Nat) (q : Nat → PayloadM β) (s : PollState) :
    AllLogged P (readAt resp i >>= q) s ↔ P (.read i) ∧ AllLogged P (q (resp.data i)) s :=
  allLogged_emit_bind (.read i) (fun _ => q (resp.data i)) s

@[simp] theorem allLogged_readBe16_bind (i : Nat) (q : Nat → PayloadM β) (s : PollState) :
    AllLogged P (readBe16 resp i >>= q) s ↔
      P (.read i) ∧ P (.read (i + 1)) ∧ AllLogged P (q (be16 resp.data i)) s := by
  rw [readBe16, bind_bind, allLogged_readAt_bind, bind_bind, allLogged_readAt_bind]
  rfl

@[simp] theorem allLogged_copyNfcid1_bind (i n : Nat) (q : List Nat → PayloadM β) (s : PollState) :
    AllLogged P (copyNfcid1 resp i n >>= q) s ↔
      P (.copyNfcid1 i n) ∧ AllLogged P (q (bytesAt resp.data i n)) s :=
  allLogged_emit_bind (.copyNfcid1 i n) (fun _ => q (bytesAt resp.data i n)) s

@[simp] theorem allLogged_copyBytes_bind (i n : Nat) (q : List Nat → PayloadM β) (s : PollState) :
    AllLogged P (copyBytes resp i n >>= q) s ↔
      P (.copy i n) ∧ AllLogged P (q (bytesAt resp.data i n)) s :=
  allLogged_emit_bind (.copy i n) (fun _ => q (bytesAt resp.data i n)) s

end Accesses

/-! ## Targets -/

theorem not_shorterThan {len size : Nat} (hlen : 2 ≤ len) (h : ¬ shorterThan (len - 2) size = true) :
    size + 2 ≤ len := by
  rw [shorterThan, decide_eq_true_iff] at h
  omega

theorem allLogged_targetParsed {P : PayloadAccess → Prop} (result : Except Int NfcTarget)
    (s : PollState) : AllLogged P (targetParsed result) s := by
  cases result with
  | error rc => exact (allLogged_pure _ _).mpr trivial
  | ok target =>
    rw [targetParsed, allLogged_get_bind]
    split <;> simp

theorem parserAt_typeA {pollModCurr : Nat} (h : parserAt pollModCurr = some .typeA) : pollModCurr = 0 := by
  unfold parserAt at h
  split at h
  case h_1 => rfl
  all_goals cases h

section Targets

variable (hlen : 2 ≤ resp.len)

include hlen

theorem inside_typeAIsValid (s : PollState) :
    AllLogged (InPayload resp.len) (targetTypeAIsValidLog resp 2 (resp.len - 2)) s := by
  unfold targetTypeAIsValidLog
  split
  · simp
  · rename_i hshort
    have hroom := not_shorterThan hlen hshort
    rw [allLogged_readBe16_bind, inPayload_read, inPayload_read]
    refine ⟨by omega, by omega, ?_⟩
    split
    · simp
    · rw [allLogged_readAt_bind, inPayload_read]
      exact ⟨by omega, (allLogged_pure _ _).mpr trivial⟩

/-- The length of the identifier is a byte that the tag has sent. -/
theorem inside_typeA_iff (s : PollState) :
    AllLogged (InPayload resp.len) (targetFoundTypeALog resp 2 (resp.len - 2)) s ↔
      (targetTypeAIsValid (resp.target 2) (resp.len - 2) = true →
        resp.data 5 ≤ 10 ∧ 6 + resp.data 5 ≤ resp.len) := by
  have hvalid : (targetTypeAIsValidLog resp 2 (resp.len - 2)).result s = _ :=
    targetTypeAIsValidLog_result 2 _ s
  rw [targetFoundTypeALog, allLogged_bind_of_ok fun _ => hvalid,
    and_iff_right (inside_typeAIsValid hlen s)]
  cases hcase : targetTypeAIsValid (resp.target 2) (resp.len - 2)
  · simp
  · have hroom : 4 + 2 ≤ resp.len := by
      apply not_shorterThan hlen
      intro hshort
      simp [targetTypeAIsValid, hshort] at hcase
    have hcopy : (∀ k < resp.data 5, 6 + k < resp.len) ↔ 6 + resp.data 5 ≤ resp.len := by
      constructor
      · intro hall
        by_contra hlong
        have hlast := hall (resp.len - 6) (by omega)
        omega
      · intro hle k hk
        omega
    rw [if_neg (by decide), allLogged_readBe16_bind, allLogged_readAt_bind, allLogged_readAt_bind,
      allLogged_copyNfcid1_bind, inPayload_read, inPayload_read, inPayload_read, inPayload_read,
      inPayload_copyNfcid1, imp_iff_right rfl, ← hcopy]
    constructor
    · rintro ⟨-, -, -, -, ⟨hall, hten⟩, -⟩
      exact ⟨hten, hall⟩
    · rintro ⟨hten, hall⟩
      exact ⟨by omega, by omega, by omega, by omega, ⟨hall, hten⟩, (allLogged_pure _ _).mpr trivial⟩

theorem inside_felica (s : PollState) :
    AllLogged (InPayload resp.len) (targetFoundFelicaLog resp 2 (resp.len - 2)) s := by
  unfold targetFoundFelicaLog
  split
  · simp
  · rename_i hshort
    have hroom := not_shorterThan hlen hshort
    rw [allLogged_readAt_bind, inPayload_read]
    refine ⟨by omega, ?_⟩
    split
    · simp
    · rw [allLogged_readAt_bind, allLogged_readAt_bind, allLogged_copyBytes_bind, inPayload_read,
        inPayload_read, inPayload_copy]
      exact ⟨by omega, by omega, fun k hk => by omega, (allLogged_pure _ _).mpr trivial⟩

theorem inside_jewel (s : PollState) :
    AllLogged (InPayload resp.len) (targetFoundJewelLog resp 2 (resp.len - 2)) s := by
  unfold targetFoundJewelLog
  split
  · simp
  · rename_i hshort
    have hroom := not_shorterThan hlen hshort
    rw [allLogged_readBe16_bind, inPayload_read, inPayload_read]
    refine ⟨by omega, by omega, ?_⟩
    split
    · simp
    · rw [allLogged_copyNfcid1_bind, inPayload_copyNfcid1]
      exact ⟨⟨fun k hk => by omega, by decide⟩, (allLogged_pure _ _).mpr trivial⟩

theorem inside_typeB (s : PollState) :
    AllLogged (InPayload resp.len) (targetFoundTypeBLog resp 2 (resp.len - 2)) s := by
  unfold targetFoundTypeBLog
  split
  · simp
  · rename_i hshort
    have hroom := not_shorterThan hlen hshort
    rw [allLogged_readAt_bind, inPayload_read]
    refine ⟨by omega, ?_⟩
    split
    · simp
    · rw [allLogged_readAt_bind, inPayload_read]
      refine ⟨by omega, ?_⟩
      split <;> simp

/-- Only the parser of type A leaves the payload. -/
theorem inside_targetFound_iff (tg : Nat) (s : PollState) :
    AllLogged (InPayload resp.len) (targetFoundLog resp tg 2 (resp.len - 2)) s ↔
      (tg = 1 → s.pollModCurr = 0 → targetTypeAIsValid (resp.target 2) (resp.len - 2) = true →
        resp.data 5 ≤ 10 ∧ 6 + resp.data 5 ≤ resp.len) := by
  unfold targetFoundLog
  by_cases htg : tg = 1
  · rw [if_neg (not_not.mpr htg), allLogged_get_bind, imp_iff_right htg]
    cases hparser : parserAt s.pollModCurr with
    | none =>
      have hmod : s.pollModCurr ≠ 0 := fun h => by simp [h, parserAt] at hparser
      simp [runParser, hmod]
    | some parser =>
      have hrun : (parser.runLog resp 2 (resp.len - 2)).result s = _ := runLog_result parser 2 _ s
      rw [runParser, allLogged_bind_of_ok fun _ => hrun, and_iff_left (allLogged_targetParsed _ s)]
      cases parser with
      | typeA =>
        have hmod : s.pollModCurr = 0 := parserAt_typeA hparser
        rw [imp_iff_right hmod]
        exact inside_typeA_iff hlen s
      | felica =>
        have hmod : s.pollModCurr ≠ 0 := fun h => by simp [h, parserAt] at hparser
        exact iff_of_true (inside_felica hlen s) fun h => absurd h hmod
      | jewel =>
        have hmod : s.pollModCurr ≠ 0 := fun h => by simp [h, parserAt] at hparser
        exact iff_of_true (inside_jewel hlen s) fun h => absurd h hmod
      | typeB =>
        have hmod : s.pollModCurr ≠ 0 := fun h => by simp [h, parserAt] at hparser
        exact iff_of_true (inside_typeB hlen s) fun h => absurd h hmod
  · rw [if_pos htg]
    exact iff_of_true ((allLogged_pure _ _).mpr trivial) fun h => absurd h htg

end Targets

/-! ## Responses -/

theorem inside_startPollComplete_iff (s : PollState) :
    AllLogged (InPayload resp.len) (startPollCompleteLog resp) s ↔
      2 ≤ resp.len ∧
        (resp.data 0 ≠ 0 → resp.data 1 = 1 → s.pollModCurr = 0 →
          targetTypeAIsValid (resp.target 2) (resp.len - 2) = true →
            resp.data 5 ≤ 10 ∧ 6 + resp.data 5 ≤ resp.len) := by
  unfold startPollCompleteLog
  rw [allLogged_readAt_bind, allLogged_readAt_bind, allLogged_emit_bind, inPayload_read, inPayload_read,
    inPayload_length]
  by_cases hlen : 2 ≤ resp.len
  · have hreads : ∀ p : Prop, (0 < resp.len ∧ 1 < resp.len ∧
        ((0 : Int) ≤ resp.len - 2 ∧ (resp.len : Int) - 2 ≤ resp.len) ∧ p) ↔ p := by
      intro p
      exact ⟨fun h => h.2.2.2, fun hp => ⟨by omega, by omega, by omega, hp⟩⟩
    rw [hreads, and_iff_right hlen]
    by_cases hnbtg : resp.data 0 = 0
    · simp [hnbtg]
    · rw [if_neg hnbtg, imp_iff_right hnbtg, ← inside_targetFound_iff hlen,
        allLogged_bind_of_ok fun _ => targetFoundLog_result (resp.data 1) 2 (resp.len - 2) s]
      refine and_iff_left ?_
      split
      · split <;> simp
      · simp
  · exact iff_of_false (fun h => hlen h.2.1) fun h => hlen h.1

theorem inside_initTargetComplete (s : PollState) :
    AllLogged (InPayload resp.len) (initTargetCompleteLog core resp) s := by
  unfold initTargetCompleteLog
  split
  · simp
  · rename_i hlen
    rw [allLogged_readAt_bind, inPayload_read]
    refine ⟨by omega, ?_⟩
    split
    · simp
    · rw [allLogged_emit_bind, allLogged_copyBytes_bind, inPayload_length, inPayload_copy]
      refine ⟨by omega, fun k hk => by omega, ?_⟩
      split <;> simp

/-- The general bytes behind `n` bytes; their length is stored in a field of `w` values. -/
theorem inside_generalBytes_iff {len n : Nat} {w : Int} (hw : n < w) :
    (InPayload len (.length ((len - n) % w)) ∧ InPayload len (.copy n ((len - n : Int) % w).toNat)) ↔
      n ≤ len := by
  have hpos : 0 < w := by omega
  rw [inPayload_length, inPayload_copy]
  constructor
  · rintro ⟨⟨-, hle⟩, -⟩
    by_contra hshort
    -- the difference is negative, and wraps around
    have hwrap : ((len : Int) - n) % w = len - n + w := by
      rw [← Int.add_emod_right]
      exact Int.emod_eq_of_lt (by omega) (by omega)
    omega
  · intro hlen
    have hle : ((len : Int) - n) % w ≤ len - n := by
      have hdiv := Int.mul_ediv_add_emod ((len : Int) - n) w
      have hquot : 0 ≤ w * (((len : Int) - n) / w) :=
        Int.mul_nonneg (by omega) (Int.ediv_nonneg (by omega) (by omega))
      omega
    have hnonneg := Int.emod_nonneg ((len : Int) - n) (by omega : w ≠ 0)
    exact ⟨⟨hnonneg, by omega⟩, fun k hk => by omega⟩

theorem inside_activateTargetNfcdep_iff (s : PollState) :
    AllLogged (InPayload resp.len) (activateTargetNfcdepLog core resp) s ↔
      1 ≤ resp.len ∧ (resp.data 0 &&& cmdRetMask = cmdRetSuccess → 16 ≤ resp.len) := by
  unfold activateTargetNfcdepLog
  rw [allLogged_readAt_bind, inPayload_read]
  refine and_congr Iff.rfl ?_
  by_cases hstatus : resp.data 0 &&& cmdRetMask = cmdRetSuccess
  · rw [if_neg (not_not.mpr hstatus), imp_iff_right hstatus, allLogged_emit_bind, allLogged_copyBytes_bind,
      ← and_assoc]
    exact (and_iff_left ((allLogged_pure _ _).mpr trivial)).trans
      (inside_generalBytes_iff (by decide : ((16 : Nat) : Int) < 0x10000))
  · rw [if_pos hstatus]
    exact iff_of_true ((allLogged_pure _ _).mpr trivial) fun h => absurd h hstatus

theorem inside_depLinkGeneralBytes_iff (s : PollState) :
    AllLogged (InPayload resp.len) (depLinkGeneralBytesLog core resp) s ↔ 17 ≤ resp.len := by
  unfold depLinkGeneralBytesLog
  rw [allLogged_modify_bind, allLogged_emit_bind, allLogged_copyBytes_bind, ← and_assoc]
  refine (and_iff_left ?_).trans (inside_generalBytes_iff (by decide : ((17 : Nat) : Int) < 0x100))
  split <;> simp

/-- A target is available that does not support DEP. -/
def PollState.LacksDep (s : PollState) : Prop :=
  s.tgtAvailableProts ≠ 0 ∧ s.tgtAvailableProts &&& (1 <<< nfcProtoNfcDep) = 0

theorem inside_inDepLinkUpComplete_iff (s : PollState) :
    AllLogged (InPayload resp.len) (inDepLinkUpCompleteLog core resp) s ↔
      s.LacksDep ∨ 1 ≤ resp.len ∧ (resp.data 0 &&& cmdRetMask = cmdRetSuccess →
        if s.tgtAvailableProts = 0 ∧ core.targetsFound ≠ 0 then 12 ≤ resp.len
        else 17 ≤ resp.len) := by
  unfold inDepLinkUpCompleteLog
  rw [allLogged_get_bind]
  by_cases hdep : s.tgtAvailableProts ≠ 0 ∧ s.tgtAvailableProts &&& (1 <<< nfcProtoNfcDep) = 0
  · rw [if_pos hdep]
    exact iff_of_true ((allLogged_pure _ _).mpr trivial) (.inl hdep)
  have hlacks : ¬ s.LacksDep := hdep
  rw [if_neg hdep, or_iff_right hlacks, allLogged_readAt_bind, inPayload_read]
  refine and_congr Iff.rfl ?_
  by_cases hstatus : resp.data 0 &&& cmdRetMask = cmdRetSuccess
  · rw [if_neg (not_not.mpr hstatus), imp_iff_right hstatus]
    by_cases havailable : s.tgtAvailableProts = 0
    · have hcopy : InPayload resp.len (.copyNfcid1 2 10) ↔ 12 ≤ resp.len := by
        rw [inPayload_copyNfcid1, and_iff_left (by decide)]
        constructor
        · intro hall
          have hlast := hall 9 (by decide)
          omega
        · intro hle k hk
          omega
      rw [if_pos havailable, allLogged_copyNfcid1_bind, hcopy]
      by_cases hfound : core.targetsFound ≠ 0
      · rw [if_pos hfound, if_pos ⟨havailable, hfound⟩]
        exact and_iff_left ((allLogged_pure _ _).mpr trivial)
      · rw [if_neg hfound, if_neg fun h => hfound h.2, inside_depLinkGeneralBytes_iff]
        omega
    · rw [if_neg havailable, if_neg fun h => havailable h.1, inside_depLinkGeneralBytes_iff]
  · rw [if_pos hstatus]
    exact iff_of_true ((allLogged_pure _ _).mpr trivial) fun h => absurd h hstatus

/-! ## All of them -/

/-- Every access of the function stays inside the payload. -/
def ParsesInside (core : NfcCore) (resp : Resp) (s : PollState) (parser : TargetParser) : Prop :=
  AllLogged (InPayload resp.len) (parser.run core resp) s

/-- What the function relies on, without a check of its own in all cases but one. -/
def TargetParser.Suffices (core : NfcCore) (resp : Resp) (s : PollState) : TargetParser → Prop
  | .startPollComplete =>
      2 ≤ resp.len ∧
        (resp.data 0 ≠ 0 → resp.data 1 = 1 → s.pollModCurr = 0 →
          targetTypeAIsValid (resp.target 2) (resp.len - 2) = true →
            resp.data 5 ≤ 10 ∧ 6 + resp.data 5 ≤ resp.len)
  | .initTargetComplete => True
  | .activateTargetNfcdep =>
      1 ≤ resp.len ∧ (resp.data 0 &&& cmdRetMask = cmdRetSuccess → 16 ≤ resp.len)
  | .inDepLinkUpComplete =>
      s.LacksDep ∨ 1 ≤ resp.len ∧ (resp.data 0 &&& cmdRetMask = cmdRetSuccess →
        if s.tgtAvailableProts = 0 ∧ core.targetsFound ≠ 0 then 12 ≤ resp.len else 17 ≤ resp.len)

theorem parsesInside_iff (core : NfcCore) (resp : Resp) (s : PollState) (parser : TargetParser) :
    ParsesInside core resp s parser ↔ parser.Suffices core resp s := by
  cases parser with
  | startPollComplete => exact inside_startPollComplete_iff s
  | initTargetComplete => exact iff_of_true (inside_initTargetComplete s) trivial
  | activateTargetNfcdep => exact inside_activateTargetNfcdep_iff s
  | inDepLinkUpComplete => exact inside_inDepLinkUpComplete_iff s

/-- A target of type A that gives its identifier 255 bytes, in a payload of seven bytes. -/
def longNfcid : Resp := ⟨fun i => [1, 1, 0x00, 0x44, 0x20, 0xff, 0x00].getD i 0, 7⟩

/-- An NFC core that takes everything. -/
def willingCore : NfcCore := ⟨0, 0, 0, 0⟩

theorem not_parsesInside_longNfcid : ¬ ParsesInside willingCore longNfcid .init .startPollComplete := by
  intro hinside
  have hcopied : .copyNfcid1 6 255 ∈ (startPollCompleteLog longNfcid).log .init := by decide
  have hten := (hinside (.copyNfcid1 6 255) hcopied).2
  exact absurd hten (by decide)

end AndroidPatch.Nfc
