import AndroidPatch.Ril.Altair.Proofs.Emits

/-!
# The handlers that complete once

One lemma for each handler whose replies are all harmless: it completes its request once, and it
faults only where its contract says so. The handlers that a reply can bring down are in
`NullDereference`.
-/

namespace AndroidPatch.Ril.Altair

open AtChannel

variable {K : Contract}

/-! ## Interfaces and the PDN table -/

theorem ifcConfig_runs (name : CString) (up : Bool) : Runs K (fun _ => 0) (ifcConfig name up) := by
  refine read_runs.bind fun env => tick_runs.bind fun k => ?_
  refine Runs.ite (Runs.pure rfl) ?_
  exact (emit_runs (e := .interface name up) rfl not_false).bind fun _ => Runs.pure rfl

theorem pdnLine_quiet (line : CString) : QuietBlock K (pdnLine line) := by
  refine (tokStart_quiet _).bind fun l => ?_
  refine (tokNextint_quiet l).bind fun (sessionId, l) => ?_
  refine (tokNextint_quiet l).bind fun (active, l) => ?_
  refine (tokNextstr_quiet l).bind fun (out, l) => ?_
  refine EmitsBlock.lift_bind (undefinedIf_runs _ _).emits fun _ => ?_
  exact (tokNextint_quiet l).bind fun (cid, _) => EmitsBlock.pure rfl

theorem getPdnTable_quiet (h : K.Harmless "AT%PDNACT?") : QuietBlock K getPdnTable := by
  refine EmitsBlock.lift_bind (atSendCommandMultiline_runs h).emits fun reply => ?_
  refine (succeeded_quiet reply).bind fun r => ?_
  refine (EmitsBlock.mapM _ fun line _ => pdnLine_quiet line).bind fun pdn => ?_
  exact EmitsBlock.pure rfl

theorem findApn_quiet {apn : Option CString} (h : apn = none → K.allowed .nullArgument)
    (pdns : List PdnTableEntry) : QuietBlock K (findApn apn pdns) := by
  induction pdns with
  | nil => exact EmitsBlock.gotoError
  | cons pdn pdns ih =>
    cases apn with
    | none => exact EmitsBlock.crash (h rfl) rfl
    | some name => exact EmitsBlock.ite (fun _ => EmitsBlock.pure rfl) fun _ => ih

theorem getPdnByApnName_quiet (hK : K.NoBad) {apn : Option CString}
    (h : apn = none → K.allowed .nullArgument) : QuietBlock K (getPdnByApnName apn) := by
  refine (getPdnTable_quiet (hK _)).bind fun tbl => ?_
  refine (findApn_quiet h tbl.pdn).bind fun pdn => ?_
  exact (gotoErrorIf_quiet _).bind fun _ => EmitsBlock.pure rfl

theorem pause_runs (hK : K.NoBad) : Runs K (fun _ => 0) pause :=
  read_runs.bind fun _ =>
    ((atSendCommandOnly_runs (hK _)).bind fun _ => Runs.pure rfl).onlyIf

theorem activateDataSessionPdn_quiet (hK : K.NoBad) (sessionId : Int) :
    QuietBlock K (activateDataSessionPdn sessionId) := by
  refine EmitsBlock.lift_bind (pause_runs hK).emits fun _ => ?_
  refine EmitsBlock.lift_bind (atSendCommand_runs (hK _)).emits fun reply => ?_
  refine EmitsBlock.lift_bind (pause_runs hK).emits fun _ => ?_
  refine (succeeded_quiet reply).bind fun _ => ?_
  exact EmitsBlock.lift_bind (ifcConfig_runs _ _).emits fun err => gotoErrorIf_quiet _

/-! ## The data call list -/

theorem convertMask_quiet (h : K.allowed .nullMask) (l : TokLine) (out : Nat) :
    Quiet K (convertMask l out) := by
  unfold convertMask
  split
  · exact Emits.stop h rfl
  · exact (undefinedIf_runs _ _).emits.bind fun _ => Emits.pure rfl

theorem getGlobalIpv6_runs (n : Nat) : Runs K (fun _ => 0) (getGlobalIpv6 n) := by
  induction n with
  | zero => exact Runs.pure rfl
  | succ n ih =>
    refine read_runs.bind fun env => tick_runs.bind fun k => ?_
    cases env.ipv6Address k with
    | some address => exact Runs.pure rfl
    | none => exact ih

theorem convertToIpv6Addr_runs (s : CString) : Runs K (fun _ => 0) (convertToIpv6Addr s) :=
  read_runs.bind fun _ => (undefinedIf_runs _ _).bind fun _ => Runs.pure rfl

theorem contrdpStart_quiet (pdn : PdnTableEntry) (call : DataCall) (isIpv6Line : Bool) :
    QuietBlock K (contrdpStart pdn call isIpv6Line) := by
  refine EmitsBlock.ite (fun _ => ?_) fun _ => ?_
  · exact EmitsBlock.ite (fun _ => EmitsBlock.pure rfl) fun _ => EmitsBlock.pure rfl
  · refine (gotoErrorIf_quiet _).bind fun _ => ?_
    refine EmitsBlock.lift_bind (undefinedIf_runs _ _).emits fun _ => ?_
    exact EmitsBlock.lift_bind read_runs.emits fun env => EmitsBlock.pure rfl

theorem contrdpAddresses_quiet (h : K.allowed .nullMask) (isIpv6Line : Bool) (call : DataCall)
    (l : TokLine) (out : Nat) : Quiet K (contrdpAddresses isIpv6Line call l out) := by
  refine Emits.ite (fun _ => ?_) fun _ => ?_
  · refine (getGlobalIpv6_runs 5).emits.bind fun found => ?_
    cases found with
    | some address => exact Emits.pure rfl
    | none => exact Emits.pure rfl
  · exact (convertMask_quiet h l out).bind fun l => Emits.pure rfl

theorem contrdpIpv6Dns_runs (call : DataCall) (l : TokLine) (out : Nat) :
    Runs K (fun _ => 0) (contrdpIpv6Dns call l out) := by
  refine (convertToIpv6Addr_runs _).bind fun first => ?_
  dsimp only
  split
  · refine Runs.ite (Runs.pure rfl) ?_
    exact (convertToIpv6Addr_runs _).bind fun second => Runs.pure rfl
  · exact Runs.pure rfl

theorem contrdpDns_runs (isIpv6Line : Bool) (call : DataCall) (l : TokLine) :
    Runs K (fun _ => 0) (contrdpDns isIpv6Line call l) := by
  unfold contrdpDns
  dsimp only
  split
  · exact Runs.ite (Runs.pure rfl) (Runs.ite (contrdpIpv6Dns_runs _ _ _) (Runs.pure rfl))
  · exact Runs.pure rfl

theorem contrdpFields_quiet (h : K.allowed .nullMask) (isIpv6Line : Bool) (call : DataCall)
    (l : TokLine) : QuietBlock K (contrdpFields isIpv6Line call l) := by
  refine (tokNextstr_quiet l).bind fun (_, l) => ?_
  refine (tokNextstr_quiet l).bind fun (_, l) => ?_
  refine (tokNextstr_quiet l).bind fun (out, l) => ?_
  refine EmitsBlock.lift_bind (contrdpAddresses_quiet h _ _ _ _) fun (call, l) => ?_
  refine (tokNextstr_quiet l).bind fun (gateway, l) => ?_
  exact EmitsBlock.lift (contrdpDns_runs _ _ _).emits

theorem findResponse_runs (st : ListState) (cid : Int) :
    Runs K (fun _ => 0) (findResponse st cid) :=
  read_runs.bind fun _ => (undefinedIf_runs _ _).bind fun _ => Runs.pure rfl

theorem contrdpLine_quiet (h : K.allowed .nullMask) (pdnList : List PdnTableEntry) (st : ListState)
    (line : CString) : QuietBlock K (contrdpLine pdnList st line) := by
  refine (tokStart_quiet _).bind fun l => ?_
  refine (tokNextint_quiet l).bind fun (cid, l) => ?_
  refine EmitsBlock.lift_bind (findResponse_runs st cid).emits fun (k, call) => ?_
  dsimp only
  cases pdnList[k]? with
  | none => exact EmitsBlock.gotoError
  | some pdn =>
    refine (contrdpStart_quiet pdn call st.isIpv6Line).bind fun start => ?_
    cases start with
    | none => exact EmitsBlock.pure rfl
    | some start => exact (contrdpFields_quiet h _ _ l).bind fun call => EmitsBlock.pure rfl

theorem contrdpLines_quiet (h : K.allowed .nullMask) (pdnList : List PdnTableEntry)
    (lines : List CString) (st : ListState) : QuietBlock K (contrdpLines pdnList lines st) := by
  induction lines generalizing st with
  | nil => exact EmitsBlock.pure rfl
  | cons line lines ih =>
    refine (contrdpLine_quiet h pdnList st line).bind fun (st, stop) => ?_
    cases stop with
    | true => exact EmitsBlock.pure rfl
    | false => exact ih st

theorem dataCallPass_quiet (hK : K.NoBad) (h : K.allowed .nullMask) (pdnList : List PdnTableEntry)
    (pdn : PdnTableEntry) (st : ListState) : QuietBlock K (dataCallPass pdnList pdn st) := by
  refine EmitsBlock.ite (fun _ => EmitsBlock.pure rfl) fun _ => ?_
  refine EmitsBlock.lift_bind (atSendCommandMultiline_runs (hK _)).emits fun reply => ?_
  exact (succeeded_quiet reply).bind fun r => contrdpLines_quiet h _ _ _

theorem dataCallLoop_quiet (hK : K.NoBad) (hmask : K.allowed .nullMask)
    (hfuel : K.allowed .outOfFuel) (pdnList : List PdnTableEntry) (fuel : Nat) (st : ListState) :
    QuietBlock K (dataCallLoop pdnList fuel st) := by
  induction fuel generalizing st with
  | zero =>
    unfold dataCallLoop
    cases pdnList[st.i]? with
    | none => exact EmitsBlock.pure rfl
    | some pdn => exact EmitsBlock.crash hfuel rfl
  | succ fuel ih =>
    unfold dataCallLoop
    cases pdnList[st.i]? with
    | none => exact EmitsBlock.pure rfl
    | some pdn => exact (dataCallPass_quiet hK hmask pdnList pdn st).bind fun st => ih _

theorem respondDataCalls_runs (e : Errno) (response : Payload) :
    Runs K (fun _ => 1) (respondDataCalls (some K.token) e response) :=
  onRequestComplete_runs e response

theorem requestDataCallList_once (hK : K.NoBad) (hmask : K.allowed .nullMask)
    (hfuel : K.allowed .outOfFuel) : Once K (requestDataCallList K.token) := by
  refine EmitsBlock.labelled ?_ (respondDataCalls_runs _ _).emits
  refine EmitsBlock.lift_bind read_runs.emits fun env => ?_
  refine EmitsBlock.bind ?_ fun pdnList => ?_
  · exact (getPdnTable_quiet (hK _)).bind fun tbl => EmitsBlock.pure rfl
  · refine (dataCallLoop_quiet hK hmask hfuel _ _ _).bind fun st => ?_
    exact EmitsBlock.lift (respondDataCalls_runs _ _).emits

/-! ### A single PDN

The search of a line ends at an entry of the list, so a list of one PDN is through after one
pass. -/

theorem contrdpLine_index (h : K.allowed .nullMask) (pdnList : List PdnTableEntry) (st : ListState)
    (line : CString) :
    BlockReturns (fun r => r.1.i < pdnList.length) (contrdpLine pdnList st line) := by
  refine BlockReturns.bind (tokStart_quiet (K := K) _) fun l => ?_
  refine BlockReturns.bind (tokNextint_quiet (K := K) l) fun (cid, l) => ?_
  refine BlockReturns.bind (EmitsBlock.lift (findResponse_runs (K := K) st cid).emits)
    fun (k, call) => ?_
  dsimp only
  cases hk : pdnList[k]? with
  | none => exact BlockReturns.gotoError
  | some pdn =>
    have hlt : k < pdnList.length := (List.getElem?_eq_some_iff.mp hk).1
    refine BlockReturns.bind (contrdpStart_quiet (K := K) pdn call st.isIpv6Line) fun start => ?_
    cases start with
    | none => exact BlockReturns.pure hlt
    | some start =>
      exact BlockReturns.bind (contrdpFields_quiet h _ _ l) fun call => BlockReturns.pure hlt

theorem contrdpLines_index (h : K.allowed .nullMask) (pdnList : List PdnTableEntry)
    (lines : List CString) (st : ListState) (hst : st.i < pdnList.length) :
    BlockReturns (fun st' => st'.i < pdnList.length) (contrdpLines pdnList lines st) := by
  induction lines generalizing st with
  | nil => exact BlockReturns.pure hst
  | cons line lines ih =>
    refine (contrdpLine_index h pdnList st line).bind_of fun (st, stop) hst => ?_
    cases stop with
    | true => exact BlockReturns.pure hst
    | false => exact ih st hst

theorem dataCallPass_index (hK : K.NoBad) (h : K.allowed .nullMask) (pdnList : List PdnTableEntry)
    (pdn : PdnTableEntry) (st : ListState) (hst : st.i < pdnList.length) :
    BlockReturns (fun st' => st'.i < pdnList.length) (dataCallPass pdnList pdn st) := by
  unfold dataCallPass
  dsimp only
  split
  · exact BlockReturns.pure hst
  · refine BlockReturns.bind (EmitsBlock.lift (atSendCommandMultiline_runs (hK _)).emits)
      fun reply => ?_
    refine BlockReturns.bind (succeeded_quiet (K := K) reply) fun r => ?_
    exact contrdpLines_index h pdnList r.intermediates _ hst

theorem dataCallLoop_single_quiet (hK : K.NoBad) (hmask : K.allowed .nullMask)
    (pdn : PdnTableEntry) (fuel : Nat) (st : ListState) (hst : st.i = 0) :
    QuietBlock K (dataCallLoop [pdn] (fuel + 1) st) := by
  have hlt : st.i < [pdn].length := by simp [hst]
  unfold dataCallLoop
  rw [hst]
  refine (dataCallPass_quiet hK hmask [pdn] pdn st).bind_of
    (dataCallPass_index hK hmask [pdn] pdn st hlt) fun st' hst' => ?_
  have hend : [pdn][st'.i + 1]? = none := by simp
  unfold dataCallLoop
  dsimp only
  rw [hend]
  exact EmitsBlock.pure rfl

theorem requestOrSendDataCallList_single_once (hK : K.NoBad) (hmask : K.allowed .nullMask)
    (pdn : PdnTableEntry) : Once K (requestOrSendDataCallList (some K.token) (some pdn)) := by
  refine EmitsBlock.labelled ?_ (respondDataCalls_runs _ _).emits
  refine EmitsBlock.lift_bind read_runs.emits fun env => ?_
  have hlist : pdnsToList (some pdn) = pure [pdn] := rfl
  rw [hlist, pure_bind]
  refine (dataCallLoop_single_quiet hK hmask pdn env.fuel _ rfl).bind fun st => ?_
  exact EmitsBlock.lift (respondDataCalls_runs _ _).emits

theorem findOrSetApn_quiet (hK : K.NoBad) {apn : Option CString}
    (h : apn = none → K.allowed .nullArgument) : QuietBlock K (findOrSetApn apn) := by
  refine EmitsBlock.lift_bind (getPdnByApnName_quiet hK h).run_quiet fun found => ?_
  cases found with
  | some pdn => exact EmitsBlock.pure rfl
  | none =>
    refine EmitsBlock.lift_bind (atSendCommandOnly_runs (hK _)).emits fun _ => ?_
    exact getPdnByApnName_quiet hK h

theorem requestSetupDataCall_once (hK : K.NoBad) (hmask : K.allowed .nullMask)
    {apn : Option CString} (harg : apn = none → K.allowed .nullArgument) :
    Once K (requestSetupDataCall K.token apn) := by
  refine EmitsBlock.labelled ?_ (onRequestComplete_runs _ _).emits
  refine EmitsBlock.lift_bind read_runs.emits fun env => ?_
  refine EmitsBlock.bind (EmitsBlock.onlyIf fun _ => ?_) fun _ => ?_
  · refine EmitsBlock.lift ((atSendCommandOnly_runs (hK _)).bind fun _ => ?_).emits
    exact (atSendCommandOnly_runs (hK _)).bind fun _ => Runs.pure rfl
  · refine (findOrSetApn_quiet hK harg).bind fun pdn => ?_
    refine (activateDataSessionPdn_quiet hK pdn.sessionId).bind fun _ => ?_
    exact EmitsBlock.lift (requestOrSendDataCallList_single_once hK hmask _)

theorem findCidOnStack_quiet (h : K.allowed .wildPointer) (env : Env) (cid : Int) (n k : Nat) :
    Quiet K (findCidOnStack env cid n k) := by
  induction n generalizing k with
  | zero => exact Emits.stop h rfl
  | succ n ih =>
    refine (undefinedIf_runs _ _).emits.bind fun _ => ?_
    exact Emits.ite (fun _ => Emits.pure rfl) fun _ => ih (k + 1)

theorem requestDeactivateDataCall_once (hK : K.NoBad) (h : K.allowed .wildPointer)
    (cid : CString) : Once K (requestDeactivateDataCall K.token cid) := by
  refine completing_once _ ?_
  refine (getPdnTable_quiet (hK _)).bind fun tbl => ?_
  refine EmitsBlock.lift_bind (read_runs.emits.bind fun env => ?_) fun pdn => ?_
  · cases tbl.pdn.find? (·.cid == atoi cid) with
    | some pdn => exact Emits.pure rfl
    | none => exact findCidOnStack_quiet h env (atoi cid) _ _
  · refine (gotoErrorIf_quiet _).bind fun _ => ?_
    refine EmitsBlock.lift_bind (atSendCommandOnly_runs (hK _)).emits fun reply => ?_
    refine (answered_quiet reply).bind fun _ => ?_
    refine EmitsBlock.lift_bind (ifcConfig_runs _ _).emits fun err => ?_
    exact (gotoErrorIf_quiet _).bind fun _ => EmitsBlock.pure rfl

/-! ## Network -/

theorem requestSetPreferredNetworkType_once (value : Int) :
    Once K (requestSetPreferredNetworkType K.token value) := by
  refine Emits.bind ?_ fun possible => (onRequestComplete_runs _ _).emits
  refine read_runs.emits.bind fun env => getStore_runs.emits.bind fun s => ?_
  refine (undefinedIf_runs _ _).emits.bind fun _ => ?_
  refine Emits.ite (fun _ => Emits.pure rfl) fun _ => ?_
  cases net2modem[value.toNat]? with
  | some techs => exact Emits.pure rfl
  | none => exact Emits.pure rfl

theorem requestQueryNetworkSelectionMode_once (hK : K.NoBad) :
    Once K (requestQueryNetworkSelectionMode K.token) := by
  refine completing_once _ ?_
  refine (queryLine_quiet (hK _)).bind fun l => ?_
  exact (tokNextint_quiet l).bind fun (response, _) => EmitsBlock.pure rfl

theorem disconnectLte_runs (hK : K.NoBad) : Runs K (fun _ => 0) disconnectLte :=
  (atSendCommand_runs (hK _)).bind fun _ => Runs.pure rfl

theorem connectLte_runs (hK : K.NoBad) : Runs K (fun _ => 0) connectLte :=
  (atSendCommand_runs (hK _)).bind fun _ => Runs.pure rfl

theorem plmnName_quiet (l : TokLine) : QuietBlock K (plmnName l) := by
  refine EmitsBlock.ite (fun _ => EmitsBlock.pure rfl) fun _ => ?_
  refine (tokNextint_quiet l).bind fun (_, l) => ?_
  refine (gotoErrorIf_quiet _).bind fun _ => ?_
  refine (tokNextstr_quiet l).bind fun (name, l) => ?_
  exact EmitsBlock.lift_bind (undefinedIf_runs _ _).emits fun _ => EmitsBlock.pure rfl

theorem getConnectModeAndPlmnName_quiet (hformat : K.Harmless "AT+COPS=3,2".toList)
    (hcops : K.Harmless "AT+COPS?".toList) : Quiet K getConnectModeAndPlmnName := by
  refine Emits.bind (EmitsBlock.run_quiet ?_) fun line => ?_
  · refine EmitsBlock.lift_bind (atSendCommandOnly_runs hformat).emits fun selected => ?_
    exact (answered_quiet selected).bind fun _ => queryLine_quiet hcops
  · cases line with
    | none => exact Emits.pure rfl
    | some l =>
      refine Emits.ite (fun _ => Emits.pure rfl) fun _ => ?_
      exact (plmnName_quiet _).run_quiet.bind fun name => Emits.pure rfl

theorem requestSetNetworkSelectionAutomatic_once (hK : K.NoBad) :
    Once K (requestSetNetworkSelectionAutomatic K.token) := by
  refine completing_once _ ?_
  refine EmitsBlock.lift_bind (getConnectModeAndPlmnName_quiet (hK _) (hK _)) fun (mode, _) => ?_
  refine EmitsBlock.bind (EmitsBlock.onlyIf fun _ => ?_) fun _ => EmitsBlock.pure rfl
  refine EmitsBlock.lift_bind (disconnectLte_runs hK).emits fun err => ?_
  refine (gotoErrorIf_quiet _).bind fun _ => ?_
  refine EmitsBlock.lift_bind (atSendCommandOnly_runs (hK _)).emits fun reply => ?_
  refine (answered_quiet reply).bind fun _ => ?_
  exact EmitsBlock.lift_bind (connectLte_runs hK).emits fun err => gotoErrorIf_quiet _

theorem requestSetNetworkSelectionManual_once (hK : K.NoBad) (mccMnc : CString) :
    Once K (requestSetNetworkSelectionManual K.token mccMnc) := by
  refine completing_once _ ?_
  refine EmitsBlock.lift_bind (getConnectModeAndPlmnName_quiet (hK _) (hK _)) fun (mode, cPlmn) => ?_
  refine EmitsBlock.bind (EmitsBlock.onlyIf fun _ => ?_) fun _ => ?_
  · refine EmitsBlock.lift_bind (disconnectLte_runs hK).emits fun err => ?_
    refine (gotoErrorIf_quiet _).bind fun _ => ?_
    refine EmitsBlock.lift_bind (atSendCommand_runs (hK _)).emits fun reply => ?_
    exact (succeeded_quiet reply).bind fun _ => EmitsBlock.pure rfl
  · refine EmitsBlock.lift_bind (connectLte_runs hK).emits fun err => ?_
    exact (gotoErrorIf_quiet _).bind fun _ => EmitsBlock.pure rfl

/-! ### The network scan

Each round of the loop is behind a parenthesis that lies behind those of the rounds before, so
the length of the line is enough. -/

theorem networkNames_before (l : TokLine) : l.Before (networkNames l).1 := by
  have hlong := atTokNextstr_before l
  have hshort := hlong.trans (atTokNextstr_before (atTokNextstr l).line)
  have hnumeric := hshort.trans (atTokNextstr_before (atTokNextstr (atTokNextstr l).line).line)
  unfold networkNames
  dsimp only
  split
  · exact hlong
  · exact hshort
  · exact hnumeric
  · exact hnumeric

theorem statStr_runs (stat : Int) : Runs K (fun _ => 0) (statStr stat) := by
  refine read_runs.bind fun env => (undefinedIf_runs _ _).bind fun _ => ?_
  exact Runs.ite (Runs.pure rfl) (Runs.pure rfl)

theorem networkEntry_runs (l : TokLine) : Runs K (fun _ => 0) (networkEntry l) := by
  unfold networkEntry
  dsimp only
  split
  · exact Runs.pure rfl
  · refine Runs.ite (Runs.pure rfl) ((statStr_runs _).bind fun stat => ?_)
    split
    · exact Runs.pure rfl
    · exact Runs.pure rfl

theorem networkEntry_before (K : Contract) (l : TokLine) :
    Returns (fun r => l.Before r.1) (networkEntry l) := by
  have hint := atTokNextint_before l
  have hnames := hint.trans (networkNames_before (atTokNextint l).line)
  unfold networkEntry
  dsimp only
  split
  · exact Returns.pure hint
  · split
    · exact Returns.pure hint
    · refine Returns.bind (statStr_runs (K := K) _).emits.returns fun stat _ => ?_
      revert hnames
      cases networkNames (atTokNextint l).line with
      | mk l' entry =>
        intro hnames
        cases entry with
        | none => exact Returns.pure hnames
        | some e => exact Returns.pure hnames

theorem networkLoop_quiet (h : K.allowed .nullLine) (count : Int) (fuel : Nat) (l : TokLine)
    (found : List Network) (hfuel : ∀ i ∈ l.cur, l.buf.length ≤ fuel + i) :
    Quiet K (networkLoop count fuel l found) := by
  induction fuel generalizing l found with
  | zero =>
    unfold networkLoop
    refine Emits.ite (fun _ => ?_) fun _ => Emits.pure rfl
    cases hi : l.cur with
    | none => exact Emits.stop h rfl
    | some i =>
      dsimp only
      cases hj : l.strchr '(' i with
      | none => exact Emits.pure rfl
      | some j =>
        have hle := hfuel i hi
        have hbounds := TokLine.strchr_bounds hj
        omega
  | succ fuel ih =>
    unfold networkLoop
    refine Emits.ite (fun _ => ?_) fun _ => Emits.pure rfl
    cases hi : l.cur with
    | none => exact Emits.stop h rfl
    | some i =>
      dsimp only
      cases hj : l.strchr '(' i with
      | none => exact Emits.pure rfl
      | some j =>
        have hle := hfuel i hi
        have hbounds := TokLine.strchr_bounds hj
        refine (networkEntry_runs _).emits.bind_of (networkEntry_before K _) fun (l', entry) hl' => ?_
        refine ih l' _ fun i' hi' => ?_
        obtain ⟨k, hk, hk'⟩ := hl'.2 i' hi'
        obtain rfl : j + 1 = k := by simpa using hk
        have hlen : l'.buf.length = l.buf.length := hl'.1
        omega

theorem requestQueryAvailableNetworks_once (hK : K.NoBad) (h : K.allowed .nullLine) :
    Once K (requestQueryAvailableNetworks K.token) := by
  refine completing_once _ ?_
  refine EmitsBlock.lift_bind (disconnectLte_runs hK).emits fun err => ?_
  refine (gotoErrorIf_quiet _).bind fun _ => ?_
  refine EmitsBlock.harmless_bind (hK _) fun raw => ?_
  refine (succeededLine_quiet raw).bind fun line => ?_
  refine EmitsBlock.lift_bind (undefinedIf_runs _ _).emits fun _ => ?_
  refine EmitsBlock.lift_bind (networkLoop_quiet h _ _ line [] fun i _ => Nat.le_add_right _ i)
    fun (l, found) => ?_
  refine EmitsBlock.lift_bind (connectLte_runs hK).emits fun err => ?_
  exact (gotoErrorIf_quiet _).bind fun _ => EmitsBlock.pure rfl

/-! ## Measurements -/

theorem reportedValue_quiet (l : TokLine) : QuietBlock K (reportedValue l) := by
  unfold reportedValue
  cases scanReported (l.text (l.cur.getD 0)) with
  | mismatch => exact EmitsBlock.gotoError
  | value v => exact EmitsBlock.pure rfl
  | eof =>
    refine EmitsBlock.lift_bind read_runs.emits fun env => ?_
    refine EmitsBlock.lift_bind tick_runs.emits fun k => ?_
    exact EmitsBlock.lift_bind (undefinedIf_runs _ _).emits fun _ => EmitsBlock.pure rfl

theorem requestSignalStrengthHelper_quiet (hK : K.NoBad) (type : MeasType) :
    QuietBlock K (requestSignalStrengthHelper type) := by
  refine (queryLine_quiet (hK _)).bind fun l => ?_
  refine EmitsBlock.ite (fun _ => ?_) fun _ => ?_
  · exact (tokNextint_quiet l).bind fun (v, _) => EmitsBlock.pure rfl
  · refine (reportedValue_quiet l).bind fun v => ?_
    refine EmitsBlock.ite (fun _ => ?_) fun _ => EmitsBlock.pure rfl
    exact EmitsBlock.lift_bind (undefinedIf_runs _ _).emits fun _ => EmitsBlock.pure rfl

theorem optionalMeasurement_quiet (hK : K.NoBad) (type : MeasType) :
    Quiet K (optionalMeasurement type) :=
  (requestSignalStrengthHelper_quiet hK type).run_quiet.bind fun _ => Emits.pure rfl

theorem requestSignalStrength_once (hK : K.NoBad) : Once K (requestSignalStrength K.token) := by
  refine completing_once _ ?_
  refine (requestSignalStrengthHelper_quiet hK .csq).bind fun csq => ?_
  refine EmitsBlock.lift_bind (optionalMeasurement_quiet hK .rsrp) fun rsrp => ?_
  refine EmitsBlock.lift_bind (optionalMeasurement_quiet hK .rsrq) fun rsrq => ?_
  refine EmitsBlock.lift_bind (optionalMeasurement_quiet hK .rssnr) fun rssnr => ?_
  exact EmitsBlock.lift_bind (optionalMeasurement_quiet hK .cqi) fun cqi => EmitsBlock.pure rfl

/-! ## Calls -/

theorem workaroundErroneousAnswer_quiet (line : Int) (calls : List RilCall) :
    QuietBlock K (workaroundErroneousAnswer line calls) := by
  refine EmitsBlock.lift_bind (modifyStore_runs _).emits fun _ => ?_
  refine EmitsBlock.lift_bind getStore_runs.emits fun s => ?_
  refine EmitsBlock.ite (fun _ => ?_) fun _ => EmitsBlock.lift (modifyStore_runs _).emits
  exact EmitsBlock.lift_bind (modifyStore_runs _).emits fun _ => EmitsBlock.gotoError

/-- A completion followed by statements that can neither complete nor fault. -/
theorem complete_then (e : Errno) (response : Payload) {p : Prog Unit}
    (h : Runs K (fun _ => 0) p) :
    EmitsBlock K (fun _ => 1)
      (liftM (onRequestComplete K.token e response) >>= fun _ => liftM p : Body Unit) := by
  rw [← liftM_bind]
  exact EmitsBlock.lift ((onRequestComplete_runs e response).emits.bind_runs fun _ => h)

theorem onlyIf_liftM (c : Prop) [Decidable c] (p : Prog Unit) :
    onlyIf c (liftM p : Body Unit) = liftM (onlyIf c p) := by
  unfold onlyIf
  split
  · rfl
  · rfl

theorem requestGetCurrentCalls_once (hK : K.NoBad) : Once K (requestGetCurrentCalls K.token) := by
  refine read_runs.emits.bind fun env => ?_
  refine Emits.ite (fun _ => ?_) fun _ => (onRequestComplete_runs _ _).emits
  refine EmitsBlock.labelled ?_ (onRequestComplete_runs _ _).emits
  refine EmitsBlock.lift_bind read_runs.emits fun env => ?_
  refine EmitsBlock.lift_bind getStore_runs.emits fun s => ?_
  refine EmitsBlock.bind (EmitsBlock.onlyIf fun _ => EmitsBlock.lift (modifyStore_runs _).emits)
    fun _ => ?_
  refine EmitsBlock.lift_bind (atSendCommandMultiline_runs (hK _)).emits fun reply => ?_
  refine (succeeded_quiet reply).bind fun r => ?_
  refine EmitsBlock.bind (EmitsBlock.onlyIf fun _ => workaroundErroneousAnswer_quiet _ _)
    fun _ => ?_
  rw [onlyIf_liftM]
  exact complete_then _ _ (emit_runs (e := .timedCallback .sendCallStateChanged) rfl not_false).onlyIf

theorem sendAndComplete_once (hK : K.NoBad) (c : CString) : Once K (sendAndComplete K.token c) :=
  (atSendCommandOnly_runs (hK _)).emits.bind fun _ => (onRequestComplete_runs _ _).emits

theorem answerAndComplete_once (hK : K.NoBad) (c : CString) :
    Once K (answerAndComplete K.token c) := by
  refine read_runs.emits.bind fun env => ?_
  refine (atSendCommandOnly_runs (hK _)).emits.bind fun _ => ?_
  refine (modifyStore_runs _).onlyIf.emits.bind fun _ => ?_
  exact (onRequestComplete_runs _ _).emits

theorem commandAndComplete_once (hK : K.NoBad) (c : CString) :
    Once K (commandAndComplete K.token c) := by
  refine completing_once _ ?_
  refine EmitsBlock.lift_bind (atSendCommand_runs (hK _)).emits fun reply => ?_
  exact (succeeded_quiet reply).bind fun _ => EmitsBlock.pure rfl

theorem requestDial_once (hK : K.NoBad) (dial : Dial) : Once K (requestDial K.token dial) := by
  refine completing_once _ ?_
  refine EmitsBlock.lift_bind (atSendCommandSingleline_runs (hK _)).emits fun reply => ?_
  exact (succeeded_quiet reply).bind fun _ => EmitsBlock.pure rfl

theorem requestSeparateConnection_once (hK : K.NoBad) (party : Int) :
    Once K (requestSeparateConnection K.token party) :=
  Emits.ite (fun _ => sendAndComplete_once hK _) fun _ => (onRequestComplete_runs _ _).emits

theorem requestGetLastCallFailCause_once (hK : K.NoBad) :
    Once K (requestGetLastCallFailCause K.token) := by
  refine completing_once _ ?_
  refine (queryLine_quiet (hK _)).bind fun l => ?_
  refine (tokNextstr_quiet l).bind fun (first, l) => ?_
  refine EmitsBlock.ite (fun _ => ?_) fun _ => EmitsBlock.pure rfl
  exact (tokNextstr_quiet l).bind fun (second, l) => EmitsBlock.pure rfl

theorem requestSetClir_once (h : K.allowed .wildPointer) (t : Token) (v : Int) :
    Once K (requestSetClir t v) := Emits.stop h rfl

theorem requestQuaryCallWaiting_once (hK : K.NoBad) (serviceClass : Int) :
    Once K (requestQuaryCallWaiting K.token serviceClass) := by
  refine completing_once _ ?_
  refine (queryLine_quiet (hK _)).bind fun l => ?_
  refine (tokNextint_quiet l).bind fun (status, l) => ?_
  exact (tokNextint_quiet l).bind fun (class1, _) => EmitsBlock.pure rfl

/-! ## SMS -/

theorem messageRef_quiet (raw : Reply) : QuietBlock K (messageRef raw.requireIntermediate) := by
  refine (succeededLine_quiet raw).bind fun line => ?_
  refine (tokStart_quiet line).bind fun l => ?_
  exact (tokNextint_quiet l).bind fun (msgRef, _) => EmitsBlock.pure rfl

theorem requestSendSms_once (hK : K.NoBad) (smsc : Option CString) (pdu : CString) :
    Once K (requestSendSms K.token smsc pdu) :=
  completing_once _ (EmitsBlock.harmless_bind (hK _) fun raw => messageRef_quiet raw)

theorem sendCdmaFormatedSms_once (hK : K.NoBad) (rcsm : CdmaSms) :
    Once K (sendCdmaFormatedSms K.token rcsm) := by
  refine completing_once _ ?_
  refine EmitsBlock.lift_bind read_runs.emits fun env => ?_
  cases env.serialize rcsm with
  | none => exact EmitsBlock.gotoError
  | some buffer => exact EmitsBlock.harmless_bind (hK _) fun raw => messageRef_quiet raw

theorem requestImsSendSms_once (hK : K.NoBad) (tech : Int) (rcsm : CdmaSms) :
    Once K (requestImsSendSms K.token tech rcsm) :=
  Emits.ite (fun _ => (onRequestComplete_runs _ _).emits) fun _ => sendCdmaFormatedSms_once hK rcsm

theorem requestWriteSmsToSim_once (hK : K.NoBad) (pdu : CString) (status : Int) :
    Once K (requestWriteSmsToSim K.token pdu status) := by
  refine completing_once _ (EmitsBlock.harmless_bind (hK _) fun raw => ?_)
  exact (succeeded_quiet _).bind fun _ => EmitsBlock.pure rfl

/-! ## SIM and CDMA -/

theorem requestSimIo_once (hK : K.NoBad) (io : SimIo) : Once K (requestSimIo K.token io) := by
  refine completing_once _ ?_
  refine (queryLine_quiet (hK _)).bind fun l => ?_
  refine (tokNextint_quiet l).bind fun (sw1, l) => ?_
  refine (tokNextint_quiet l).bind fun (sw2, l) => ?_
  refine EmitsBlock.ite (fun _ => ?_) fun _ => EmitsBlock.pure rfl
  exact (tokNextstr_quiet l).bind fun (simResponse, l) => EmitsBlock.pure rfl

theorem requestEnterSimPin_once (hK : K.NoBad) (pin : Option CString)
    (more : List (Option CString)) : Once K (requestEnterSimPin K.token pin more) := by
  refine completing_once _ ?_
  cases pinCommand pin more with
  | none => exact EmitsBlock.gotoError
  | some cmd =>
    refine EmitsBlock.lift_bind (atSendCommandSingleline_runs (hK _)).emits fun reply => ?_
    exact (succeeded_quiet reply).bind fun _ => EmitsBlock.pure rfl

theorem numericAndComplete_once (hK : K.NoBad) (c : CString) :
    Once K (numericAndComplete K.token c) := by
  refine completing_once _ (EmitsBlock.harmless_bind (hK _) fun raw => ?_)
  exact (succeededLine_quiet raw).bind fun line => EmitsBlock.pure rfl

theorem requestCdmaDeviceIdentity_once (hK : K.NoBad) :
    Once K (requestCdmaDeviceIdentity K.token) := by
  refine completing_once _ (EmitsBlock.harmless_bind (hK _) fun raw => ?_)
  exact (succeededLine_quiet raw).bind fun line => EmitsBlock.pure rfl

theorem requestCdmaGetSubscriptionSource_once (hK : K.NoBad) :
    Once K (requestCdmaGetSubscriptionSource K.token) := by
  refine completing_once _ ?_
  refine EmitsBlock.lift_bind read_runs.emits fun env => ?_
  exact (queryLine_quiet (hK _)).bind fun l => EmitsBlock.pure rfl

theorem requestCdmaSetSubscriptionSource_once (hK : K.NoBad) (ss : Option Int) :
    Once K (requestCdmaSetSubscriptionSource K.token ss) := by
  cases ss with
  | none => exact (onRequestComplete_runs _ _).emits
  | some ss =>
    refine EmitsBlock.labelled ?_ (onRequestComplete_runs _ _).emits
    refine EmitsBlock.lift_bind (atSendCommand_runs (hK _)).emits fun reply => ?_
    refine (succeeded_quiet reply).bind fun _ => ?_
    exact complete_then _ _ (onUnsolicitedResponse_runs _ _)

theorem requestCdmaGetRoamingPreference_once (hK : K.NoBad) :
    Once K (requestCdmaGetRoamingPreference K.token) := by
  refine completing_once _ ?_
  refine (queryLine_quiet (hK _)).bind fun l => ?_
  exact (tokNextint_quiet l).bind fun (pref, _) => EmitsBlock.pure rfl

theorem versionLine_quiet (hK : K.NoBad) (responsePrefix : CString) :
    Quiet K (versionLine responsePrefix) := by
  refine (atSendCommandSingleline_runs (hK _)).emits.bind fun reply => ?_
  split
  · exact Emits.pure rfl
  · exact Emits.pure rfl

theorem requestLteBaseBandVersion_once (hK : K.NoBad) :
    Once K (requestLteBaseBandVersion K.token) := by
  refine completing_once _ ?_
  refine EmitsBlock.lift_bind ((versionLine_quiet hK _).bind fun found => ?_) fun found => ?_
  · cases found with
    | some line => exact Emits.pure rfl
    | none => exact versionLine_quiet hK _
  · cases found with
    | none => exact EmitsBlock.gotoError
    | some line => exact (tokNextstr_quiet line).bind fun (version, l) => EmitsBlock.pure rfl

/-! ## Radio power

`onRadioPowerOn` is called in the state `RADIO_STATE_ON`, in which the SIM poll has nothing to
do. -/

theorem exec_pollSimState {env : Env} {w : World Store Event}
    (h : w.store.sState ≠ .simNotReady) : pollSimState.exec env w = (.ok (), w) := by
  unfold pollSimState
  rw [Traced.exec_bind, Traced.exec_getStore]
  dsimp only
  rw [if_pos h, Traced.exec_pure]

theorem powerOnTi_yields (hcphs : K.Harmless "AT%CPHS=1".toList)
    (hctzv : K.Harmless "AT%CTZV=1".toList) :
    Yields (fun s => s.sState ≠ .simNotReady)
      (fun _ s l => s.sState ≠ .simNotReady ∧ completions K.token l = 0 ∧ K.Clean l)
      (fun _ _ => False) powerOnTi := by
  intro env w hw
  refine ⟨[.at "AT%CPHS=1" (env.replies w.store.tick),
    .at "AT%CTZV=1" (env.replies (w.store.tick + 1))], ?_, hw, rfl, ?_⟩
  · exact List.append_assoc _ _ _
  · simpa [Contract.Clean, Contract.badEvent] using ⟨hcphs _, hctzv _⟩

/-- In a state other than `RADIO_STATE_SIM_NOT_READY` the poll returns at once. -/
theorem onRadioPowerOn_yields (hcphs : K.Harmless "AT%CPHS=1".toList)
    (hctzv : K.Harmless "AT%CTZV=1".toList) :
    Yields (fun s => s.sState ≠ .simNotReady)
      (fun _ _ l => completions K.token l = 0 ∧ K.Clean l) (fun _ _ => False) onRadioPowerOn := by
  have hread : Yields (fun s : Store => s.sState ≠ .simNotReady)
      (fun _ s l => s.sState ≠ .simNotReady ∧ l = [])
      (fun _ _ => False) (MonadReader.read : Prog Env) := Yields.read fun _ _ h => ⟨h, rfl⟩
  refine Yields.bind hread (fun _ _ h => h) fun env l => ?_
  refine Yields.assuming (fun _ h => h.2) fun hl => ?_
  subst hl
  have hti : Yields (fun s => s.sState ≠ .simNotReady)
      (fun _ s l => s.sState ≠ .simNotReady ∧ completions K.token l = 0 ∧ K.Clean l)
      (fun _ _ => False) (onlyIf env.build.useTi powerOnTi) := by
    unfold onlyIf
    split
    · exact powerOnTi_yields hcphs hctzv
    · exact Yields.pure fun _ h => ⟨h, rfl, Contract.clean_nil⟩
  refine Yields.bind (hti.mono (fun _ h => h.1) (fun _ _ _ h => h) (fun _ _ h => h))
    (fun _ _ h => h) fun _ l => ?_
  intro env w hw
  rw [exec_pollSimState hw.1]
  exact ⟨[], (List.append_nil _).symm, by simpa using hw.2⟩

theorem setRadioState_runs (hcphs : K.Harmless "AT%CPHS=1".toList)
    (hctzv : K.Harmless "AT%CTZV=1".toList) (newState : RadioState) :
    Runs K (fun _ => 0) (setRadioState newState) := by
  refine getStore_runs.bind fun old => (modifyStore_runs _).bind fun _ => ?_
  have hget : Yields (fun _ => True) (fun s s' l => s' = s ∧ l = []) (fun _ _ => False) getStore :=
    Yields.getStore fun _ _ => ⟨rfl, rfl⟩
  refine Yields.bind hget (fun _ _ h => h) fun s l => ?_
  refine Yields.assuming (fun _ h => h.2) fun hl => ?_
  subst hl
  -- the state that is tested is the one that `onRadioPowerOn` finds
  have hpower : Yields (fun s' => s' = s) (fun _ _ l => completions K.token l = 0 ∧ K.Clean l)
      (fun _ _ => False) (onlyIf (s.sState = .on) onRadioPowerOn) := by
    unfold onlyIf
    split
    · rename_i hon
      refine (onRadioPowerOn_yields hcphs hctzv).mono (fun s' hs' => ?_) (fun _ _ _ h => h)
        (fun _ _ h => h)
      rw [hs', hon]
      decide
    · exact Yields.pure fun _ _ => ⟨rfl, Contract.clean_nil⟩
  have hnotify : Yields (fun s' => s' = s)
      (fun _ s' l => s' = s ∧ completions K.token l = 0 ∧ K.Clean l) (fun _ _ => False)
      (onUnsolicitedResponse .radioStateChanged .null) :=
    Yields.emit fun _ h => ⟨h, rfl, Contract.clean_singleton.mpr not_false⟩
  unfold onlyIf
  split
  · refine Yields.bind (hnotify.mono (fun _ h => h.1) (fun _ _ _ h => h) (fun _ _ h => h))
      (fun _ _ h => h) fun _ l => ?_
    refine Yields.assuming (fun _ h => h.2) fun hl => ?_
    refine hpower.mono (fun _ h => h.1) (fun _ _ l' h => ?_) (fun _ _ h => h)
    exact ⟨by simp [hl.1, h.1], by simp [hl.2, h.2]⟩
  · exact Yields.pure fun _ _ => ⟨rfl, Contract.clean_nil⟩

theorem free_runs (p : ResponsePtr) : Runs K (fun _ => 0) p.free := by
  cases p with
  | null => exact Runs.pure rfl
  | live r => exact Runs.pure rfl
  | freed => exact (emit_runs (e := .undefined .doubleFree) rfl not_false).bind fun _ => Runs.pure rfl

theorem reliableAttempts_runs {send : Prog Reply} (h : Runs K (fun _ => 0) send) (n : Nat) (err : Int)
    (p : ResponsePtr) : Runs K (fun _ => 0) (reliableAttempts send n err p) := by
  induction n generalizing err p with
  | zero => exact Runs.pure rfl
  | succ n ih =>
    refine h.bind fun reply => ?_
    cases reply with
    | response r => exact Runs.ite (Runs.pure rfl) ((free_runs _).bind fun p => ih 0 p)
    | failed e r => exact (free_runs _).bind fun p => ih e.code p

theorem atSendCommandReliable_runs (hK : K.NoBad) (c : CString) (n : Nat) :
    Runs K (fun _ => 0) (atSendCommandReliable c n) :=
  (reliableAttempts_runs (atSendCommand_runs (hK _)) _ _ _).bind fun (_, _, _) => Runs.pure rfl

theorem isRadioOn_quiet (hK : K.NoBad) : Quiet K isRadioOn := by
  refine Emits.bind (EmitsBlock.run_quiet ?_) fun ret => Emits.pure rfl
  refine (queryLine_quiet (hK _)).bind fun l => ?_
  exact (tokNextbool_quiet l).bind fun (ret, _) => EmitsBlock.pure rfl

theorem reliableFailed_runs (err : Int) (p : ResponsePtr) :
    Runs K (fun _ => 0) (reliableFailed err p) := by
  refine Runs.ite (Runs.pure rfl) ?_
  cases p with
  | null => exact Runs.pure rfl
  | live r => exact Runs.pure rfl
  | freed =>
    refine (emit_runs (e := .undefined .useAfterFree) rfl not_false).bind fun _ => ?_
    exact read_runs.bind fun env => tick_runs.bind fun k => Runs.pure rfl

theorem freeAndGotoError_quiet (p : ResponsePtr) : QuietBlock K (freeAndGotoError p) :=
  EmitsBlock.lift_bind (free_runs p).emits fun _ => EmitsBlock.gotoError

theorem interfacesDown_quiet (pdns : List PdnTableEntry) : QuietBlock K (interfacesDown pdns) := by
  induction pdns with
  | nil => exact EmitsBlock.pure rfl
  | cons pdn pdns ih =>
    refine EmitsBlock.lift_bind (ifcConfig_runs _ _).emits fun err => ?_
    exact (gotoErrorIf_quiet _).bind fun _ => ih

theorem powerOff_quiet (hK : K.NoBad) : QuietBlock K powerOff := by
  refine (getPdnTable_quiet (hK _)).bind fun tbl => ?_
  refine (interfacesDown_quiet tbl.pdn).bind fun _ => ?_
  refine EmitsBlock.lift_bind (atSendCommandReliable_runs hK _ _).emits fun (err, p) => ?_
  refine EmitsBlock.lift_bind (reliableFailed_runs err p).emits fun failed => ?_
  refine EmitsBlock.bind (EmitsBlock.onlyIf fun _ => freeAndGotoError_quiet p) fun _ => ?_
  refine EmitsBlock.lift_bind (setRadioState_runs (hK _) (hK _) _).emits fun _ => ?_
  exact EmitsBlock.lift_bind (free_runs p).emits fun _ => EmitsBlock.pure rfl

theorem powerOn_quiet (hK : K.NoBad) : QuietBlock K powerOn := by
  refine EmitsBlock.lift_bind (atSendCommandReliable_runs hK _ _).emits fun (err, p) => ?_
  refine EmitsBlock.lift_bind (reliableFailed_runs err p).emits fun failed => ?_
  refine EmitsBlock.bind (EmitsBlock.onlyIf fun _ => ?_) fun _ => ?_
  · refine EmitsBlock.lift_bind (isRadioOn_quiet hK) fun on => ?_
    exact EmitsBlock.onlyIf fun _ => freeAndGotoError_quiet p
  · refine EmitsBlock.lift_bind (setRadioState_runs (hK _) (hK _) _).emits fun _ => ?_
    exact EmitsBlock.lift_bind (free_runs p).emits fun _ => EmitsBlock.pure rfl

theorem requestRadioPower_once (hK : K.NoBad) (onOff : Int) :
    Once K (requestRadioPower K.token onOff) := by
  refine completing_once _ ?_
  refine EmitsBlock.lift_bind getStore_runs.emits fun s => ?_
  refine EmitsBlock.bind (EmitsBlock.onlyIf fun _ => powerOff_quiet hK) fun _ => ?_
  exact EmitsBlock.bind (EmitsBlock.onlyIf fun _ => powerOn_quiet hK) fun _ => EmitsBlock.pure rfl

end AndroidPatch.Ril.Altair
