import AndroidPatch.Ril.Altair.Proofs.AddressMask
import AndroidPatch.Ril.Altair.Proofs.Tokens
import AndroidPatch.Ril.Altair.Proofs.OnRequest

/-!
# The first line of a data call

What `requestOrSendDataCallList` makes of a `+CGCONTRDP` line in the documented form, for any table
and any entry of it: the address with its mask, the gateway and the DNS servers.
-/

namespace AndroidPatch.Ril.Altair

open AtChannel

/-! ## The documented form -/

/-- The fields of a line, from `<cid>` to `<DNS_prim_addr>` and what follows it. -/
structure Contrdp where
  pre : CString
  cid : Field
  bearer : Field
  apn : Field
  address : Field
  gateway : Field
  primary : Field
  more : List Field

namespace Contrdp

def fields (c : Contrdp) : List Field :=
  c.bearer :: c.apn :: c.address :: c.gateway :: c.primary :: c.more

def line (c : Contrdp) : CString := c.pre ++ ':' :: renderFields c.cid c.fields

/-- A line for the data call `cid`, with nothing behind a closing quote. -/
structure Ok (c : Contrdp) (cid : Int) : Prop where
  pre : ':' ∉ c.pre
  fields : ∀ f ∈ c.cid :: c.fields, f.Ok ∧ f.stray = []
  noNul : nul ∉ c.line
  cid : decimal c.cid.value = some cid

end Contrdp

theorem tokNextstr_field {f : Field} (hf : f.Ok) {done rest : CString}
    (hnul : nul ∉ f.renderThen (some rest)) :
    tokNextstr (.behind done (f.renderThen (some rest))) =
      pure ((done ++ f.lead).length, .behind (done ++ f.lead ++ f.value ++ f.sep) rest) := by
  rw [tokNextstr, Field.atTokNextstr_field hf _ hnul]
  rfl

/-! ## The DNS servers -/

/-- What is reported of the servers: the second one stands behind the first only if its token starts
    right behind the terminator of the first. A quoted first one takes a blank with it. -/
def joinedDns (primary : Field) (more : List Field) : CString :=
  match more with
  | [] => if primary.quoted then primary.value ++ [' '] else primary.value
  | secondary :: _ =>
      if primary.quoted = false ∧ secondary.lead = [] then
        primary.value ++ ' ' :: secondary.value
      else primary.value

/-- The primary server without another. -/
theorem contrdpDns_one {primary : Field} (hf : primary.Ok) (hstray : primary.stray = [])
    {done : CString} (hnul : nul ∉ renderFields primary []) (call : DataCall) :
    contrdpDns false call (.behind done (renderFields primary [])) =
      pure { call with dnses := joinedDns primary [] } := by
  have hvalue : nul ∉ primary.value := by
    unfold renderFields Field.renderThen Field.render at hnul
    cases hq : primary.quoted <;> simp_all
  have hfirst := atTokNextstr_behind done hnul
  rw [renderFields, Field.cutField_renderThen hf] at hfirst
  rw [contrdpDns, renderFields, hfirst]
  show pure (contrdpIpv4Dns call ((primary.cut none).line done) ((primary.cut none).index done)) = _
  congr 1
  have hindex : (primary.cut none).index done = (done ++ primary.lead).length := rfl
  rw [hindex, joinedDns]
  cases hq : primary.quoted with
  | false =>
    have hline : (primary.cut none).line done = ⟨done ++ primary.lead ++ primary.value, none⟩ := by
      simp [Field.cut, Cut.line, hq]
    have hnext : atTokNextstr ⟨done ++ primary.lead ++ primary.value, none⟩ =
        ⟨-1, none, ⟨done ++ primary.lead ++ primary.value, none⟩⟩ := rfl
    rw [contrdpIpv4Dns, hline, hnext]
    show { call with dnses := _ } = _
    rw [TokLine.text_of_end hvalue]
    rfl
  | true =>
    have hline : (primary.cut none).line done =
        .behind (done ++ primary.lead ++ (primary.value ++ [nul])) [] := by
      simp [Field.cut, Cut.line, hq, hstray]
    have hnext : atTokNextstr ((primary.cut none).line done) =
        ⟨0, some (done ++ primary.lead ++ (primary.value ++ [nul])).length,
          ⟨done ++ primary.lead ++ (primary.value ++ [nul]), none⟩⟩ := by
      rw [hline, atTokNextstr_behind _ (by simp)]
      simp [cutField, cutAt, Cut.index, Cut.line]
    have hplace : (done ++ primary.lead ++ (primary.value ++ [nul])).length - 1 =
        (done ++ primary.lead).length + primary.value.length := by
      simp [← Nat.add_assoc]
    have hjoin := @TokLine.text_store_nul (done ++ primary.lead) primary.value [] none ' ' hvalue
      (by decide)
    rw [contrdpIpv4Dns, hnext]
    show { call with dnses := _ } = _
    rw [hplace, hjoin]
    simp [TokLine.text]

theorem contrdpDns_two {primary secondary : Field} {more : List Field} (hf : primary.Ok)
    (hs : secondary.Ok) {done : CString} (hnul : nul ∉ renderFields primary (secondary :: more))
    (call : DataCall) :
    contrdpDns false call (.behind done (renderFields primary (secondary :: more))) =
      pure { call with dnses := joinedDns primary (secondary :: more) } := by
  obtain ⟨hvalue, hrest⟩ := Field.nul_not_mem_renderThen hnul
  -- the text ahead behind the primary server, with the cut of the secondary one
  obtain ⟨rest, hrender⟩ : ∃ rest, renderFields secondary more = secondary.renderThen rest := by
    cases more with
    | nil => exact ⟨none, rfl⟩
    | cons g gs => exact ⟨some (renderFields g gs), rfl⟩
  have hcut : cutField (renderFields secondary more) = secondary.cut rest := by
    rw [hrender, Field.cutField_renderThen hs]
  have htoken := text_index (done ++ primary.lead ++ primary.value ++ primary.sep) hrest
  have hnext := atTokNextstr_behind (done ++ primary.lead ++ primary.value ++ primary.sep) hrest
  rw [hcut] at htoken hnext
  rw [contrdpDns, renderFields, Field.atTokNextstr_field hf _ hnul]
  show pure (contrdpIpv4Dns call _ _) = _
  congr 1
  rw [contrdpIpv4Dns, hnext]
  show { call with dnses := _ } = _
  congr 1
  -- the line with the terminator of the primary server in it
  obtain ⟨b, cur, hline⟩ := (secondary.cut rest).line_eq
    (done ++ primary.lead ++ primary.value ++ primary.sep)
  have hlead : (secondary.cut rest).skipped = secondary.lead := rfl
  obtain ⟨sep', hsep⟩ := primary.sep_eq
  have hbuf : done ++ primary.lead ++ primary.value ++ primary.sep ++ (secondary.lead ++ b) =
      done ++ primary.lead ++ (primary.value ++ nul :: (sep' ++ (secondary.lead ++ b))) := by
    rw [hsep]
    simp
  rw [hlead, hbuf] at hline
  rw [Cut.index, hlead] at htoken ⊢
  rw [hline] at htoken ⊢
  dsimp only
  rw [joinedDns]
  by_cases hjoin : primary.quoted = false ∧ secondary.lead = []
  · have hsep' : sep' = [] := by
      rw [Field.sep, hjoin.1] at hsep
      simpa using hsep.symm
    have hplace : (done ++ primary.lead ++ primary.value ++ primary.sep ++ secondary.lead).length - 1 =
        (done ++ primary.lead).length + primary.value.length := by
      rw [hsep, hsep', hjoin.2]
      simp only [List.length_append, List.length_cons, List.length_nil]
      omega
    have hindex : done ++ primary.lead ++ primary.value ++ primary.sep ++ secondary.lead =
        done ++ primary.lead ++ (primary.value ++ [nul]) := by
      rw [hsep, hsep', hjoin.2]
      simp
    rw [hindex] at htoken
    rw [hplace, TokLine.text_store_nul hvalue (by decide), htoken, if_pos hjoin]
    rfl
  · have hlong : 0 < (sep' ++ secondary.lead).length := by
      rw [List.length_pos_iff]
      intro hnil
      obtain ⟨hsep', hlead'⟩ := List.append_eq_nil_iff.mp hnil
      refine hjoin ⟨?_, hlead'⟩
      cases hq : primary.quoted with
      | false => rfl
      | true =>
        rw [Field.sep, hq, hsep'] at hsep
        simp at hsep
    have hplace : (done ++ primary.lead ++ primary.value ++ primary.sep ++ secondary.lead).length - 1 =
        (done ++ primary.lead ++ (primary.value ++ [nul])).length +
          ((sep' ++ secondary.lead).length - 1) := by
      rw [hsep]
      simp only [List.length_append, List.length_cons, List.length_nil] at hlong ⊢
      omega
    rw [hplace, TokLine.text_store_behind hvalue, if_neg hjoin]

/-! ## The fields -/

/-- The address field is an address and a mask of four octets. -/
structure AddressField (f : Field) (address : CString) (octets : List CString) : Prop where
  value : f.value = address ++ '.' :: dotted octets
  dots : address.count '.' = 3
  four : octets.length = 4
  undotted : ∀ o ∈ octets, '.' ∉ o

/-- The address is rewritten in its place, wherever the field ends. -/
theorem contrdpAddresses_eq {f : Field} {address : CString} {octets : List CString}
    (hf : AddressField f address octets) (hnul : nul ∉ f.value) (done : CString) {rest : CString}
    (cur : Option Nat) (hrest : rest = [] ∨ ∃ rest', rest = nul :: rest') (call : DataCall) :
    contrdpAddresses false call ⟨done ++ (f.value ++ rest), cur⟩ done.length =
      pure ({ call with addresses := address ++ '/' :: dec (8 * countedOctets octets : Nat) },
        ⟨done ++ (address ++ '/' :: dec (8 * countedOctets octets : Nat)) ++
          nul :: (dotted octets ++ rest).drop ((dec (8 * countedOctets octets : Nat)).length + 1),
          cur⟩) := by
  obtain ⟨hvalue, hdots, hfour, hoctets⟩ := hf
  have hne : octets ≠ [] := by
    rintro rfl
    cases hfour
  have hfits := length_dec_countedOctets hfour
  rw [hvalue] at hnul ⊢
  have htext : TokLine.text ⟨done ++ ((address ++ '.' :: dotted octets) ++ rest), cur⟩ done.length =
      address ++ '.' :: dotted octets := by
    rcases hrest with rfl | ⟨rest', rfl⟩
    · rw [List.append_nil]
      exact TokLine.text_of_end hnul
    · exact TokLine.text_of_nul hnul
  have hconvert := convertMask_eq htext hdots hne hoctets hfits
  have hpfx : nul ∉ dec (8 * countedOctets octets : Nat) := not_mem_dec (by decide) _
  generalize dec (8 * countedOctets octets : Nat) = pfx at hfits hconvert hpfx ⊢
  have hnumber : nul ∉ address ++ '/' :: pfx := by
    simp only [List.mem_append, List.mem_cons, not_or] at hnul ⊢
    exact ⟨hnul.1, by decide, hpfx⟩
  rw [contrdpAddresses, if_neg (by decide), hconvert, pure_bind,
    List.append_assoc done, TokLine.text_of_nul hnumber]

theorem contrdpAddresses_field {f : Field} {address : CString} {octets : List CString}
    (hf : AddressField f address octets) (hnul : nul ∉ f.value) (done rest : CString)
    (call : DataCall) :
    ∃ done', contrdpAddresses false call (.behind (done ++ f.lead ++ f.value ++ f.sep) rest)
        (done ++ f.lead).length =
      pure ({ call with addresses := address ++ '/' :: dec (8 * countedOctets octets : Nat) },
        .behind done' rest) := by
  obtain ⟨sep, hsep⟩ := f.sep_eq
  have hline : TokLine.behind (done ++ f.lead ++ f.value ++ f.sep) rest =
      ⟨done ++ f.lead ++ (f.value ++ nul :: (sep ++ rest)),
        some (done ++ f.lead ++ f.value ++ f.sep).length⟩ := by
    rw [TokLine.behind, hsep]
    simp
  have hfits := length_dec_countedOctets hf.four
  have hlength : f.value.length = address.length + 1 + (dotted octets).length := by
    rw [hf.value, List.length_append, List.length_cons]
    omega
  have haddress := contrdpAddresses_eq hf hnul (done ++ f.lead)
    (some (done ++ f.lead ++ f.value ++ f.sep).length) (.inr ⟨sep ++ rest, rfl⟩) call
  generalize dec (8 * countedOctets octets : Nat) = pfx at hfits haddress ⊢
  have hdrop : (dotted octets ++ nul :: (sep ++ rest)).drop (pfx.length + 1) =
      (dotted octets ++ nul :: sep).drop (pfx.length + 1) ++ rest := by
    rw [← List.drop_append_of_le_length]
    · simp
    · simp only [List.length_append, List.length_cons]
      omega
  refine ⟨done ++ f.lead ++ (address ++ '/' :: pfx) ++
    nul :: (dotted octets ++ nul :: sep).drop (pfx.length + 1), ?_⟩
  have hcursor : (done ++ f.lead ++ f.value ++ f.sep).length =
      (done ++ f.lead ++ (address ++ '/' :: pfx) ++
        nul :: (dotted octets ++ nul :: sep).drop (pfx.length + 1)).length := by
    rw [hsep]
    simp only [List.length_append, List.length_cons, List.length_drop, hlength]
    omega
  rw [hline, haddress, TokLine.behind, hdrop, hcursor]
  simp

/-- The fields behind the cid. -/
theorem contrdpFields_eq {bearer apn addr gateway primary : Field} {more : List Field}
    {address : CString} {octets : List CString}
    (hok : ∀ f ∈ bearer :: apn :: addr :: gateway :: primary :: more, f.Ok ∧ f.stray = [])
    (haddr : AddressField addr address octets) {done : CString}
    (hnul : nul ∉ renderFields bearer (apn :: addr :: gateway :: primary :: more))
    (call : DataCall) :
    contrdpFields false call
        (.behind done (renderFields bearer (apn :: addr :: gateway :: primary :: more))) =
      pure { call with
        addresses := address ++ '/' :: dec (8 * countedOctets octets : Nat)
        gateways := gateway.value
        dnses := joinedDns primary more } := by
  simp only [List.forall_mem_cons] at hok
  obtain ⟨hbearer, hapn, haddrOk, hgateway, hprimary, hmore⟩ := hok
  have hnul1 := (Field.nul_not_mem_renderThen hnul).2
  have hnul2 := (Field.nul_not_mem_renderThen hnul1).2
  obtain ⟨hvalue, hnul3⟩ := Field.nul_not_mem_renderThen hnul2
  obtain ⟨hgatewayValue, hnul4⟩ := Field.nul_not_mem_renderThen hnul3
  unfold contrdpFields
  rw [renderFields, tokNextstr_field hbearer.1 hnul, pure_bind]
  dsimp only
  rw [renderFields, tokNextstr_field hapn.1 hnul1, pure_bind]
  dsimp only
  rw [renderFields, tokNextstr_field haddrOk.1 hnul2, pure_bind]
  dsimp only
  obtain ⟨done', haddress⟩ := contrdpAddresses_field haddr hvalue
    (done ++ bearer.lead ++ bearer.value ++ bearer.sep ++ apn.lead ++ apn.value ++ apn.sep)
    (renderFields gateway (primary :: more)) call
  rw [haddress, liftM_pure, pure_bind]
  dsimp only
  rw [renderFields, tokNextstr_field hgateway.1 hnul3, pure_bind]
  dsimp only
  rw [Field.text_value hgatewayValue, if_neg (by decide)]
  cases more with
  | nil =>
    rw [contrdpDns_one hprimary.1 hprimary.2 hnul4]
    exact liftM_pure _
  | cons secondary more =>
    rw [contrdpDns_two hprimary.1 (hmore secondary List.mem_cons_self).1 hnul4]
    exact liftM_pure _

/-! ## The line -/

/-- The line is the first one about entry `k` of the table, which is `pdn`: the entry has been
    reached, no line has set it, and none of its pass has been about another protocol. -/
structure FirstFor (pdnList : List PdnTableEntry) (env : Env) (st : ListState) (cid : Int) (k : Nat)
    (pdn : PdnTableEntry) : Prop where
  found : st.findCid env cid = k
  entry : pdnList[k]? = some pdn
  reached : (st.responses.take (k + 1)).any Option.isNone = false
  status : (st.response env k).status = -1
  ipv4 : st.isIpv6Line = false
  session : 0 ≤ pdn.sessionId ∧ pdn.sessionId < maxNumOfPdn

/-- Wherever the line is the first one about its data call, it sets a response with `P` in the
    array that is reported, and leaves no other trace. -/
def Reports (line : CString) (cid : Int) (P : DataCall → Prop) : Prop :=
  ∀ pdnList env st k pdn w, FirstFor pdnList env st cid k pdn → ∃ call, P call ∧
    (contrdpLine pdnList st line).exec env w =
      (.ok (some ({ ({ st with i := k }.setResponse k call) with isIpv6Line := false }, false)), w)

/-- The response to a first line, without the addresses. -/
def DataCall.started (call : DataCall) (pdn : PdnTableEntry) : DataCall :=
  { call with status := 0, type := "IP", ifname := ifName pdn.sessionId }

section Line

variable {pdnList : List PdnTableEntry} {env : Env} {st : ListState} {cid : Int} {k : Nat}
  {pdn : PdnTableEntry}

theorem exec_findResponse (hfound : st.findCid env cid = k)
    (hreached : (st.responses.take (k + 1)).any Option.isNone = false) (w : World Store Event) :
    (findResponse st cid).exec env w = (.ok (k, st.response env k), w) := by
  unfold findResponse
  rw [Traced.exec_bind_of_ok (Traced.exec_read env w)]
  dsimp only
  rw [Traced.exec_bind_of_ok (exec_undefinedIf _ _ env w), hfound, hreached]
  simp

theorem exec_contrdpStart (hfirst : FirstFor pdnList env st cid k pdn) (w : World Store Event) :
    (contrdpStart pdn (st.response env k) st.isIpv6Line).exec env w =
      (.ok (some (some ((st.response env k).started pdn, false))), w) := by
  obtain ⟨hsession, hmax⟩ := hfirst.session
  have hmax' : ¬ (maxNumOfPdn : Int) ≤ pdn.sessionId := by omega
  have hneg : ¬ pdn.sessionId < 0 := by omega
  have hguard : (gotoErrorIf ((maxNumOfPdn : Int) ≤ pdn.sessionId) : Body Unit).exec env w =
      (.ok (some ()), w) := by
    rw [Block.exec_gotoErrorIf, if_neg hmax']
  have hbounds : (undefinedIf (pdn.sessionId < 0) .outOfBounds).exec env w = (.ok (), w) := by
    rw [exec_undefinedIf, if_neg hneg, List.append_nil]
  have hread : (read : Body Env).exec env w = (.ok (some env), w) := rfl
  unfold contrdpStart
  rw [if_neg (not_not_intro hfirst.status), Block.exec_bind_of_some hguard,
    Block.exec_lift_bind_of_ok hbounds, Block.exec_bind_of_some hread]
  dsimp only
  rw [Block.exec_pure, if_neg hneg, hfirst.ipv4]
  rfl

/-- A first line up to its fields. -/
theorem exec_contrdpLine_first {pre : CString} {f : Field} {rest : CString} (hpre : ':' ∉ pre)
    (hf : f.Ok) (hcid : decimal f.value = some cid)
    (hnul : nul ∉ pre ++ ':' :: f.renderThen (some rest))
    (hfirst : FirstFor pdnList env st cid k pdn) (w : World Store Event) :
    ∃ done, (contrdpLine pdnList st (pre ++ ':' :: f.renderThen (some rest))).exec env w =
      (do
        let call ← contrdpFields false ((st.response env k).started pdn) (.behind done rest)
        return ({ ({ st with i := k }.setResponse k call) with isIpv6Line := false }, false) :
        Body (ListState × Bool)).exec env w := by
  have hstart := tokStart_ofString hnul
  rw [cutAt_append hpre] at hstart
  obtain ⟨l, hsees, hstart⟩ := hstart
  have hread := reads_nextint l _ hsees
  rw [readField, Field.cutField_renderThen hf] at hread
  simp only [Field.cut, hcid, Option.map_some] at hread
  obtain ⟨_, ⟨-, done, rfl⟩, hnext⟩ := hread
  refine ⟨done, ?_⟩
  unfold contrdpLine
  rw [hstart, pure_bind, hnext, pure_bind]
  dsimp only
  rw [Block.exec_lift_bind_of_ok (exec_findResponse hfirst.found hfirst.reached w)]
  dsimp only
  rw [hfirst.entry]
  dsimp only
  rw [Block.exec_bind_of_some (exec_contrdpStart hfirst w)]

end Line

/-- A line in the documented form sets the address with its mask, the gateway and the servers. -/
theorem reports_contrdp {c : Contrdp} {cid : Int} {address : CString} {octets : List CString}
    (hok : c.Ok cid) (haddr : AddressField c.address address octets) :
    Reports c.line cid fun call =>
      call.addresses = address ++ '/' :: dec (8 * countedOctets octets : Nat) ∧
      call.gateways = c.gateway.value ∧ call.dnses = joinedDns c.primary c.more := by
  intro pdnList env st k pdn w hfirst
  obtain ⟨hcidOk, hfields⟩ := List.forall_mem_cons.mp hok.fields
  have hnul : nul ∉ renderFields c.bearer
      (c.apn :: c.address :: c.gateway :: c.primary :: c.more) := by
    have hline : nul ∉ c.cid.renderThen (some (renderFields c.bearer
        (c.apn :: c.address :: c.gateway :: c.primary :: c.more))) :=
      fun hmem => hok.noNul (List.mem_append_right c.pre (List.mem_cons_of_mem ':' hmem))
    exact (Field.nul_not_mem_renderThen hline).2
  obtain ⟨done, hexec⟩ := exec_contrdpLine_first hok.pre hcidOk.1 hok.cid hok.noNul hfirst w
  rw [contrdpFields_eq hfields haddr hnul, pure_bind, Block.exec_pure] at hexec
  exact ⟨_, ⟨rfl, rfl, rfl⟩, hexec⟩

/-- A table of one entry when its command is sent. -/
def oneEntry (cid : Int) : ListState :=
  ⟨[some (initialResponse ⟨1, cid, 1, []⟩)], 0, false⟩

theorem firstFor_oneEntry (env : Env) (cid : Int) :
    FirstFor [⟨1, cid, 1, []⟩] env (oneEntry cid) cid 0 ⟨1, cid, 1, []⟩ := by
  refine ⟨?_, rfl, rfl, rfl, rfl, by simp [maxNumOfPdn]⟩
  simp [ListState.findCid, ListState.response, oneEntry, initialResponse, List.range_succ]

/-- The response that a line sets in the table can be read off the array. -/
theorem setResponse_oneEntry {cid : Int} {env : Env} {line : CString} {w : World Store Event}
    {call call' : DataCall}
    (h : (contrdpLine [⟨1, cid, 1, []⟩] (oneEntry cid) line).exec env w =
      (.ok (some ({ ({ oneEntry cid with i := 0 }.setResponse 0 call) with isIpv6Line := false },
        false)), w))
    (h' : (contrdpLine [⟨1, cid, 1, []⟩] (oneEntry cid) line).exec env w =
      (.ok (some ({ ({ oneEntry cid with i := 0 }.setResponse 0 call') with isIpv6Line := false },
        false)), w)) : call = call' := by
  have hst := congrArg Prod.fst (h.symm.trans h')
  injection hst with hst
  injection hst with hst
  have hresponses := congrArg (fun r => r.1.responses) hst
  simpa [ListState.setResponse, oneEntry] using hresponses

/-- A line sets one response: what it reports in two ways is reported of the same one. -/
theorem Reports.both {line : CString} {cid : Int} {P Q : DataCall → Prop}
    (hP : Reports line cid P) (hQ : Reports line cid Q) : ∃ call, P call ∧ Q call := by
  have hfirst := firstFor_oneEntry (.constant (.failed .generic none)) cid
  obtain ⟨call, hcall, hexec⟩ := hP _ _ _ _ _ ⟨.radioOn, []⟩ hfirst
  obtain ⟨call', hcall', hexec'⟩ := hQ _ _ _ _ _ ⟨.radioOn, []⟩ hfirst
  exact ⟨call, hcall, setResponse_oneEntry hexec hexec' ▸ hcall'⟩

theorem Reports.mono {line : CString} {cid : Int} {P Q : DataCall → Prop}
    (h : Reports line cid P) (hPQ : ∀ call, P call → Q call) : Reports line cid Q := by
  intro pdnList env st k pdn w hfirst
  obtain ⟨call, hcall, hexec⟩ := h pdnList env st k pdn w hfirst
  exact ⟨call, hPQ call hcall, hexec⟩

/-- The event of `respondDataCalls`. -/
def responseEvent (t : Option Token) (e : Errno) (response : Payload) : Event :=
  match t with
  | some t => .complete t e response
  | none => .unsolicited .dataCallListChanged response

theorem exec_respondDataCalls (t : Option Token) (e : Errno) (response : Payload) (env : Env)
    (w : World Store Event) :
    (respondDataCalls t e response).exec env w =
      (.ok (), { w with trace := w.trace ++ [responseEvent t e response] }) := by
  cases t <;> rfl

/-- The request for one data call, when the modem answers with the line alone. -/
theorem Reports.alone {line : CString} {cid : Int} {P : DataCall → Prop} (h : Reports line cid P)
    {pdn : PdnTableEntry} {env : Env} {w : World Store Event} {final : Option CString}
    (hcid : pdn.cid = cid) (hactive : pdn.active ≠ 0)
    (hsession : 0 ≤ pdn.sessionId ∧ pdn.sessionId < maxNumOfPdn)
    (hreply : env.replies w.store.tick = .response ⟨true, final, [line]⟩) (t : Option Token) :
    ∃ call, P call ∧ (requestOrSendDataCallList t (some pdn)).exec env w =
      (.ok (), asked w [.at ("AT+CGCONTRDP=" ++ dec cid) (.response ⟨true, final, [line]⟩),
        responseEvent t .success (.dataCalls [call])]) := by
  -- the array when the command is sent
  let st : ListState := ⟨[some (initialResponse pdn)], 0, false⟩
  have hfirst : FirstFor [pdn] env st cid 0 pdn := by
    refine ⟨?_, rfl, rfl, rfl, rfl, hsession⟩
    simp [ListState.findCid, ListState.response, st, initialResponse, hcid, List.range_succ]
  have hsend : (atSendCommandMultiline ("AT+CGCONTRDP=" ++ dec pdn.cid) "+CGCONTRDP:").exec env w =
      (.ok (.response ⟨true, final, [line]⟩),
        asked w [.at ("AT+CGCONTRDP=" ++ dec cid) (.response ⟨true, final, [line]⟩)]) := by
    rw [hcid]
    show (atSend (.multiline "+CGCONTRDP:") ("AT+CGCONTRDP=" ++ dec cid) true).exec env w = _
    rw [exec_atSend, nextReply, hreply]
    rfl
  obtain ⟨call, hcall, hline⟩ := h [pdn] env st 0 pdn
    (asked w [.at ("AT+CGCONTRDP=" ++ dec cid) (.response ⟨true, final, [line]⟩)]) hfirst
  refine ⟨call, hcall, ?_⟩
  have hpass : (dataCallPass [pdn] pdn ⟨[none], 0, false⟩).exec env w =
      (.ok (some ⟨[some call], 0, false⟩),
        asked w [.at ("AT+CGCONTRDP=" ++ dec cid) (.response ⟨true, final, [line]⟩)]) := by
    unfold dataCallPass
    dsimp only
    rw [if_neg hactive, Block.exec_lift_bind_of_ok hsend]
    show (contrdpLines [pdn] [line] st).exec env _ = _
    rw [contrdpLines, Block.exec_bind_of_some hline]
    rfl
  have hloop : ∀ n, (dataCallLoop [pdn] (n + 1) ⟨[none], 0, false⟩).exec env w =
      (.ok (some ⟨[some call], 1, false⟩),
        asked w [.at ("AT+CGCONTRDP=" ++ dec cid) (.response ⟨true, final, [line]⟩)]) := by
    intro n
    rw [dataCallLoop]
    show (dataCallPass [pdn] pdn ⟨[none], 0, false⟩ >>= fun st =>
      dataCallLoop [pdn] n { st with i := st.i + 1 }).exec env w = _
    rw [Block.exec_bind_of_some hpass]
    cases n <;> rfl
  have hbody : (do
      let st ← dataCallLoop [pdn] (env.fuel + [pdn].length)
        { responses := [pdn].map fun _ => none, i := 0, isIpv6Line := false }
      respondDataCalls t .success
        (.dataCalls ((List.range [pdn].length).map (st.response env))) : Body Unit).exec env w =
      (.ok (some ()), asked w [.at ("AT+CGCONTRDP=" ++ dec cid) (.response ⟨true, final, [line]⟩),
        responseEvent t .success (.dataCalls [call])]) := by
    refine (Block.exec_bind_of_some (hloop env.fuel)).trans ?_
    rw [Block.exec_lift, exec_respondDataCalls]
    simp [asked, ListState.response]
  have hread : (read : Body Env).exec env w = (.ok (some env), w) := rfl
  unfold requestOrSendDataCallList
  rw [Traced.exec_labelled, Block.exec_bind_of_some hread, pdnsToList, pure_bind, hbody]

/-! ## All servers -/

/-- The secondary server; an empty field is none. -/
def Contrdp.secondary (c : Contrdp) : Option CString :=
  match c.more with
  | [] => none
  | secondary :: _ => if secondary.value = [] then none else some secondary.value

/-- The DNS servers of a line. -/
def Contrdp.servers (c : Contrdp) : CString :=
  match c.secondary with
  | none => c.primary.value
  | some secondary => c.primary.value ++ ' ' :: secondary

/-- The blank falls on the terminator between two servers, and on none behind a single one. -/
def Contrdp.BlankFits (c : Contrdp) : Prop :=
  match c.more with
  | [] => c.primary.quoted = false
  | secondary :: _ =>
      if secondary.value = [] then c.primary.quoted = true ∨ secondary.quoted = true ∨ secondary.space ≠ []
      else c.primary.quoted = false ∧ secondary.quoted = false ∧ secondary.space = []

instance (c : Contrdp) : Decidable c.BlankFits := by
  unfold Contrdp.BlankFits
  split <;> infer_instance

/-- Else what is reported has one blank more than the servers, or lacks the second one. -/
theorem joinedDns_eq_servers (c : Contrdp) :
    joinedDns c.primary c.more = c.servers ↔ c.BlankFits := by
  have hlead : ∀ s : Field, s.lead = [] ↔ s.quoted = false ∧ s.space = [] := by
    intro s
    unfold Field.lead
    cases hq : s.quoted <;> simp
  unfold joinedDns Contrdp.servers Contrdp.secondary Contrdp.BlankFits
  cases c.more with
  | nil =>
    cases hq : c.primary.quoted <;> simp
  | cons secondary more =>
    have hjoin : (c.primary.quoted = false ∧ secondary.lead = []) ↔
        c.primary.quoted = false ∧ secondary.quoted = false ∧ secondary.space = [] := by
      rw [hlead]
    by_cases hempty : secondary.value = []
    · have hother : (c.primary.quoted = true ∨ secondary.quoted = true ∨ secondary.space ≠ []) ↔
          ¬ (c.primary.quoted = false ∧ secondary.lead = []) := by
        rw [hjoin]
        simp only [not_and_or, Bool.not_eq_false, ne_eq]
      simp only [if_pos hempty, hother]
      by_cases hblank : c.primary.quoted = false ∧ secondary.lead = []
      · simp [hblank]
      · simp only [if_neg hblank]
        exact iff_of_true trivial hblank
    · simp only [if_neg hempty, ← hjoin]
      by_cases hblank : c.primary.quoted = false ∧ secondary.lead = []
      · simp only [if_pos hblank]
        exact iff_of_true trivial hblank
      · simp only [if_neg hblank]
        refine iff_of_false ?_ hblank
        intro heq
        have hlength := congrArg List.length heq
        simp at hlength

theorem not_reports_servers {c : Contrdp} {cid : Int} {address : CString} {octets : List CString}
    (hok : c.Ok cid) (haddr : AddressField c.address address octets)
    (hne : joinedDns c.primary c.more ≠ c.servers) :
    ¬ Reports c.line cid fun call => call.dnses = c.servers := by
  intro h
  obtain ⟨call, ⟨-, -, hjoined⟩, hservers⟩ := (reports_contrdp hok haddr).both h
  exact hne (hjoined.symm.trans hservers)

/-- A line with two servers reports them if and only if neither is quoted nor the second one behind
    a blank, and a line with one if and only if it is not quoted, or an empty field follows that is
    quoted or behind a blank, or one that follows a quoted server. -/
theorem reports_servers_iff {c : Contrdp} {cid : Int} {address : CString} {octets : List CString}
    (hok : c.Ok cid) (haddr : AddressField c.address address octets) :
    (Reports c.line cid fun call => call.dnses = c.servers) ↔ c.BlankFits := by
  rw [← joinedDns_eq_servers]
  constructor
  · intro h
    by_contra hne
    exact not_reports_servers hok haddr hne h
  · intro heq
    apply (reports_contrdp hok haddr).mono
    rintro call ⟨-, -, hjoined⟩
    exact hjoined.trans heq

/-- A value without quotes. -/
def plain (space value : CString) : Field := ⟨space, false, value, []⟩

/-- A line of the first data call, with `space` behind each comma. -/
def internetLine (space : CString) : Contrdp where
  pre := "+CGCONTRDP"
  cid := plain " " "1"
  bearer := plain space "5"
  apn := ⟨space, true, "internet", []⟩
  address := plain space "10.170.1.1.255.255.0.0"
  gateway := plain space "10.170.1.2"
  primary := plain space "8.8.8.8"
  more := [plain space "8.8.4.4"]

theorem internetLine_ok : (internetLine []).Ok 1 ∧ (internetLine " ").Ok 1 :=
  ⟨⟨by decide, by decide, by decide, by decide⟩, ⟨by decide, by decide, by decide, by decide⟩⟩

theorem internetLine_address (space : CString) :
    AddressField (internetLine space).address "10.170.1.1" ["255", "255", "0", "0"] :=
  ⟨rfl, by decide, rfl, by decide⟩

theorem reports_servers_internet :
    Reports (internetLine []).line 1 fun call => call.dnses = (internetLine []).servers :=
  (reports_servers_iff internetLine_ok.1 (internetLine_address [])).mpr (by decide)

/-- With blanks behind the commas, as in the comment of the source, the second server is lost. -/
theorem spaced_not_reports_servers :
    ¬ Reports (internetLine " ").line 1 fun call => call.dnses = (internetLine " ").servers :=
  not_reports_servers internetLine_ok.2 (internetLine_address " ") (by decide)

end AndroidPatch.Ril.Altair
