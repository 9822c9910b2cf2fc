import Mathlib.Algebra.Group.Nat.Defs
import AndroidPatch.Ril.Altair.Proofs.DataCallLine

/-!
# The address of a data call

When the address that is reported has the prefix length of its mask, and when the mask is found at
all.
-/

namespace AndroidPatch.Ril.Altair

open AtChannel

/-! ## Masks -/

/-- The octets of the mask whose first `p` of 32 bits are set. -/
def maskOctets (p : Nat) : List Nat :=
  [24, 16, 8, 0].map fun k => (2 ^ 32 - 2 ^ (32 - p)) / 2 ^ k % 256

/-- Numbers with dots between them. -/
def dottedDec (octets : List Nat) : CString := dotted (octets.map fun n : Nat => dec n)

/-- Only whole octets are counted, and one that has begun counts as eight bits. -/
theorem countedOctets_mask {p : Nat} (hp : p ≤ 32) :
    countedOctets ((maskOctets p).map fun n : Nat => dec n) = (p + 7) / 8 := by
  revert p
  decide

theorem dec_injective {m n : Nat} (h : dec (m : Int) = dec (n : Int)) : m = n := by
  rw [dec_natCast, dec_natCast] at h
  rw [← Nat.ofDigitChars_ten_toDigits (n := m), h, Nat.ofDigitChars_ten_toDigits]

theorem count_dottedDec (a b c d : Nat) : (dottedDec [a, b, c, d]).count '.' = 3 := by
  have hdec : ∀ n : Nat, (dec (n : Int)).count '.' = 0 :=
    fun n => List.count_eq_zero.mpr (not_mem_dec (by decide) n)
  simp [dottedDec, dotted, List.count_append, hdec]

/-- A field with an address and a mask. -/
theorem addressField_mask {f : Field} {a b c d p : Nat}
    (hvalue : f.value = dottedDec [a, b, c, d] ++ '.' :: dottedDec (maskOctets p)) :
    AddressField f (dottedDec [a, b, c, d]) ((maskOctets p).map fun n : Nat => dec n) := by
  refine ⟨hvalue, count_dottedDec a b c d, rfl, ?_⟩
  intro o ho
  obtain ⟨n, -, rfl⟩ := List.mem_map.mp ho
  exact not_mem_dec (by decide) n

/-! ## Lines with an address -/

/-- A line up to its address and mask, and what follows the comma behind them. -/
structure SourceLine where
  pre : CString
  cid : Field
  bearer : Field
  apn : Field
  address : Field
  rest : Option CString

namespace SourceLine

def line (s : SourceLine) : CString :=
  s.pre ++ ':' :: s.cid.renderThen (some (s.bearer.renderThen (some
    (s.apn.renderThen (some (s.address.renderThen s.rest))))))

/-- A line for the data call `cid`. -/
structure Ok (s : SourceLine) (cid : Int) : Prop where
  pre : ':' ∉ s.pre
  fields : ∀ f ∈ [s.cid, s.bearer, s.apn, s.address], f.Ok
  noNul : nul ∉ s.line
  cid : decimal s.cid.value = some cid

/-- The tokenizer finds something behind the address. -/
def GoesOn (s : SourceLine) : Prop := s.rest.isSome = true ∨ s.address.quoted = true

theorem Ok.nul_address {s : SourceLine} {cid : Int} (h : s.Ok cid) :
    nul ∉ s.address.renderThen s.rest := by
  intro hmem
  apply h.noNul
  simp only [line, Field.renderThen, List.mem_append, List.mem_cons]
  simp only [Field.renderThen] at hmem
  tauto

end SourceLine

/-- The search for the mask ends at a number and not at a null pointer. -/
def MaskFound (line : CString) (cid : Int) : Prop :=
  ∀ pdnList env st k pdn w w', FirstFor pdnList env st cid k pdn →
    (contrdpLine pdnList st line).exec env w ≠ (.error .nullMask, w')

/-- Wherever the line is the first one about its data call, it is refused or sets a response with
    `P`, and leaves no other trace. -/
def ReportsOnly (line : CString) (cid : Int) (P : DataCall → Prop) : Prop :=
  ∀ pdnList env st k pdn w, FirstFor pdnList env st cid k pdn →
    (contrdpLine pdnList st line).exec env w = (.ok none, w) ∨ ∃ call, P call ∧
      (contrdpLine pdnList st line).exec env w =
        (.ok (some ({ ({ st with i := k }.setResponse k call) with isIpv6Line := false }, false)), w)

/-! ## Behind the address -/

/-- A string is found as long as there is a cursor. -/
theorem tokNextstr_of_cur {l : TokLine} {i : Nat} (hcur : l.cur = some i) :
    ∃ next, tokNextstr l = pure next := by
  have hnext : ∃ p l', nextTok l = (some p, l') := by
    have hskip : (skipWhiteSpace l).cur = some (i + l.span (fun c => !isSpace c) i) := by
      rw [skipWhiteSpace, hcur]
      rfl
    unfold nextTok
    simp only [hskip]
    split
    · exact ⟨_, _, rfl⟩
    · exact ⟨_, _, rfl⟩
  obtain ⟨p, l', hnext⟩ := hnext
  have hcall : atTokNextstr l = ⟨0, some p, l'⟩ := by
    rw [atTokNextstr, hcur]
    simp only [hnext]
  exact ⟨(p, l'), by rw [tokNextstr, hcall]; rfl⟩

theorem contrdpDns_ipv4 (call : DataCall) (l : TokLine) :
    ∃ call' : DataCall, contrdpDns false call l = pure call' ∧ call'.addresses = call.addresses := by
  unfold contrdpDns contrdpIpv4Dns
  dsimp only
  split
  · split
    · exact ⟨_, rfl, rfl⟩
    · refine ⟨_, rfl, ?_⟩
      split
      · split <;> rfl
      · rfl
  · exact ⟨_, rfl, rfl⟩

/-- The gateway and the servers. -/
def contrdpRest (call : DataCall) (l : TokLine) : Body DataCall := do
  let next ← tokNextstr l
  contrdpDns false { call with gateways := next.2.text next.1 } next.2

/-- They are read as long as there is a cursor, and leave the address alone. -/
theorem contrdpRest_cases (call : DataCall) (l : TokLine) :
    (l.cur = none ∧ contrdpRest call l = gotoError) ∨ (l.cur.isSome = true ∧
      ∃ call' : DataCall, contrdpRest call l = pure call' ∧ call'.addresses = call.addresses) := by
  cases hcur : l.cur with
  | none =>
    have hcall : atTokNextstr l = ⟨-1, none, l⟩ := by rw [atTokNextstr, hcur]
    refine .inl ⟨rfl, ?_⟩
    rw [contrdpRest, tokNextstr, hcall]
    rfl
  | some i =>
    obtain ⟨next, hnext⟩ := tokNextstr_of_cur hcur
    obtain ⟨call', hdns, haddress⟩ :=
      contrdpDns_ipv4 { call with gateways := next.2.text next.1 } next.2
    refine .inr ⟨rfl, call', ?_, haddress⟩
    rw [contrdpRest, hnext, pure_bind, hdns, liftM_pure]

/-! ## The conversion in a line -/

/-- The conversion stops if and only if there is no fourth dot. -/
theorem exec_contrdpAddresses (call : DataCall) (l : TokLine) (out : Nat) (env : Env)
    (w : World Store Event) :
    ((l.text out).count '.' < 4 →
      (contrdpAddresses false call l out).exec env w = (.error .nullMask, w)) ∧
    (4 ≤ (l.text out).count '.' →
      ∃ r w', (contrdpAddresses false call l out).exec env w = (.ok r, w')) := by
  have hfound := scanMask_isSome_iff (p := out) (n := 0) (l.text out) (show 0 < 4 by decide)
  rw [Nat.zero_add] at hfound
  unfold contrdpAddresses convertMask
  rw [if_neg (by decide)]
  rcases hscan : scanMask (l.text out) out 0 none 0 with ⟨_ | mask, prefixlen⟩
  · rw [hscan] at hfound
    refine ⟨fun _ => rfl, fun h => ?_⟩
    cases hfound.mpr h
  · rw [hscan] at hfound
    refine ⟨fun h => ?_, fun _ => ?_⟩
    · have h4 := hfound.mp rfl
      omega
    · dsimp only
      rw [bind_assoc, Traced.exec_bind_of_ok (exec_undefinedIf _ _ env w)]
      exact ⟨_, _, rfl⟩

section Line

variable {s : SourceLine} {cid : Int} {pdnList : List PdnTableEntry} {env : Env} {st : ListState}
  {k : Nat} {pdn : PdnTableEntry}

/-- A first line, from its address on. -/
theorem exec_contrdpLine_source (hok : s.Ok cid) (hfirst : FirstFor pdnList env st cid k pdn)
    (w : World Store Event) :
    ∃ done, (contrdpLine pdnList st s.line).exec env w =
      (do
        let next ← contrdpAddresses false ((st.response env k).started pdn)
          ((s.address.cut s.rest).line done) ((s.address.cut s.rest).index done)
        let call ← contrdpRest next.1 next.2
        return ({ ({ st with i := k }.setResponse k call) with isIpv6Line := false }, false) :
        Body (ListState × Bool)).exec env w := by
  have hfields := hok.fields
  simp only [List.forall_mem_cons] at hfields
  obtain ⟨hcidOk, hbearer, hapn, haddrOk, -⟩ := hfields
  have hline : nul ∉ s.cid.renderThen (some (s.bearer.renderThen (some
      (s.apn.renderThen (some (s.address.renderThen s.rest)))))) :=
    fun hmem => hok.noNul (List.mem_append_right s.pre (List.mem_cons_of_mem ':' hmem))
  have hnul := (Field.nul_not_mem_renderThen hline).2
  have hnul1 := (Field.nul_not_mem_renderThen hnul).2
  have hnul2 := (Field.nul_not_mem_renderThen hnul1).2
  obtain ⟨done, hexec⟩ := exec_contrdpLine_first hok.pre hcidOk hok.cid hok.noNul hfirst w
  rw [contrdpFields, tokNextstr_field hbearer hnul, pure_bind] at hexec
  dsimp only at hexec
  rw [tokNextstr_field hapn hnul1, pure_bind] at hexec
  dsimp only at hexec
  rw [tokNextstr_behind hnul2, Field.cutField_renderThen haddrOk, pure_bind, bind_assoc] at hexec
  exact ⟨_, hexec⟩

/-- The text of the address. -/
theorem text_address (hok : s.Ok cid) (done : CString) :
    ((s.address.cut s.rest).line done).text ((s.address.cut s.rest).index done) =
      s.address.value := by
  have haddress : s.address.Ok := hok.fields s.address (by simp)
  have htext := text_index done hok.nul_address
  rwa [Field.cutField_renderThen haddress] at htext

/-- A line whose address field has no fourth dot stops, and any other goes on. -/
theorem exec_contrdpLine_mask (hok : s.Ok cid) (hfirst : FirstFor pdnList env st cid k pdn)
    (w : World Store Event) :
    (s.address.value.count '.' < 4 →
      (contrdpLine pdnList st s.line).exec env w = (.error .nullMask, w)) ∧
    (4 ≤ s.address.value.count '.' →
      ∀ f w', (contrdpLine pdnList st s.line).exec env w ≠ (.error f, w')) := by
  obtain ⟨done, hexec⟩ := exec_contrdpLine_source hok hfirst w
  have haddress := exec_contrdpAddresses ((st.response env k).started pdn)
    ((s.address.cut s.rest).line done) ((s.address.cut s.rest).index done) env w
  rw [text_address hok] at haddress
  constructor
  · intro hfew
    rw [hexec, Block.exec_lift_bind_of_error (haddress.1 hfew)]
  · intro hmany f w'
    obtain ⟨⟨call, l⟩, w1, hconverted⟩ := haddress.2 hmany
    rw [hexec, Block.exec_lift_bind_of_ok hconverted]
    dsimp only
    rcases contrdpRest_cases call l with ⟨-, hrest⟩ | ⟨-, call', hrest, -⟩
    · rw [hrest]
      nofun
    · rw [hrest]
      nofun

/-- The line after the address has been cut off, with what stands behind its text. -/
theorem cut_line_eq (f : Field) (rest : Option CString) (done : CString) :
    ∃ b cur, (f.cut rest).line done = ⟨done ++ f.lead ++ (f.value ++ b), cur⟩ ∧
      (b = [] ∨ ∃ b', b = nul :: b') ∧ (cur.isSome = true ↔ rest.isSome = true ∨ f.quoted = true) := by
  unfold Cut.line Field.cut
  cases rest with
  | none =>
    cases f.quoted with
    | false => exact ⟨[], none, by simp, .inl rfl, by simp⟩
    | true =>
      refine ⟨nul :: f.stray, some (done ++ f.lead ++ f.value ++ nul :: f.stray).length, ?_,
        .inr ⟨_, rfl⟩, by simp⟩
      simp [TokLine.behind]
  | some rest =>
    obtain ⟨sep, hsep⟩ := f.sep_eq
    refine ⟨nul :: (sep ++ rest), some (done ++ f.lead ++ f.value ++ f.sep).length, ?_,
      .inr ⟨_, rfl⟩, by simp⟩
    simp [TokLine.behind, hsep]

/-- A line with a mask reports it, unless the line ends with it. -/
theorem exec_contrdpLine_prefix {address : CString} {octets : List CString} (hok : s.Ok cid)
    (haddr : AddressField s.address address octets) (hfirst : FirstFor pdnList env st cid k pdn)
    (w : World Store Event) :
    (¬ s.GoesOn ∧ (contrdpLine pdnList st s.line).exec env w = (.ok none, w)) ∨
    (s.GoesOn ∧ ∃ call : DataCall,
      call.addresses = address ++ '/' :: dec (8 * countedOctets octets : Nat) ∧
      (contrdpLine pdnList st s.line).exec env w =
        (.ok (some ({ ({ st with i := k }.setResponse k call) with isIpv6Line := false }, false)),
          w)) := by
  have hvalue : nul ∉ s.address.value := by
    have hnul := hok.nul_address
    unfold Field.renderThen Field.render at hnul
    cases hrest : s.rest <;> cases hq : s.address.quoted <;> simp_all
  obtain ⟨done, hexec⟩ := exec_contrdpLine_source hok hfirst w
  obtain ⟨b, cur, hline, hb, hcur⟩ := cut_line_eq s.address s.rest done
  have hindex : (s.address.cut s.rest).index done = (done ++ s.address.lead).length := rfl
  rw [hindex, hline, contrdpAddresses_eq haddr hvalue _ _ hb, liftM_pure, pure_bind] at hexec
  generalize hpfx : dec (8 * countedOctets octets : Nat) = pfx at hexec ⊢
  rcases contrdpRest_cases
      { (st.response env k).started pdn with addresses := address ++ '/' :: pfx }
      ⟨done ++ s.address.lead ++ (address ++ '/' :: pfx) ++
        nul :: (dotted octets ++ b).drop (pfx.length + 1), cur⟩ with
    ⟨hnone, hrest⟩ | ⟨hsome, call', hrest, haddress⟩
  · refine .inl ⟨fun hgoes => ?_, ?_⟩
    · have hcursor := hcur.mpr hgoes
      rw [show cur = none from hnone] at hcursor
      cases hcursor
    · rw [hexec, hrest]
      rfl
  · refine .inr ⟨hcur.mp hsome, call', haddress, ?_⟩
    rw [hexec, hrest]
    rfl

end Line

/-! ## Addresses as they are reported -/

/-- The address of a line with a mask is reported with the length of its prefix, which is no longer
    than the mask, and a line with fewer than eight octets writes to no null pointer. -/
def ConvertsAddress (s : SourceLine) (cid : Int) : Prop :=
  (∀ a b c d p, p ≤ 32 →
    s.address.value = dottedDec [a, b, c, d] ++ '.' :: dottedDec (maskOctets p) →
    (ReportsOnly s.line cid fun call => call.addresses = dottedDec [a, b, c, d] ++ '/' :: dec p) ∧
      (dottedDec [a, b, c, d] ++ '/' :: dec p).length ≤ s.address.value.length) ∧
  (s.address.value.count '.' < 7 → MaskFound s.line cid)

section Reported

variable {s : SourceLine} {cid : Int}

theorem maskFound_iff (hok : s.Ok cid) :
    MaskFound s.line cid ↔ 4 ≤ s.address.value.count '.' := by
  constructor
  · intro h
    by_contra hfew
    have hfirst := firstFor_oneEntry (.constant (.failed .generic none)) cid
    exact h _ _ _ _ _ ⟨.radioOn, []⟩ _ hfirst
      ((exec_contrdpLine_mask hok hfirst ⟨.radioOn, []⟩).1 (by omega))
  · intro hmany pdnList env st k pdn w w' hfirst
    exact (exec_contrdpLine_mask hok hfirst w).2 hmany .nullMask w'

/-- The prefix length is right only if it is eight for each octet that has begun. -/
theorem reportsOnly_prefix_iff (hok : s.Ok cid) {a b c d p : Nat} (hp : p ≤ 32)
    (hvalue : s.address.value = dottedDec [a, b, c, d] ++ '.' :: dottedDec (maskOctets p)) :
    (ReportsOnly s.line cid fun call => call.addresses = dottedDec [a, b, c, d] ++ '/' :: dec p) ↔
      (s.GoesOn → 8 ∣ p) := by
  have hexec := fun {pdnList env st k pdn} (hfirst : FirstFor pdnList env st cid k pdn) w =>
    exec_contrdpLine_prefix hok (addressField_mask hvalue) hfirst w
  rw [countedOctets_mask hp] at hexec
  constructor
  · intro h hgoes
    have hfirst := firstFor_oneEntry (.constant (.failed .generic none)) cid
    rcases hexec hfirst ⟨.radioOn, []⟩ with ⟨hends, -⟩ | ⟨-, call, haddress, hcall⟩
    · exact absurd hgoes hends
    rcases h _ _ _ _ _ ⟨.radioOn, []⟩ hfirst with hnone | ⟨call', haddress', hcall'⟩
    · rw [hcall] at hnone
      cases hnone
    · rw [setResponse_oneEntry hcall hcall'] at haddress
      have hdec := List.append_cancel_left (haddress.symm.trans haddress')
      have hbits : 8 * ((p + 7) / 8) = p := dec_injective (List.cons.inj hdec).2
      exact ⟨_, hbits.symm⟩
  · intro h pdnList env st k pdn w hfirst
    rcases hexec hfirst w with ⟨-, hnone⟩ | ⟨hgoes, call, haddress, hcall⟩
    · exact .inl hnone
    · obtain ⟨n, rfl⟩ := h hgoes
      have hbits : 8 * ((8 * n + 7) / 8) = 8 * n := by omega
      rw [hbits] at haddress
      exact .inr ⟨call, haddress, hcall⟩

/-- The prefix length is shorter than the mask. -/
theorem length_prefix_le {a b c d p : Nat} (hp : p ≤ 32)
    (hvalue : s.address.value = dottedDec [a, b, c, d] ++ '.' :: dottedDec (maskOctets p)) :
    (dottedDec [a, b, c, d] ++ '/' :: dec p).length ≤ s.address.value.length := by
  have hdec : (dec (p : Int)).length ≤ 2 := by
    rw [dec_natCast, Nat.length_toDigits_le_iff (by decide) (by decide)]
    omega
  have hmask : 2 < (dottedDec (maskOctets p)).length := by
    simp only [dottedDec, maskOctets, List.map_cons, List.map_nil, dotted, List.length_append,
      List.length_cons]
    omega
  rw [hvalue]
  simp only [List.length_append, List.length_cons]
  omega

/-- The address of a line is converted as it should be if and only if its mask, if it has one, ends
    with an octet or is not reported, and a field with fewer than eight octets has five at least. -/
theorem convertsAddress_iff (hok : s.Ok cid) :
    ConvertsAddress s cid ↔
      (s.GoesOn → ∀ a b c d p, p ≤ 32 →
        s.address.value = dottedDec [a, b, c, d] ++ '.' :: dottedDec (maskOctets p) → 8 ∣ p) ∧
      (s.address.value.count '.' < 7 → 4 ≤ s.address.value.count '.') := by
  unfold ConvertsAddress
  rw [maskFound_iff hok]
  apply and_congr_left
  intro _
  constructor
  · intro h hgoes a b c d p hp hvalue
    exact (reportsOnly_prefix_iff hok hp hvalue).mp (h a b c d p hp hvalue).1 hgoes
  · intro h a b c d p hp hvalue
    exact ⟨(reportsOnly_prefix_iff hok hp hvalue).mpr fun hgoes => h hgoes a b c d p hp hvalue,
      length_prefix_le hp hvalue⟩

end Reported

/-- A line with a gateway behind an address. -/
def sourceLine (address : CString) : SourceLine where
  pre := "+CGCONTRDP"
  cid := plain " " "1"
  bearer := plain [] "5"
  apn := ⟨[], true, "internet", []⟩
  address := plain [] address
  rest := some "10.0.0.2"

theorem convertsAddress_sixteen : ConvertsAddress (sourceLine "10.170.1.1.255.255.0.0") 1 := by
  have hok : (sourceLine "10.170.1.1.255.255.0.0").Ok 1 :=
    ⟨by decide, by decide, by decide, by decide⟩
  refine (convertsAddress_iff hok).mpr ⟨?_, by decide⟩
  intro _ a b c d p hp hvalue
  have hsuffix : '.' :: dottedDec (maskOctets p) <:+ ("10.170.1.1.255.255.0.0" : CString) :=
    ⟨_, hvalue.symm⟩
  clear hvalue
  revert p
  decide

/-- The mask `255.255.255.128` has 25 bits, and 32 are reported. -/
theorem half_octet_not_convertsAddress :
    ¬ ConvertsAddress (sourceLine "10.0.0.1.255.255.255.128") 1 := by
  intro h
  have hok : (sourceLine "10.0.0.1.255.255.255.128").Ok 1 := ⟨by decide, by decide, by decide, by decide⟩
  have hvalue : (sourceLine "10.0.0.1.255.255.255.128").address.value =
      dottedDec [10, 0, 0, 1] ++ '.' :: dottedDec (maskOctets 25) := by decide
  have h8 := (reportsOnly_prefix_iff hok (show 25 ≤ 32 by decide) hvalue).mp
    (h.1 10 0 0 1 25 (by decide) hvalue).1 (.inl rfl)
  revert h8
  decide

end AndroidPatch.Ril.Altair
