import AndroidPatch.Ril.Altair.Proofs.DataCallLine
import AndroidPatch.Ril.Altair.Proofs.Handlers

/-!
# Visits of data calls

What `requestOrSendDataCallList` is about, without its array and its index: each entry of the table
is visited once, and a visit sends one command and reads the details off the lines of the reply.
The loop of the source does the same as long as no line moves its index away from the entry.
-/

namespace AndroidPatch.Ril.Altair

open AtChannel

/-! ## A visit -/

/-- A line for the entry `pdn`, whatever cid it names. Absent at a third line. -/
def visitLine (pdn : PdnTableEntry) (call : DataCall) (isIpv6Line : Bool) (line : CString) :
    Body (Option (DataCall × Bool)) := do
  let l ← tokStart (.ofString line)
  let (_, l) ← tokNextint l
  match ← contrdpStart pdn call isIpv6Line with
  | none => return none
  | some (call, isIpv6Line) => do
      let call ← contrdpFields isIpv6Line call l
      return some (call, isIpv6Line)

/-- The lines of a reply, up to the third. -/
def visitLines (pdn : PdnTableEntry) : List CString → DataCall × Bool → Body (DataCall × Bool)
  | [], c => return c
  | line :: lines, c => do
      match ← visitLine pdn c.1 c.2 line with
      | none => return c
      | some c => visitLines pdn lines c

/-- One entry of the table: its details, and whether a second line has been among them. -/
def visit (pdn : PdnTableEntry) : Body (DataCall × Bool) :=
  if pdn.active = 0 then return (initialResponse pdn, false)
  else do
    let reply ← atSendCommandMultiline ("AT+CGCONTRDP=" ++ dec pdn.cid) "+CGCONTRDP:"
    let r ← succeeded reply
    visitLines pdn r.intermediates (initialResponse pdn, false)

def visitAll : List PdnTableEntry → Body (List DataCall)
  | [] => return []
  | pdn :: pdns => do
      let c ← visit pdn
      let calls ← visitAll pdns
      return c.1 :: calls

/-! ## The cid of a line -/

/-- The cid that a line names. The request fails at a line without one. -/
def cidOf (line : CString) : Option Int :=
  let start := atTokStart (.ofString line)
  if start.1 < 0 then none
  else
    let r := atTokNextint start.2
    if r.err < 0 then none else r.out

/-- The line behind its cid. -/
def behindCid (line : CString) : TokLine := (atTokNextint (atTokStart (.ofString line)).2).line

theorem cidOf_bind {α : Type} (line : CString) (k : Int × TokLine → Body α) :
    (do
      let l ← tokStart (.ofString line)
      let r ← tokNextint l
      k r) = match cidOf line with
      | none => gotoError
      | some cid => k (cid, behindCid line) := by
  unfold tokStart tokNextint tokChecked gotoErrorIf cidOf behindCid
  dsimp only
  by_cases hstart : (atTokStart (.ofString line)).1 < 0
  · rw [if_pos hstart, if_pos hstart]
    rfl
  · rw [if_neg hstart, if_neg hstart]
    simp only [pure_bind]
    by_cases hint : (atTokNextint (atTokStart (.ofString line)).2).err < 0
    · rw [if_pos hint, if_pos hint]
      rfl
    · rw [if_neg hint, if_neg hint]
      cases (atTokNextint (atTokStart (.ofString line)).2).out <;> rfl

/-! ## The array of the loop -/

/-- The array while an entry is visited: the calls of the entries in front of it, its own one, and
    `n` that no pass has set. -/
def listState (done : List DataCall) (call : DataCall) (n : Nat) (isIpv6Line : Bool) : ListState :=
  ⟨done.map some ++ some call :: List.replicate n none, done.length, isIpv6Line⟩

@[simp] theorem setResponse_listState (done : List DataCall) (call call' : DataCall) (n : Nat)
    (b : Bool) : (listState done call n b).setResponse done.length call' = listState done call' n b := by
  simp [listState, ListState.setResponse]

/-- The call is that of the entry. -/
structure IsFor (pdn : PdnTableEntry) (call : DataCall) : Prop where
  cid : call.cid = pdn.cid
  active : call.active = pdn.active

/-- The line names the cid of entry `i` of the table, and of no other entry, if it names one. -/
def Own (pdnList : List PdnTableEntry) (i : Nat) (line : CString) : Prop :=
  ∀ cid ∈ cidOf line, ∀ k pdn, pdnList[k]? = some pdn → (pdn.cid = cid ↔ k = i)

/-- The table while the entry `pdn` of it is visited. -/
structure Visiting (pdnList past : List PdnTableEntry) (pdn : PdnTableEntry)
    (done : List DataCall) (call : DataCall) (n : Nat) : Prop where
  table : ∃ rest, pdnList = past ++ pdn :: rest ∧ rest.length = n
  past : List.Forall₂ IsFor past done
  call : IsFor pdn call

section Visiting

variable {pdnList past : List PdnTableEntry} {pdn : PdnTableEntry} {done : List DataCall}
  {call : DataCall} {n : Nat} {env : Env}

theorem Visiting.entry (h : Visiting pdnList past pdn done call n) :
    pdnList[done.length]? = some pdn := by
  obtain ⟨rest, rfl, -⟩ := h.table
  rw [← h.past.length_eq, List.getElem?_append_right (Nat.le_refl _), Nat.sub_self]
  rfl

theorem response_listState_past (b : Bool) {k : Nat} (hk : k < done.length) :
    (listState done call n b).response env k = done[k] := by
  have hmap : k < (done.map some).length := by rwa [List.length_map]
  simp [listState, ListState.response, List.getElem?_append_left hmap, hk]

theorem response_listState (b : Bool) :
    (listState done call n b).response env done.length = call := by
  simp [listState, ListState.response]

/-- The search finds the entry that is visited. -/
theorem Visiting.findCid (h : Visiting pdnList past pdn done call n) {line : CString} {cid : Int}
    (hown : Own pdnList done.length line) (hcid : cidOf line = some cid) (b : Bool) (env : Env) :
    (listState done call n b).findCid env cid = done.length := by
  have hself : pdn.cid = cid := (hown cid hcid _ pdn h.entry).mpr rfl
  have hlength : done.length < (List.range (listState done call n b).responses.length).length := by
    simp [listState]
  unfold ListState.findCid
  rw [List.findIdx_eq hlength]
  simp only [List.getElem_range]
  constructor
  · rw [response_listState, h.call.cid, hself]
    exact beq_self_eq_true cid
  · intro k hk
    have hpast : k < past.length := by rwa [h.past.length_eq]
    have hentry : pdnList[k]? = some past[k] := by
      obtain ⟨rest, rfl, -⟩ := h.table
      rw [List.getElem?_append_left hpast, List.getElem?_eq_getElem hpast]
    have hne : past[k].cid ≠ cid := by
      intro heq
      have hk' := (hown cid hcid k _ hentry).mp heq
      omega
    have hfor : done[k].cid = past[k].cid := ((List.forall₂_iff_get.mp h.past).2 k hpast hk).cid
    rw [response_listState_past b hk, hfor]
    exact beq_eq_false_iff_ne.mpr hne

theorem reached_listState (b : Bool) :
    ((listState done call n b).responses.take (done.length + 1)).any Option.isNone = false := by
  have htake : (listState done call n b).responses.take (done.length + 1) =
      done.map some ++ [some call] := by
    have hsplit : (listState done call n b).responses =
        done.map some ++ [some call] ++ List.replicate n none := by simp [listState]
    rw [hsplit, List.take_left' (by simp)]
  rw [htake]
  simp

/-! ## One line -/

/-- What the loop makes of a line. -/
def afterLine (done : List DataCall) (call : DataCall) (n : Nat) (isIpv6Line : Bool) :
    Option (DataCall × Bool) → ListState × Bool
  | none => (listState done call n isIpv6Line, true)
  | some (call, isIpv6Line) => (listState done call n isIpv6Line, false)

/-- A line about the entry that is visited, and about no other, leaves the index there. -/
theorem exec_contrdpLine_own (h : Visiting pdnList past pdn done call n) {line : CString}
    (hown : Own pdnList done.length line) (b : Bool) (env : Env) (w : World Store Event) :
    (contrdpLine pdnList (listState done call n b) line).exec env w =
      (afterLine done call n b <$> visitLine pdn call b line).exec env w := by
  unfold contrdpLine visitLine
  rw [cidOf_bind, cidOf_bind]
  cases hcid : cidOf line with
  | none => rfl
  | some cid =>
    have hfind := exec_findResponse (h.findCid hown hcid b env) (reached_listState b) w
    rw [response_listState] at hfind
    dsimp only
    rw [Block.exec_lift_bind_of_ok hfind]
    dsimp only
    rw [h.entry]
    dsimp only
    rw [map_bind]
    apply Block.exec_bind_congr
    intro start w' _
    cases start with
    | none => rfl
    | some start =>
      dsimp only
      rw [map_bind]
      apply Block.exec_bind_congr
      intro call' w'' _
      rw [map_pure, Block.exec_pure, Block.exec_pure]
      simp [afterLine, listState, ListState.setResponse]

/-! ## A reply -/

/-- No exchange is among the events of a line, and its only fault is that of a missing mask. -/
def lineContract : Contract := ⟨0, fun _ _ => True, fun f => f = .nullMask⟩

theorem contrdpStart_isFor (h : IsFor pdn call) (b : Bool) :
    BlockReturns (fun start => ∀ c ∈ start, IsFor pdn c.1) (contrdpStart pdn call b) := by
  unfold contrdpStart
  split
  · split
    · exact BlockReturns.pure nofun
    · apply BlockReturns.pure
      rintro c ⟨⟩
      exact ⟨h.cid, h.active⟩
  · apply BlockReturns.bind (gotoErrorIf_quiet (K := lineContract) _)
    intro _
    apply BlockReturns.bind (EmitsBlock.lift (undefinedIf_runs (K := lineContract) _ _).emits)
    intro _
    apply BlockReturns.bind (EmitsBlock.lift (read_runs (K := lineContract)).emits)
    intro env
    apply BlockReturns.pure
    rintro c ⟨⟩
    exact ⟨h.cid, h.active⟩

theorem contrdpAddresses_isFor (h : IsFor pdn call) (b : Bool) (l : TokLine) (out : Nat) :
    Returns (fun r => IsFor pdn r.1) (contrdpAddresses b call l out) := by
  unfold contrdpAddresses
  split
  · apply Returns.bind (getGlobalIpv6_runs (K := lineContract) 5).emits.returns
    intro found _
    cases found with
    | none => exact Returns.pure h
    | some address => exact Returns.pure ⟨h.cid, h.active⟩
  · apply Returns.bind (convertMask_quiet (K := lineContract) rfl l out).returns
    intro l _
    exact Returns.pure ⟨h.cid, h.active⟩

theorem contrdpIpv6Dns_isFor (h : IsFor pdn call) (l : TokLine) (out : Nat) :
    Returns (IsFor pdn) (contrdpIpv6Dns call l out) := by
  unfold contrdpIpv6Dns
  apply Returns.bind (convertToIpv6Addr_runs (K := lineContract) _).emits.returns
  intro first _
  dsimp only
  split
  · split
    · exact Returns.pure ⟨h.cid, h.active⟩
    · apply Returns.bind (convertToIpv6Addr_runs (K := lineContract) _).emits.returns
      intro second _
      exact Returns.pure ⟨h.cid, h.active⟩
  · exact Returns.pure ⟨h.cid, h.active⟩

theorem contrdpIpv4Dns_isFor (h : IsFor pdn call) (l : TokLine) (dns : Nat) :
    IsFor pdn (contrdpIpv4Dns call l dns) := by
  unfold contrdpIpv4Dns
  dsimp only
  split
  · split <;> exact ⟨h.cid, h.active⟩
  · exact ⟨h.cid, h.active⟩

theorem contrdpDns_isFor (h : IsFor pdn call) (b : Bool) (l : TokLine) :
    Returns (IsFor pdn) (contrdpDns b call l) := by
  unfold contrdpDns
  dsimp only
  split
  · split
    · exact Returns.pure ⟨h.cid, h.active⟩
    · split
      · exact contrdpIpv6Dns_isFor h _ _
      · exact Returns.pure (contrdpIpv4Dns_isFor h _ _)
  · exact Returns.pure ⟨h.cid, h.active⟩

theorem lift_isFor {α : Type} {P : α → Prop} {p : Prog α} (h : Returns P p) :
    BlockReturns P (liftM p : Body α) := by
  unfold BlockReturns
  rw [run_liftM, map_eq_pure_bind]
  apply Returns.bind h
  intro a ha
  apply Returns.pure
  rintro _ ⟨⟩
  exact ha

theorem contrdpFields_isFor (h : IsFor pdn call) (b : Bool) (l : TokLine) :
    BlockReturns (IsFor pdn) (contrdpFields b call l) := by
  unfold contrdpFields
  apply BlockReturns.bind (tokNextstr_quiet (K := lineContract) l)
  intro (_, l)
  apply BlockReturns.bind (tokNextstr_quiet (K := lineContract) l)
  intro (_, l)
  apply BlockReturns.bind (tokNextstr_quiet (K := lineContract) l)
  intro (out, l)
  apply BlockReturns.bind_of (lift_isFor (contrdpAddresses_isFor h b l out))
  intro (call', l) h'
  apply BlockReturns.bind (tokNextstr_quiet (K := lineContract) l)
  intro (gateway, l)
  apply lift_isFor
  apply contrdpDns_isFor
  split
  · exact h'
  · exact ⟨h'.cid, h'.active⟩

/-- The call stays that of its entry. -/
theorem visitLine_isFor (h : IsFor pdn call) (b : Bool) (line : CString) :
    BlockReturns (fun r => ∀ c ∈ r, IsFor pdn c.1) (visitLine pdn call b line) := by
  unfold visitLine
  apply BlockReturns.bind (tokStart_quiet (K := lineContract) _)
  intro l
  apply BlockReturns.bind (tokNextint_quiet (K := lineContract) l)
  intro (_, l)
  apply BlockReturns.bind_of (contrdpStart_isFor h b)
  intro start hstart
  cases start with
  | none => exact BlockReturns.pure nofun
  | some start =>
    apply BlockReturns.bind_of (contrdpFields_isFor (hstart start rfl) start.2 l)
    intro call' h'
    apply BlockReturns.pure
    rintro c ⟨⟩
    exact h'

/-- Every line of a reply, up to one at which the request ends, is about entry `i` alone. -/
def OwnLines (pdnList : List PdnTableEntry) (env : Env) (i : Nat) :
    List CString → ListState → World Store Event → Prop
  | [], _, _ => True
  | line :: lines, st, w => Own pdnList i line ∧
      match (contrdpLine pdnList st line).exec env w with
      | (.ok (some (st, false)), w) => OwnLines pdnList env i lines st w
      | (.ok (some (_, true)), _) => ∀ line ∈ lines, Own pdnList i line
      | _ => True

theorem exec_contrdpLines_own {lines : List CString} {b : Bool} {w : World Store Event}
    (h : Visiting pdnList past pdn done call n)
    (hown : OwnLines pdnList env done.length lines (listState done call n b) w) :
    (contrdpLines pdnList lines (listState done call n b)).exec env w =
      ((fun c => listState done c.1 n c.2) <$> visitLines pdn lines (call, b)).exec env w := by
  induction lines generalizing call b w with
  | nil => rfl
  | cons line lines ih =>
    obtain ⟨hline, hlines⟩ := hown
    have hstep := exec_contrdpLine_own h hline b env w
    rw [hstep, Block.exec_map] at hlines
    rw [contrdpLines, visitLines, Block.exec_bind_of_map hstep, map_bind]
    apply Block.exec_bind_congr
    intro c w' hc
    rw [hc] at hlines
    cases c with
    | none => rfl
    | some c =>
      have hfor : IsFor pdn c.1 := (visitLine_isFor h.call b line).of_exec hc c rfl
      exact ih ⟨h.table, h.past, hfor⟩ hlines

end Visiting

/-! ## The passes -/

/-- The array when a pass starts: no pass has set the last `n` entries. -/
def passState (done : List DataCall) (n : Nat) (isIpv6Line : Bool) : ListState :=
  ⟨done.map some ++ List.replicate n none, done.length, isIpv6Line⟩

/-- The points at which the loop of a run starts a pass. -/
inductive Passes (pdnList : List PdnTableEntry) (env : Env) (w : World Store Event) :
    ListState → World Store Event → Prop
  | start : Passes pdnList env w (passState [] pdnList.length false) w
  | next {st st' : ListState} {pdn : PdnTableEntry} {w1 w2 : World Store Event}
      (h : Passes pdnList env w st w1) (hpdn : pdnList[st.i]? = some pdn)
      (hpass : (dataCallPass pdnList pdn st).exec env w1 = (.ok (some st'), w2)) :
      Passes pdnList env w { st' with i := st'.i + 1 } w2

/-- In every pass, the lines of the reply are about the entry of the pass alone. -/
def OwnRun (pdnList : List PdnTableEntry) (env : Env) (w : World Store Event) : Prop :=
  ∀ st w1 pdn r, Passes pdnList env w st w1 → pdnList[st.i]? = some pdn → pdn.active ≠ 0 →
    env.replies w1.store.tick = .response r → r.success = true →
    OwnLines pdnList env st.i r.intermediates
      { st.setResponse st.i (initialResponse pdn) with isIpv6Line := false }
      (asked w1 [.at ("AT+CGCONTRDP=" ++ dec pdn.cid) (.response r)])

section Passes

variable {pdnList past rest : List PdnTableEntry} {pdn : PdnTableEntry} {done : List DataCall}
  {env : Env} {w0 w : World Store Event} {b : Bool}

theorem initialResponse_isFor (pdn : PdnTableEntry) : IsFor pdn (initialResponse pdn) := ⟨rfl, rfl⟩

/-- A pass is a visit. -/
theorem exec_dataCallPass_own (hrun : OwnRun pdnList env w0) (htable : pdnList = past ++ pdn :: rest)
    (hpast : List.Forall₂ IsFor past done)
    (hpass : Passes pdnList env w0 (passState done (rest.length + 1) b) w) :
    (dataCallPass pdnList pdn (passState done (rest.length + 1) b)).exec env w =
      ((fun c => listState done c.1 rest.length c.2) <$> visit pdn).exec env w := by
  have hvisiting : Visiting pdnList past pdn done (initialResponse pdn) rest.length :=
    ⟨⟨rest, htable, rfl⟩, hpast, initialResponse_isFor pdn⟩
  have hstart : ({ (passState done (rest.length + 1) b).setResponse done.length
      (initialResponse pdn) with isIpv6Line := false } : ListState) =
      listState done (initialResponse pdn) rest.length false := by
    simp [passState, listState, ListState.setResponse, List.replicate_succ]
  have hindex : (passState done (rest.length + 1) b).i = done.length := rfl
  unfold dataCallPass visit
  dsimp only
  rw [hindex, hstart]
  by_cases hactive : pdn.active = 0
  · rw [if_pos hactive, if_pos hactive]
    rfl
  · have hsend : (atSendCommandMultiline ("AT+CGCONTRDP=" ++ dec pdn.cid) "+CGCONTRDP:").exec env w =
        (.ok (env.replies w.store.tick),
          asked w [.at ("AT+CGCONTRDP=" ++ dec pdn.cid) (env.replies w.store.tick)]) := rfl
    rw [if_neg hactive, if_neg hactive, Block.exec_lift_bind_of_ok hsend, map_bind,
      Block.exec_lift_bind_of_ok hsend, map_bind]
    apply Block.exec_bind_congr
    intro r w' hr
    obtain ⟨hreply, hsuccess, rfl⟩ := succeeded_eq_some hr
    have hown := hrun _ _ pdn r hpass hvisiting.entry hactive hreply hsuccess
    rw [hindex, hstart, ← hreply] at hown
    exact exec_contrdpLines_own hvisiting hown

theorem visitLines_isFor {c : DataCall × Bool} (h : IsFor pdn c.1) (lines : List CString) :
    BlockReturns (fun c => IsFor pdn c.1) (visitLines pdn lines c) := by
  induction lines generalizing c with
  | nil => exact BlockReturns.pure h
  | cons line lines ih =>
    apply BlockReturns.bind_of (visitLine_isFor h c.2 line)
    intro c' hc'
    cases c' with
    | none => exact BlockReturns.pure h
    | some c' => exact ih (hc' c' rfl)

theorem visit_isFor (pdn : PdnTableEntry) :
    BlockReturns (fun c => IsFor pdn c.1) (visit pdn) := by
  unfold visit
  split
  · exact BlockReturns.pure (initialResponse_isFor pdn)
  · apply BlockReturns.bind (EmitsBlock.lift
      (atSendCommandMultiline_runs (K := ⟨0, fun _ _ => False, fun _ => False⟩)
        fun _ => not_false).emits)
    intro reply
    apply BlockReturns.bind (succeeded_quiet (K := lineContract) reply)
    intro r
    exact visitLines_isFor (initialResponse_isFor pdn) r.intermediates

theorem entry_passState {n : Nat} (htable : pdnList = past ++ pdn :: rest)
    (hpast : List.Forall₂ IsFor past done) : pdnList[(passState done n b).i]? = some pdn := by
  rw [htable, show (passState done n b).i = past.length from hpast.length_eq.symm,
    List.getElem?_append_right (Nat.le_refl _), Nat.sub_self]
  rfl

theorem next_listState (done : List DataCall) (call : DataCall) (n : Nat) (b : Bool) :
    ({ listState done call n b with i := (listState done call n b).i + 1 } : ListState) =
      passState (done ++ [call]) n b := by
  simp [listState, passState]

/-- After a visit, the next pass is that of the next entry. -/
theorem passes_visit (hrun : OwnRun pdnList env w0) (htable : pdnList = past ++ pdn :: rest)
    (hpast : List.Forall₂ IsFor past done)
    (hpass : Passes pdnList env w0 (passState done (rest.length + 1) b) w) {c : DataCall × Bool}
    {w' : World Store Event} (hc : (visit pdn).exec env w = (.ok (some c), w')) :
    List.Forall₂ IsFor (past ++ [pdn]) (done ++ [c.1]) ∧
      Passes pdnList env w0 (passState (done ++ [c.1]) rest.length c.2) w' := by
  have hvisit := exec_dataCallPass_own hrun htable hpast hpass
  refine ⟨List.rel_append hpast (.cons ((visit_isFor pdn).of_exec hc) .nil), ?_⟩
  rw [← next_listState]
  exact Passes.next hpass (entry_passState htable hpast)
    (hvisit.trans (by rw [Block.exec_map, hc]))

theorem dataCallLoop_succ {pdnList : List PdnTableEntry} {st : ListState} {pdn : PdnTableEntry}
    (hpdn : pdnList[st.i]? = some pdn) (fuel : Nat) :
    dataCallLoop pdnList (fuel + 1) st = (do
      let st ← dataCallPass pdnList pdn st
      dataCallLoop pdnList fuel { st with i := st.i + 1 }) := by
  rw [dataCallLoop, hpdn]

theorem map_response (done : List DataCall) (b : Bool) (env : Env) :
    (List.range done.length).map ((passState done 0 b).response env) = done := by
  apply List.ext_getElem
  · simp
  · intro k hk hk'
    simp [passState, ListState.response, hk']

/-- The loop visits the entries that are left. -/
theorem exec_dataCallLoop_own (hrun : OwnRun pdnList env w0) (htable : pdnList = past ++ rest)
    (hpast : List.Forall₂ IsFor past done)
    (hpass : Passes pdnList env w0 (passState done rest.length b) w) (fuel : Nat) :
    ((fun st => (List.range pdnList.length).map (st.response env)) <$>
        dataCallLoop pdnList (fuel + rest.length) (passState done rest.length b)).exec env w =
      ((done ++ ·) <$> visitAll rest).exec env w := by
  induction rest generalizing past done b w with
  | nil =>
    rw [List.append_nil] at htable
    have hend : pdnList[(passState done 0 b).i]? = none := by
      rw [List.getElem?_eq_none_iff, htable, hpast.length_eq]
      exact Nat.le_refl _
    have hloop : dataCallLoop pdnList fuel (passState done 0 b) = pure (passState done 0 b) := by
      cases fuel <;> rw [dataCallLoop, hend]
    rw [List.length_nil, Nat.add_zero, hloop, visitAll, map_pure, map_pure, Block.exec_pure,
      Block.exec_pure, htable, hpast.length_eq, map_response, List.append_nil]
  | cons pdn rest ih =>
    have hpdn := entry_passState (n := rest.length + 1) (b := b) htable hpast
    have hvisit := exec_dataCallPass_own hrun htable hpast hpass
    rw [List.length_cons, ← Nat.add_assoc, dataCallLoop_succ hpdn, map_bind,
      Block.exec_bind_of_map hvisit, visitAll, map_bind]
    apply Block.exec_bind_congr
    intro c w' hc
    obtain ⟨hpast', hpass'⟩ := passes_visit hrun htable hpast hpass hc
    rw [next_listState]
    refine (ih (by rw [htable, List.append_assoc]; rfl) hpast' hpass').trans ?_
    rw [map_bind]
    simp [map_pure, bind_pure_comp]

end Passes

end AndroidPatch.Ril.Altair
