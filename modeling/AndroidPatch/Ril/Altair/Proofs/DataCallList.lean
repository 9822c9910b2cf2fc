import AndroidPatch.Ril.Altair.Proofs.DataCallVisits

/-!
# The data call list

`requestOrSendDataCallList` over a whole table. Its loop shares the index `i` with the search for
the entry that a line is about, so that a line about another entry sends the loop there.
-/

namespace AndroidPatch.Ril.Altair

open AtChannel

/-! ## What the request should do -/

/-- The commands among some events, in order. -/
def commandsOf (l : List Event) : List CString :=
  l.filterMap fun
    | .at command _ => some command
    | _ => none

/-- The lines of the replies. -/
def linesOf (l : List Event) : List CString :=
  l.flatMap fun
    | .at _ (.response r) => r.intermediates
    | _ => []

/-- One command for each active entry, in the order of the table. -/
def contrdpCommands (pdnList : List PdnTableEntry) : List CString :=
  (pdnList.filter (·.active ≠ 0)).map fun pdn => "AT+CGCONTRDP=" ++ dec pdn.cid

/-- The lines that name a cid. -/
def naming (cid : Int) (lines : List CString) : List CString :=
  lines.filter fun line => cidOf line == some cid

/-- The call has the details of the lines, as they are read at some time. -/
def Details (env : Env) (pdn : PdnTableEntry) (lines : List CString) (call : DataCall) : Prop :=
  ∃ w w' b, (visitLines pdn lines (initialResponse pdn, false)).exec env w =
    (.ok (some (call, b)), w')

/-- Once it has the table, the request comes to an end. It sends one command for each active entry,
    in order, unless it stops with an error, and a list that it reports has one call for each entry,
    with the details of the lines that name its cid. -/
def VisitsOnce (t : Option Token) (env : Env) (w w1 : World Store Event)
    (pdnList : List PdnTableEntry) : Prop :=
  ∃ r s l, (requestOrSendDataCallList t none).exec env w = (r, ⟨s, w1.trace ++ l⟩) ∧
    r ≠ .error .outOfFuel ∧ commandsOf l <+: contrdpCommands pdnList ∧
    ∀ l' calls, r = .ok () → l = l' ++ [responseEvent t .success (.dataCalls calls)] →
      commandsOf l = contrdpCommands pdnList ∧
      List.Forall₂ (fun pdn call => IsFor pdn call ∧
        Details env pdn (naming pdn.cid (linesOf l)) call) pdnList calls

/-! ## The events of a visit -/

@[simp] theorem commandsOf_append (l l' : List Event) :
    commandsOf (l ++ l') = commandsOf l ++ commandsOf l' := List.filterMap_append

@[simp] theorem linesOf_append (l l' : List Event) :
    linesOf (l ++ l') = linesOf l ++ linesOf l' := List.flatMap_append

theorem visitLine_quiet (pdn : PdnTableEntry) (call : DataCall) (b : Bool) (line : CString) :
    QuietBlock lineContract (visitLine pdn call b line) := by
  apply (tokStart_quiet _).bind
  intro l
  apply (tokNextint_quiet l).bind
  intro (_, l)
  apply (contrdpStart_quiet pdn call b).bind
  intro start
  cases start with
  | none => exact EmitsBlock.pure rfl
  | some start => exact (contrdpFields_quiet rfl _ _ l).bind fun call => EmitsBlock.pure rfl

theorem visitLines_quiet (pdn : PdnTableEntry) (lines : List CString) (c : DataCall × Bool) :
    QuietBlock lineContract (visitLines pdn lines c) := by
  induction lines generalizing c with
  | nil => exact EmitsBlock.pure rfl
  | cons line lines ih =>
    apply (visitLine_quiet pdn c.1 c.2 line).bind
    intro c'
    cases c' with
    | none => exact EmitsBlock.pure rfl
    | some c' => exact ih c'

theorem silent_of_clean {l : List Event} (h : lineContract.Clean l) :
    commandsOf l = [] ∧ linesOf l = [] := by
  rw [Contract.clean_iff] at h
  constructor
  · rw [commandsOf, List.filterMap_eq_nil_iff]
    intro e he
    cases e with
    | «at» c reply => exact (h c reply he trivial).elim
    | _ => rfl
  · rw [linesOf, List.flatMap_eq_nil_iff]
    intro e he
    cases e with
    | «at» c reply => exact (h c reply he trivial).elim
    | _ => rfl

/-- The lines of a reply add no exchange. -/
theorem exec_visitLines (pdn : PdnTableEntry) (lines : List CString) (c : DataCall × Bool)
    (env : Env) (w : World Store Event) :
    ∃ r s l, (visitLines pdn lines c).exec env w = (r, ⟨s, w.trace ++ l⟩) ∧ commandsOf l = [] ∧
      linesOf l = [] ∧ r ≠ .error .outOfFuel := by
  obtain ⟨l, htrace, hres⟩ := visitLines_quiet pdn lines c env w trivial
  have hexec : Traced.exec (visitLines pdn lines c).run env w =
      (visitLines pdn lines c).exec env w := rfl
  rw [hexec] at htrace hres
  rcases hrun : (visitLines pdn lines c).exec env w with ⟨r, s, trace⟩
  rw [hrun] at htrace hres
  obtain rfl : trace = w.trace ++ l := htrace
  cases r with
  | error f =>
    obtain ⟨-, hallowed, hnull⟩ := hres
    obtain rfl : f = .nullMask := hallowed
    have hclean : lineContract.Clean l := by
      by_contra hdirty
      exact absurd (hnull.mpr hdirty) (by decide)
    exact ⟨_, s, l, rfl, (silent_of_clean hclean).1, (silent_of_clean hclean).2, nofun⟩
  | ok o =>
    have hclean : lineContract.Clean l := hres.2
    exact ⟨_, s, l, rfl, (silent_of_clean hclean).1, (silent_of_clean hclean).2, nofun⟩

/-- A visit sends the command of its entry and reads the details off the reply. -/
theorem exec_visit (pdn : PdnTableEntry) (env : Env) (w : World Store Event) :
    ∃ r s l, (visit pdn).exec env w = (r, ⟨s, w.trace ++ l⟩) ∧ r ≠ .error .outOfFuel ∧
      commandsOf l = contrdpCommands [pdn] ∧
      ∀ c, r = .ok (some c) → Details env pdn (linesOf l) c.1 ∧
        (linesOf l ≠ [] → pdn.active ≠ 0 ∧ ∃ r', env.replies w.store.tick = .response r' ∧
          r'.success = true ∧ linesOf l = r'.intermediates) := by
  by_cases hactive : pdn.active = 0
  · have hvisit : (visit pdn).exec env w = (.ok (some (initialResponse pdn, false)), w) := by
      rw [visit, if_pos hactive, Block.exec_pure]
    refine ⟨.ok (some (initialResponse pdn, false)), w.store, [], ?_, nofun,
      by simp [contrdpCommands, commandsOf, hactive], ?_⟩
    · rw [hvisit, List.append_nil]
    · rintro c ⟨⟩
      exact ⟨⟨w, w, false, rfl⟩, fun h => (h rfl).elim⟩
  · generalize hw' : asked w [.at ("AT+CGCONTRDP=" ++ dec pdn.cid) (env.replies w.store.tick)] = w'
    have hsend : (atSendCommandMultiline ("AT+CGCONTRDP=" ++ dec pdn.cid) "+CGCONTRDP:").exec env w =
        (.ok (env.replies w.store.tick), w') := hw' ▸ rfl
    have htrace : w'.trace =
        w.trace ++ [.at ("AT+CGCONTRDP=" ++ dec pdn.cid) (env.replies w.store.tick)] := hw' ▸ rfl
    have hcommand : contrdpCommands [pdn] = ["AT+CGCONTRDP=" ++ dec pdn.cid] := by
      simp [contrdpCommands, hactive]
    rw [visit, if_neg hactive, Block.exec_lift_bind_of_ok hsend, hcommand]
    rcases exec_succeeded (env.replies w.store.tick) env w' with hreply | ⟨r, heq, hsuccess, hreply⟩
    · rw [Block.exec_bind_of_none hreply]
      refine ⟨.ok none, w'.store, _, by rw [← htrace], nofun, rfl, nofun⟩
    · rw [Block.exec_bind_of_some hreply]
      obtain ⟨res, s, l, hlines, hcommands, hlinesOf, hfuel⟩ :=
        exec_visitLines pdn r.intermediates (initialResponse pdn, false) env w'
      refine ⟨res, s, _ :: l, by rw [hlines, htrace, List.append_assoc]; rfl, hfuel, ?_, ?_⟩
      · rw [← List.singleton_append, commandsOf_append, hcommands]
        rfl
      · rintro ⟨call, b⟩ rfl
        have hall : linesOf (.at ("AT+CGCONTRDP=" ++ dec pdn.cid) (env.replies w.store.tick) :: l) =
            r.intermediates := by
          rw [← List.singleton_append, linesOf_append, hlinesOf, heq, List.append_nil]
          exact List.append_nil _
        rw [hall]
        exact ⟨⟨w', _, b, hlines⟩, fun _ => ⟨hactive, r, heq, hsuccess, rfl⟩⟩

/-! ## Lines about one entry -/

/-- The request has read every line of a reply up to the last, or up to a third one. -/
theorem OwnLines.forall {pdnList : List PdnTableEntry} {env : Env} {i : Nat}
    {lines : List CString} {st st' : ListState} {w w' : World Store Event}
    (hown : OwnLines pdnList env i lines st w)
    (h : (contrdpLines pdnList lines st).exec env w = (.ok (some st'), w')) :
    ∀ line ∈ lines, Own pdnList i line := by
  induction lines generalizing st w with
  | nil => exact List.forall_mem_nil _
  | cons line lines ih =>
    obtain ⟨hline, hlines⟩ := hown
    rw [contrdpLines] at h
    obtain ⟨⟨st1, stop⟩, w1, hstep, hrest⟩ := Block.exec_bind_eq_some.mp h
    rw [hstep] at hlines
    refine List.forall_mem_cons.mpr ⟨hline, ?_⟩
    cases stop with
    | true => exact hlines
    | false => exact ih hlines hrest

/-- A line that is read has a cid. -/
theorem cidOf_of_visitLine {pdn : PdnTableEntry} {call : DataCall} {b : Bool} {line : CString}
    {env : Env} {w w' : World Store Event} {c : Option (DataCall × Bool)}
    (h : (visitLine pdn call b line).exec env w = (.ok (some c), w')) :
    ∃ cid, cidOf line = some cid := by
  unfold visitLine at h
  rw [cidOf_bind] at h
  cases hcid : cidOf line with
  | none =>
    rw [hcid] at h
    cases h
  | some cid => exact ⟨cid, rfl⟩

/-- The lines without a cid do not matter for a reply that has been read. -/
theorem visitLines_naming {pdn : PdnTableEntry} {lines : List CString} {c r : DataCall × Bool}
    {env : Env} {w w' : World Store Event}
    (hcid : ∀ line ∈ lines, ∀ cid ∈ cidOf line, cid = pdn.cid)
    (h : (visitLines pdn lines c).exec env w = (.ok (some r), w')) :
    (visitLines pdn (naming pdn.cid lines) c).exec env w = (.ok (some r), w') := by
  induction lines generalizing c w with
  | nil => exact h
  | cons line lines ih =>
    obtain ⟨hline, hlines⟩ := List.forall_mem_cons.mp hcid
    rw [visitLines] at h
    obtain ⟨o, w1, hstep, hrest⟩ := Block.exec_bind_eq_some.mp h
    obtain ⟨cid, hsome⟩ := cidOf_of_visitLine hstep
    obtain rfl := hline cid hsome
    have hkeep : naming pdn.cid (line :: lines) = line :: naming pdn.cid lines :=
      List.filter_cons_of_pos (by rw [hsome]; exact beq_self_eq_true _)
    rw [hkeep, visitLines, Block.exec_bind_of_some hstep]
    cases o with
    | none => exact hrest
    | some c' => exact ih hlines hrest

/-- What the replies of completed visits say, from entry `i` of the table on. -/
inductive Visits (pdnList : List PdnTableEntry) (env : Env) :
    Nat → List PdnTableEntry → List (List CString) → List DataCall → Prop
  | nil {i : Nat} : Visits pdnList env i [] [] []
  | cons {i : Nat} {pdn : PdnTableEntry} {pdns : List PdnTableEntry} {lines : List CString}
      {replies : List (List CString)} {call : DataCall} {calls : List DataCall}
      (hfor : IsFor pdn call) (hown : ∀ line ∈ lines, Own pdnList i line)
      (hdetails : Details env pdn lines call) (h : Visits pdnList env (i + 1) pdns replies calls) :
      Visits pdnList env i (pdn :: pdns) (lines :: replies) (call :: calls)

section Run

variable {pdnList past rest : List PdnTableEntry} {pdn : PdnTableEntry} {done : List DataCall}
  {env : Env} {w0 w w' : World Store Event} {b : Bool}

/-- The lines of a reply that has been read are about the entry of its pass alone. -/
theorem own_of_visit (hrun : OwnRun pdnList env w0) (htable : pdnList = past ++ pdn :: rest)
    (hpast : List.Forall₂ IsFor past done)
    (hpass : Passes pdnList env w0 (passState done (rest.length + 1) b) w) {c : DataCall × Bool}
    (hc : (visit pdn).exec env w = (.ok (some c), w')) (hactive : pdn.active ≠ 0) {r : ATResponse}
    (hreply : env.replies w.store.tick = .response r) (hsuccess : r.success = true) :
    ∀ line ∈ r.intermediates, Own pdnList done.length line := by
  have hpdn := entry_passState (n := rest.length + 1) (b := b) htable hpast
  have hlines := hrun _ _ _ _ hpass hpdn hactive hreply hsuccess
  have hexec := exec_dataCallPass_own hrun htable hpast hpass
  rw [Block.exec_map, hc] at hexec
  unfold dataCallPass at hexec
  dsimp only at hexec
  rw [if_neg hactive] at hexec
  have hsend : (atSendCommandMultiline ("AT+CGCONTRDP=" ++ dec pdn.cid) "+CGCONTRDP:").exec env w =
      (.ok (.response r), asked w [.at ("AT+CGCONTRDP=" ++ dec pdn.cid) (.response r)]) := by
    rw [← hreply]
    rfl
  rw [Block.exec_lift_bind_of_ok hsend] at hexec
  obtain ⟨r', w1, hr', hexec⟩ := Block.exec_bind_eq_some.mp hexec
  obtain ⟨heq, -, rfl⟩ := succeeded_eq_some hr'
  cases heq
  exact hlines.forall hexec

/-- The visits send the commands of their entries, and up to the end they read what each reply says
    of its own entry. -/
theorem exec_visitAll (hrun : OwnRun pdnList env w0) (htable : pdnList = past ++ rest)
    (hpast : List.Forall₂ IsFor past done)
    (hpass : Passes pdnList env w0 (passState done rest.length b) w) :
    ∃ r s l, (visitAll rest).exec env w = (r, ⟨s, w.trace ++ l⟩) ∧ r ≠ .error .outOfFuel ∧
      commandsOf l <+: contrdpCommands rest ∧
      ∀ calls, r = .ok (some calls) → commandsOf l = contrdpCommands rest ∧
        ∃ replies, linesOf l = replies.flatten ∧
          Visits pdnList env done.length rest replies calls := by
  induction rest generalizing past done b w with
  | nil =>
    refine ⟨.ok (some []), w.store, [], ?_, by simp, List.nil_prefix, ?_⟩
    · rw [visitAll, List.append_nil, Block.exec_pure]
    · rintro calls ⟨⟩
      exact ⟨rfl, [], rfl, .nil⟩
  | cons pdn rest ih =>
    have hcommands : contrdpCommands (pdn :: rest) =
        contrdpCommands [pdn] ++ contrdpCommands rest := by
      rw [contrdpCommands, ← List.singleton_append, List.filter_append, List.map_append]
      rfl
    obtain ⟨r, s, l, hvisit, hfuel, hsent, hdetails⟩ := exec_visit pdn env w
    rcases r with f | _ | c
    · refine ⟨.error f, s, l, ?_, fun h => hfuel (by cases h; rfl), ?_, by simp⟩
      · rw [visitAll, Block.exec_bind_of_error hvisit]
      · rw [hsent, hcommands]
        exact List.prefix_append _ _
    · refine ⟨.ok none, s, l, ?_, by simp, ?_, by simp⟩
      · rw [visitAll, Block.exec_bind_of_none hvisit]
      · rw [hsent, hcommands]
        exact List.prefix_append _ _
    · obtain ⟨hpast', hpass'⟩ := passes_visit hrun htable hpast hpass hvisit
      obtain ⟨hcall, hown⟩ := hdetails c rfl
      have hlines : ∀ line ∈ linesOf l, Own pdnList done.length line := by
        intro line hline
        obtain ⟨hactive, r, hreply, hsuccess, heq⟩ := hown (List.ne_nil_of_mem hline)
        rw [heq] at hline
        exact own_of_visit hrun htable hpast hpass hvisit hactive hreply hsuccess line hline
      obtain ⟨r', s', l', hrest, hfuel', hsentSome, hcalls⟩ :=
        ih (by rw [htable, List.append_assoc]; rfl) hpast' hpass'
      have hsent' : commandsOf (l ++ l') <+: contrdpCommands [pdn] ++ contrdpCommands rest := by
        rw [commandsOf_append, hsent]
        exact (List.prefix_append_right_inj _).mpr hsentSome
      rw [visitAll, Block.exec_bind_of_some hvisit, hcommands]
      rcases r' with f | _ | calls
      · refine ⟨.error f, s', l ++ l', ?_, fun h => hfuel' (by cases h; rfl), hsent', by simp⟩
        rw [Block.exec_bind_of_error hrest, List.append_assoc]
      · refine ⟨.ok none, s', l ++ l', ?_, by simp, hsent', by simp⟩
        rw [Block.exec_bind_of_none hrest, List.append_assoc]
      · obtain ⟨hall, replies, hreplies, hvisits⟩ := hcalls calls rfl
        refine ⟨.ok (some (c.1 :: calls)), s', l ++ l', ?_, by simp, hsent', ?_⟩
        · rw [Block.exec_bind_of_some hrest, Block.exec_pure, List.append_assoc]
        · rintro _ ⟨⟩
          rw [commandsOf_append, hsent, hall, linesOf_append, hreplies]
          refine ⟨rfl, linesOf l :: replies, rfl,
            .cons ((visit_isFor pdn).of_exec hvisit) hlines hcall ?_⟩
          rwa [List.length_append] at hvisits

end Run

/-! ## The lines that name a cid -/

/-- The lines of the replies from entry `i` on name only the cids of those entries. -/
theorem Visits.own {pdnList pdns : List PdnTableEntry} {env : Env} {i : Nat}
    {replies : List (List CString)} {calls : List DataCall}
    (h : Visits pdnList env i pdns replies calls) :
    ∀ line ∈ replies.flatten, ∃ j, i ≤ j ∧ Own pdnList j line := by
  induction h with
  | nil => exact List.forall_mem_nil _
  | cons _ hown _ _ ih =>
    intro line hline
    rw [List.flatten_cons, List.mem_append] at hline
    rcases hline with hline | hline
    · exact ⟨_, Nat.le_refl _, hown line hline⟩
    · obtain ⟨j, hj, hown'⟩ := ih line hline
      exact ⟨j, Nat.le_of_succ_le hj, hown'⟩

theorem naming_eq_nil {pdnList : List PdnTableEntry} {i : Nat} {pdn : PdnTableEntry}
    (hpdn : pdnList[i]? = some pdn) {lines : List CString}
    (h : ∀ line ∈ lines, ∃ j, j ≠ i ∧ Own pdnList j line) : naming pdn.cid lines = [] := by
  rw [naming, List.filter_eq_nil_iff]
  intro line hline hname
  obtain ⟨j, hne, hown⟩ := h line hline
  exact hne ((hown pdn.cid (by simpa using hname) i pdn hpdn).mp rfl).symm

@[simp] theorem naming_append (cid : Int) (lines lines' : List CString) :
    naming cid (lines ++ lines') = naming cid lines ++ naming cid lines' := List.filter_append _ _

/-- Each call has the details of all lines that name its cid, whichever replies they are in. -/
theorem Visits.details {pdnList pdns : List PdnTableEntry} {env : Env} {i : Nat}
    {replies : List (List CString)} {calls : List DataCall}
    (h : Visits pdnList env i pdns replies calls) (past : List PdnTableEntry)
    (htable : pdnList = past ++ pdns) (hi : past.length = i) (before : List CString)
    (hbefore : ∀ line ∈ before, ∃ j, j < i ∧ Own pdnList j line) :
    List.Forall₂ (fun pdn call => IsFor pdn call ∧
      Details env pdn (naming pdn.cid (before ++ replies.flatten)) call) pdns calls := by
  induction h generalizing past before with
  | nil => exact .nil
  | @cons i pdn pdns lines replies call calls hfor hown hdetails hrest ih =>
    have hpdn : pdnList[i]? = some pdn := by
      rw [htable, ← hi, List.getElem?_append_right (Nat.le_refl _), Nat.sub_self]
      rfl
    have hahead : naming pdn.cid replies.flatten = [] := by
      apply naming_eq_nil hpdn
      intro line hline
      obtain ⟨j, hj, hown'⟩ := hrest.own line hline
      exact ⟨j, by omega, hown'⟩
    have hbehind : naming pdn.cid before = [] := by
      apply naming_eq_nil hpdn
      intro line hline
      obtain ⟨j, hj, hown'⟩ := hbefore line hline
      exact ⟨j, by omega, hown'⟩
    refine .cons ⟨hfor, ?_⟩ ?_
    · rw [List.flatten_cons, naming_append, naming_append, hbehind, hahead, List.nil_append,
        List.append_nil]
      obtain ⟨w, w', b, hexec⟩ := hdetails
      refine ⟨w, w', b, visitLines_naming ?_ hexec⟩
      intro line hline cid hcid
      exact ((hown line hline cid hcid i pdn hpdn).mpr rfl).symm
    · rw [List.flatten_cons, ← List.append_assoc]
      apply ih (past ++ [pdn]) (by rw [htable, List.append_assoc]; rfl) (by simp [hi])
      intro line hline
      rcases List.mem_append.mp hline with hline | hline
      · obtain ⟨j, hj, hown'⟩ := hbefore line hline
        exact ⟨j, by omega, hown'⟩
      · exact ⟨i, Nat.lt_succ_self i, hown line hline⟩

/-! ## The request -/

/-- The request, once it has the table. -/
theorem exec_requestOrSendDataCallList {env : Env} {w w1 : World Store Event} {tbl : PdnTable}
    (htbl : getPdnTable.exec env w = (.ok (some tbl), w1)) (hrun : OwnRun tbl.pdn env w1)
    (t : Option Token) :
    (requestOrSendDataCallList t none).exec env w = match (visitAll tbl.pdn).exec env w1 with
      | (.ok (some calls), w) => (.ok (), { w with
          trace := w.trace ++ [responseEvent t .success (.dataCalls calls)] })
      | (.ok none, w) => (.ok (), { w with
          trace := w.trace ++ [responseEvent t .genericFailure .null] })
      | (.error f, w) => (.error f, w) := by
  have hread : (read : Body Env).exec env w = (.ok (some env), w) := rfl
  have hlist : (pdnsToList none).exec env w = (.ok (some tbl.pdn), w1) := by
    rw [pdnsToList, Block.exec_bind_of_some htbl, Block.exec_pure]
  have hloop := exec_dataCallLoop_own (b := false) hrun (by rfl) .nil .start env.fuel
  have hstart : ({ responses := tbl.pdn.map fun _ => none, i := 0, isIpv6Line := false } :
      ListState) = passState [] tbl.pdn.length false := by
    simp [passState, List.map_const']
  have hbody : ∀ st, (do
      let st ← dataCallLoop tbl.pdn (env.fuel + tbl.pdn.length) st
      respondDataCalls t .success
        (.dataCalls ((List.range tbl.pdn.length).map (st.response env))) : Body Unit) = (do
      let calls ← (fun st => (List.range tbl.pdn.length).map (st.response env)) <$>
        dataCallLoop tbl.pdn (env.fuel + tbl.pdn.length) st
      respondDataCalls t .success (.dataCalls calls)) := by
    intro st
    rw [bind_map_left]
  unfold requestOrSendDataCallList
  rw [Traced.exec_labelled, Block.exec_bind_of_some hread, Block.exec_bind_of_some hlist, hbody,
    hstart, Block.exec_bind, hloop, Block.exec_map]
  rcases (visitAll tbl.pdn).exec env w1 with ⟨f | _ | calls, w2⟩
  · rfl
  · exact exec_respondDataCalls t .genericFailure .null env w2
  · dsimp only
    rw [Block.exec_lift, exec_respondDataCalls, List.nil_append]

/-- In every run whose replies are about the entries that were asked for, each entry is visited
    once. -/
theorem visitsOnce_of_own {t : Option Token} {env : Env} {w w1 : World Store Event} {tbl : PdnTable}
    (htbl : getPdnTable.exec env w = (.ok (some tbl), w1)) (hown : OwnRun tbl.pdn env w1) :
    VisitsOnce t env w w1 tbl.pdn := by
  have hexec := exec_requestOrSendDataCallList htbl hown t
  obtain ⟨r, s, l, hvisits, hfuel, hsentSome, hcalls⟩ :=
    exec_visitAll (b := false) hown (by rfl) .nil .start
  rw [hvisits] at hexec
  have hsilent : ∀ e p, commandsOf (l ++ [responseEvent t e p]) = commandsOf l ∧
      linesOf (l ++ [responseEvent t e p]) = linesOf l := by
    intro e p
    rw [commandsOf_append, linesOf_append]
    cases t <;> exact ⟨List.append_nil _, List.append_nil _⟩
  rcases r with f | _ | calls
  · exact ⟨_, s, l, hexec, fun h => hfuel (by cases h; rfl), hsentSome, nofun⟩
  · refine ⟨.ok (), s, l ++ [responseEvent t .genericFailure .null], ?_, nofun, ?_, ?_⟩
    · rw [hexec, ← List.append_assoc]
    · rw [(hsilent _ _).1]
      exact hsentSome
    · intro l' calls _ hlast
      have hevent := (List.append_inj' hlast rfl).2
      cases t <;> simp [responseEvent] at hevent
  · obtain ⟨hall, replies, hreplies, hvisited⟩ := hcalls calls rfl
    refine ⟨.ok (), s, l ++ [responseEvent t .success (.dataCalls calls)], ?_, nofun, ?_, ?_⟩
    · rw [hexec, ← List.append_assoc]
    · rw [(hsilent _ _).1]
      exact hsentSome
    · intro l' calls' _ hlast
      have hevent := (List.append_inj' hlast rfl).2
      obtain rfl : calls = calls' := by
        cases t <;> simpa [responseEvent] using hevent
      rw [(hsilent _ _).1, (hsilent _ _).2, hreplies]
      exact ⟨hall, hvisited.details [] rfl rfl [] (List.forall_mem_nil _)⟩

/-! ## Two runs -/

/-- A modem that answers the first command with `table` and each other one with `line`. -/
def answering (fuel : Nat) (table : List CString) (line : CString) : Env :=
  { Env.constant (.response ⟨true, some "OK", [line]⟩) with
    replies
      | 0 => .response ⟨true, some "OK", table⟩
      | _ + 1 => .response ⟨true, some "OK", [line]⟩
    fuel }

def lineOne : CString := "+CGCONTRDP: 1,5,\"internet\",10.0.0.1.255.255.255.0,10.0.0.2"

/-- A table with one entry. -/
def oneTable : List CString := ["%PDNACT:1,1,\"internet\",1"]

/-- A table that has the cid 1 twice. -/
def twiceTable : List CString := ["%PDNACT:1,1,\"internet\",1", "%PDNACT:2,1,\"ims\",1"]

/-- The world when the modem has answered with the table. -/
def tableKnown (table : List CString) : World Store Event :=
  asked ⟨.radioOn, []⟩ [.at "AT%PDNACT?" (.response ⟨true, some "OK", table⟩)]

theorem ownRun_one :
    OwnRun [⟨1, 1, 1, "internet"⟩] (answering 0 oneTable lineOne) (tableKnown oneTable) := by
  intro st w1 pdn r hpass hpdn _ hreply _
  cases hpass with
  | start =>
    cases hreply
    constructor
    · rintro cid ⟨⟩ k pdn' hk
      cases k with
      | zero =>
        cases hk
        exact iff_of_true rfl rfl
      | succ k => cases hk
    · split
      · trivial
      · exact List.forall_mem_nil _
      · trivial
  | next => cases hpdn

theorem visitsOnce_one : VisitsOnce (some 7) (answering 0 oneTable lineOne) ⟨.radioOn, []⟩
    (tableKnown oneTable) [⟨1, 1, 1, "internet"⟩] :=
  @visitsOnce_of_own _ _ _ _ ⟨[⟨1, 1, 1, "internet"⟩]⟩ rfl ownRun_one

section Twice

/-- The entries of `twiceTable`. -/
def twice : List PdnTableEntry := [⟨1, 1, 1, "internet"⟩, ⟨2, 1, 1, "ims"⟩]

/-- The pass of the second entry, once the first one has its details: its line is about the first
    one again, as another protocol of it. -/
theorem exec_dataCallPass_twice (fuel : Nat) {c : DataCall} (hstatus : c.status = 0)
    (hcid : c.cid = 1) (x : Option DataCall) (b : Bool) {w : World Store Event} {n : Nat}
    (htick : w.store.tick = n + 1) :
    ∃ c' w' m, (dataCallPass twice ⟨2, 1, 1, "ims"⟩ ⟨[some c, x], 1, b⟩).exec
        (answering fuel twiceTable lineOne) w =
        (.ok (some ⟨[some c', some (initialResponse ⟨2, 1, 1, "ims"⟩)], 0, true⟩), w') ∧
      c'.status = 0 ∧ c'.cid = 1 ∧ w'.store.tick = m + 1 := by
  obtain ⟨status, retry, cid, active, type, ifname, addresses, dnses, gateways⟩ := c
  obtain ⟨⟨sState, closed, supported, current, mcc, mnc, lac, cell, rate, line, repolls, expect,
    tick⟩, trace⟩ := w
  obtain rfl : status = 0 := hstatus
  obtain rfl : cid = 1 := hcid
  obtain rfl : tick = n + 1 := htick
  exact ⟨_, _, _, rfl, rfl, rfl, rfl⟩

/-- So the loop does not end. -/
theorem exec_dataCallLoop_twice (fuel k : Nat) {c : DataCall} (hstatus : c.status = 0)
    (hcid : c.cid = 1) (x : Option DataCall) (b : Bool) {w : World Store Event} {n : Nat}
    (htick : w.store.tick = n + 1) :
    ∃ w', (dataCallLoop twice k ⟨[some c, x], 1, b⟩).exec (answering fuel twiceTable lineOne) w =
      (.error .outOfFuel, w') := by
  induction k generalizing c x b w n with
  | zero => exact ⟨w, rfl⟩
  | succ k ih =>
    obtain ⟨c', w', m, hpass, hstatus', hcid', htick'⟩ :=
      exec_dataCallPass_twice fuel hstatus hcid x b htick
    rw [dataCallLoop_succ rfl, Block.exec_bind_of_some hpass]
    exact ih hstatus' hcid' _ true htick'

/-- The modem answers what it is asked, and the request sends commands for ever. -/
theorem twice_not_visitsOnce : ¬ ∃ fuel, VisitsOnce (some 7) (answering fuel twiceTable lineOne)
    ⟨.radioOn, []⟩ (tableKnown twiceTable) twice := by
  rintro ⟨fuel, r, s, l, hexec, hfuel, -⟩
  have hread : (read : Body Env).exec (answering fuel twiceTable lineOne) ⟨.radioOn, []⟩ =
      (.ok (some (answering fuel twiceTable lineOne)), ⟨.radioOn, []⟩) := rfl
  have hlist : (pdnsToList none).exec (answering fuel twiceTable lineOne) ⟨.radioOn, []⟩ =
      (.ok (some twice), tableKnown twiceTable) := rfl
  obtain ⟨c, w', m, hpass, hstatus, hcid, htick⟩ : ∃ c w' m,
      (dataCallPass twice ⟨1, 1, 1, "internet"⟩ ⟨[none, none], 0, false⟩).exec
        (answering fuel twiceTable lineOne) (tableKnown twiceTable) =
        (.ok (some ⟨[some c, none], 0, false⟩), w') ∧
      c.status = 0 ∧ c.cid = 1 ∧ w'.store.tick = m + 1 := ⟨_, _, _, rfl, rfl, rfl, rfl⟩
  obtain ⟨w2, hloop⟩ := exec_dataCallLoop_twice fuel (fuel + 1) hstatus hcid none false htick
  have hrun : (dataCallLoop twice ((answering fuel twiceTable lineOne).fuel + twice.length)
      { responses := twice.map fun _ => none, i := 0, isIpv6Line := false }).exec
      (answering fuel twiceTable lineOne) (tableKnown twiceTable) = (.error .outOfFuel, w2) := by
    show (dataCallLoop twice (fuel + 1 + 1) ⟨[none, none], 0, false⟩).exec _ _ = _
    rw [dataCallLoop_succ rfl, Block.exec_bind_of_some hpass]
    exact hloop
  have hrequest : (requestOrSendDataCallList (some 7) none).exec (answering fuel twiceTable lineOne)
      ⟨.radioOn, []⟩ = (.error .outOfFuel, w2) := by
    unfold requestOrSendDataCallList
    rw [Traced.exec_labelled, Block.exec_bind_of_some hread, Block.exec_bind_of_some hlist,
      Block.exec_bind_of_error hrun]
  rw [hrequest] at hexec
  exact hfuel (congrArg Prod.fst hexec).symm

end Twice

end AndroidPatch.Ril.Altair
