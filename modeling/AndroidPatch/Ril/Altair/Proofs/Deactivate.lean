import AndroidPatch.Ril.Altair.Proofs.Statements
import AndroidPatch.Ril.Altair.Proofs.OnRequest
import AndroidPatch.Ril.Altair.Data

/-!
# Deactivating a data call

The loop of `requestDeactivateDataCall` joins its two tests with a comma, so that only the one for
the cid counts: an unknown cid is searched for behind the entries of the table, in slots that
`getPdnTable` has not filled and on the stack behind them.
-/

namespace AndroidPatch.Ril.Altair

open AtChannel

/-! ## The table -/

/-- The same environment with another stack, `n` entries of it from the table on. -/
def Env.withStack (env : Env) (stack : Nat → PdnTableEntry) (n : Nat) : Env :=
  { env with garbagePdn := stack, stackPdns := n }

/-- Two environments that differ in the stack. -/
def SameButStack (env env' : Env) : Prop :=
  env'.replies = env.replies ∧ env'.ifcInit = env.ifcInit

theorem pdnLine_ignores (R : Env → Env → Prop) (line : CString) : (pdnLine line).Ignores R := by
  unfold pdnLine
  apply Block.Ignores.bind (tokStart_ignores _)
  intro l
  apply Block.Ignores.bind (tokChecked_ignores _)
  intro (sessionId, l)
  apply Block.Ignores.bind (tokChecked_ignores _)
  intro (active, l)
  apply Block.Ignores.bind (tokChecked_ignores _)
  intro (out, l)
  apply Block.Ignores.bind (Block.Ignores.lift (undefinedIf_ignores _ _))
  intro _
  apply Block.Ignores.bind (tokChecked_ignores _)
  intro (cid, l)
  exact Block.Ignores.pure _

/-- What fills the table does not look at the stack. -/
theorem getPdnTable_ignores : getPdnTable.Ignores SameButStack := by
  unfold getPdnTable
  apply Block.Ignores.bind
    (Block.Ignores.lift (atSend_ignores (fun r r' hr => hr.1.symm) _ _ _))
  intro reply
  apply Block.Ignores.bind (succeeded_ignores reply)
  intro r
  apply Block.Ignores.bind (Block.Ignores.mapM (pdnLine_ignores _) _)
  intro pdn
  exact Block.Ignores.pure _

/-! ## The entry that is found -/

/-- What follows the search. -/
def deactivatePdn (cid : Int) (pdn : PdnTableEntry) : Body Payload := do
  gotoErrorIf (pdn.cid ≠ cid)
  let reply ← atSendCommandOnly ("AT%PDNACT=0," ++ dec pdn.sessionId)
  let _ ← answered reply
  let err ← ifcConfig (ifName pdn.sessionId) false
  gotoErrorIf (err < 0)
  return .null

theorem requestDeactivateDataCall_eq (t : Token) (cid : CString) :
    requestDeactivateDataCall t cid = completing t .genericFailure (do
      let tbl ← getPdnTable
      let pdn ← findDeactivate tbl (atoi cid)
      deactivatePdn (atoi cid) pdn) := rfl

/-- An entry of the table is found without a look at the stack. -/
theorem exec_findDeactivate {tbl : PdnTable} {cid : Int} {pdn : PdnTableEntry}
    (h : tbl.pdn.find? (·.cid == cid) = some pdn) (env : Env) (w : World Store Event) :
    (findDeactivate tbl cid).exec env w = (.ok pdn, w) := by
  unfold findDeactivate
  rw [Traced.exec_bind, Traced.exec_read, h]
  rfl

/-- The first slot behind the entries of the table is looked at when none of them matches. -/
theorem exec_findDeactivate_stack {tbl : PdnTable} {cid : Int} {env : Env} {n : Nat}
    {pdn : PdnTableEntry} (hnone : tbl.pdn.find? (·.cid == cid) = none)
    (hstack : env.stackPdns = n + 1) (hpdn : env.garbagePdn tbl.numOfEntries = pdn)
    (hcid : pdn.cid = cid) (w : World Store Event) :
    ∃ u, (findDeactivate tbl cid).exec env w =
      (.ok pdn, { w with trace := w.trace ++ [.undefined u] }) := by
  unfold findDeactivate
  rw [Traced.exec_bind, Traced.exec_read, hnone]
  dsimp only
  rw [hstack, findCidOnStack, Traced.exec_bind_of_ok (exec_undefinedIf _ _ env w), hpdn,
    if_pos hcid, if_pos trivial]
  exact ⟨_, rfl⟩

theorem exec_ifcConfig (name : CString) (up : Bool) (env : Env) (w : World Store Event) :
    (ifcConfig name up).exec env w =
      if env.ifcInit w.store.tick < 0 then (.ok (-1), asked w [])
      else (.ok 0, asked w [.interface name up]) := by
  have htick : tick.exec env w = (.ok w.store.tick, asked w []) := by
    rw [asked, List.append_nil]
    rfl
  unfold ifcConfig
  rw [Traced.exec_bind_of_ok (Traced.exec_read env w), Traced.exec_bind_of_ok htick]
  by_cases hinit : env.ifcInit w.store.tick < 0
  · rw [if_pos hinit, if_pos hinit, Traced.exec_pure]
  · rw [if_neg hinit, if_neg hinit, Traced.exec_bind_of_ok (Traced.exec_emit _ env _),
      Traced.exec_pure]
    simp [asked]

theorem deactivatePdn_ignores (cid : Int) (pdn : PdnTableEntry) :
    (deactivatePdn cid pdn).Ignores SameButStack := by
  unfold deactivatePdn
  apply Block.Ignores.bind (Block.Ignores.gotoErrorIf _)
  intro _
  apply Block.Ignores.bind
    (Block.Ignores.lift (atSend_ignores (fun r r' hr => hr.1.symm) _ _ _))
  intro reply
  apply Block.Ignores.bind
  · cases reply with
    | response r => exact Block.Ignores.pure r
    | failed e r => exact Block.Ignores.gotoError
  intro _
  apply Block.Ignores.bind
  · apply Block.Ignores.lift
    intro r r' hr w
    rw [exec_ifcConfig, exec_ifcConfig, hr.2]
  intro err
  exact Block.Ignores.bind (Block.Ignores.gotoErrorIf _) fun _ => Block.Ignores.pure _

/-- The command names the entry, and only the interface comes after it. -/
theorem exec_deactivatePdn {pdn : PdnTableEntry} {cid : Int} (hcid : pdn.cid = cid) (env : Env)
    (w : World Store Event) :
    ∃ o w' reply l, (deactivatePdn cid pdn).exec env w = (.ok o, w') ∧
      w'.trace = w.trace ++ .at ("AT%PDNACT=0," ++ dec pdn.sessionId) reply :: l ∧
      ∀ e ∈ l, e = .interface (ifName pdn.sessionId) false := by
  unfold deactivatePdn
  have hfound : (gotoErrorIf (pdn.cid ≠ cid) : Body Unit).exec env w = (.ok (some ()), w) := by
    rw [Block.exec_gotoErrorIf, if_neg (not_not_intro hcid)]
  have hsend : (atSendCommandOnly ("AT%PDNACT=0," ++ dec pdn.sessionId)).exec env w = _ :=
    exec_atSend_only .command ("AT%PDNACT=0," ++ dec pdn.sessionId) env w
  rw [Block.exec_bind_of_some hfound, Block.exec_lift_bind_of_ok hsend]
  generalize env.replies w.store.tick = reply
  cases reply with
  | failed e r =>
    exact ⟨none, _, .failed e r, [], Block.exec_bind_of_none rfl, rfl, List.forall_mem_nil _⟩
  | response r =>
    have hanswered : (answered (.response r)).exec env (asked w
        [.at ("AT%PDNACT=0," ++ dec pdn.sessionId) (.response r)]) = (.ok (some r), _) := rfl
    have hifc := exec_ifcConfig (ifName pdn.sessionId) false env
      (asked w [.at ("AT%PDNACT=0," ++ dec pdn.sessionId) (.response r)])
    rw [Block.exec_bind_of_some hanswered]
    split at hifc
    · rw [Block.exec_lift_bind_of_ok hifc]
      refine ⟨none, _, .response r, [], Block.exec_bind_of_none rfl, ?_, List.forall_mem_nil _⟩
      simp
    · rw [Block.exec_lift_bind_of_ok hifc]
      refine ⟨some .null, _, .response r, [.interface (ifName pdn.sessionId) false], rfl, ?_, ?_⟩
      · simp
      · exact List.forall_mem_singleton.mpr rfl

/-! ## The request -/

/-- What a request for a cid does once the modem has given the table, whatever the stack holds: for
    an unknown cid it fails without a further event, for a known one its one command names the
    session of the first entry with that cid, and no memory is read that has not been set. -/
def DeactivatesKnown (t : Token) (cid : CString) (env : Env) (w w1 : World Store Event)
    (tbl : PdnTable) : Prop :=
  ∃ s l, (∀ stack n, maxNumOfPdn ≤ n →
      (requestDeactivateDataCall t cid).exec (env.withStack stack n) w =
        (.ok (), ⟨s, w1.trace ++ l⟩)) ∧
    match tbl.pdn.find? (·.cid == atoi cid) with
    | none => l = [.complete t .genericFailure .null]
    | some pdn => ∃ reply l', l = .at ("AT%PDNACT=0," ++ dec pdn.sessionId) reply :: l' ∧
        ∀ e ∈ l', (∀ c r, e ≠ .at c r) ∧ ∀ u, e ≠ .undefined u

section Request

variable {t : Token} {cid : CString} {env : Env} {w w1 : World Store Event} {tbl : PdnTable}

/-- With an entry on the stack that has the cid, a command is sent for it. -/
theorem not_deactivatesKnown (htbl : getPdnTable.exec env w = (.ok (some tbl), w1))
    (hnone : tbl.pdn.find? (·.cid == atoi cid) = none) :
    ¬ DeactivatesKnown t cid env w w1 tbl := by
  rintro ⟨s, l, hexec, hevents⟩
  rw [hnone] at hevents
  subst hevents
  have hrun := hexec (fun _ => ⟨1, atoi cid, 1, []⟩) 4 (Nat.le_refl 4)
  have hsame : SameButStack (env.withStack (fun _ => ⟨1, atoi cid, 1, []⟩) 4) env := ⟨rfl, rfl⟩
  obtain ⟨u, hfind⟩ := exec_findDeactivate_stack hnone
    (show (env.withStack (fun _ => ⟨1, atoi cid, 1, []⟩) 4).stackPdns = 3 + 1 from rfl)
    (show _ = (⟨1, atoi cid, 1, []⟩ : PdnTableEntry) from rfl) rfl w1
  obtain ⟨o, w', reply, l', hrest, htrace, -⟩ := exec_deactivatePdn
    (show (⟨1, atoi cid, 1, []⟩ : PdnTableEntry).cid = atoi cid from rfl)
    (env.withStack (fun _ => ⟨1, atoi cid, 1, []⟩) 4)
    { w1 with trace := w1.trace ++ [.undefined u] }
  rw [requestDeactivateDataCall_eq, exec_completing,
    Block.exec_bind_of_some ((getPdnTable_ignores.exec_eq hsame w).trans htbl),
    Block.exec_lift_bind_of_ok hfind, hrest] at hrun
  -- the trace goes on with the read of the slot, not with the completion
  have hend := congrArg (fun r => r.2.trace) hrun
  cases o with
  | none => simp [htrace] at hend
  | some response => simp [htrace] at hend

/-- The request does what it should if and only if an entry of the table has the cid. -/
theorem deactivatesKnown_iff (htbl : getPdnTable.exec env w = (.ok (some tbl), w1)) :
    DeactivatesKnown t cid env w w1 tbl ↔ ∃ pdn ∈ tbl.pdn, pdn.cid = atoi cid := by
  cases hfind : tbl.pdn.find? (·.cid == atoi cid) with
  | none =>
    refine iff_of_false (not_deactivatesKnown htbl hfind) ?_
    simpa using List.find?_eq_none.mp hfind
  | some pdn =>
    have hcid : pdn.cid = atoi cid := by simpa using List.find?_some hfind
    refine iff_of_true ?_ ⟨pdn, List.mem_of_find?_eq_some hfind, hcid⟩
    obtain ⟨o, ⟨s, trace⟩, reply, l, hrest, rfl, hl⟩ := exec_deactivatePdn hcid env w1
    have hrun : ∀ stack n, (requestDeactivateDataCall t cid).exec (env.withStack stack n) w =
        (.ok (), ⟨s, w1.trace ++ (.at ("AT%PDNACT=0," ++ dec pdn.sessionId) reply :: l ++
          [o.elim (.complete t .genericFailure .null) (.complete t .success)])⟩) := by
      intro stack n
      have hsame : SameButStack (env.withStack stack n) env := ⟨rfl, rfl⟩
      rw [requestDeactivateDataCall_eq, exec_completing,
        Block.exec_bind_of_some ((getPdnTable_ignores.exec_eq hsame w).trans htbl),
        Block.exec_lift_bind_of_ok (exec_findDeactivate hfind _ w1),
        (deactivatePdn_ignores (atoi cid) pdn).exec_eq hsame w1, hrest]
      cases o <;> simp
    refine ⟨s, _, fun stack n _ => hrun stack n, ?_⟩
    rw [hfind]
    refine ⟨reply, _, rfl, ?_⟩
    intro e he
    rcases List.mem_append.mp he with he | he
    · rw [hl e he]
      exact ⟨nofun, nofun⟩
    · rw [List.mem_singleton.mp he]
      cases o <;> exact ⟨nofun, nofun⟩

end Request

/-- A modem with one data call. -/
def oneCall : Env :=
  .constant (.response ⟨true, some "OK", ["%PDNACT:1,1,\"internet\",1"]⟩)

theorem exec_getPdnTable_oneCall : getPdnTable.exec oneCall ⟨.radioOn, []⟩ =
    (.ok (some ⟨[⟨1, 1, 1, "internet"⟩]⟩),
      asked ⟨.radioOn, []⟩ [.at "AT%PDNACT?" (oneCall.replies 0)]) := rfl

theorem deactivatesKnown_one : DeactivatesKnown 7 "1" oneCall ⟨.radioOn, []⟩
    (asked ⟨.radioOn, []⟩ [.at "AT%PDNACT?" (oneCall.replies 0)]) ⟨[⟨1, 1, 1, "internet"⟩]⟩ :=
  (deactivatesKnown_iff exec_getPdnTable_oneCall).mpr ⟨_, List.mem_singleton_self _, rfl⟩

/-- The data call 2, which the modem does not have. -/
theorem two_not_deactivatesKnown : ¬ DeactivatesKnown 7 "2" oneCall ⟨.radioOn, []⟩
    (asked ⟨.radioOn, []⟩ [.at "AT%PDNACT?" (oneCall.replies 0)]) ⟨[⟨1, 1, 1, "internet"⟩]⟩ :=
  not_deactivatesKnown exec_getPdnTable_oneCall rfl

end AndroidPatch.Ril.Altair
