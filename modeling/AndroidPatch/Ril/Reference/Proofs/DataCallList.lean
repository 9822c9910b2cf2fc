import AndroidPatch.Ril.Reference.Data
import AndroidPatch.Ril.Reference.Proofs.TokStrings

/-!
# The data call list

`requestOrSendDataCallList` looks every `+CGDCONT:` line up among the `+CGACT:` lines. What is in an entry
behind the loop is what the last line that names it has left there, unless that are two pointers to a
buffer of the loop.
-/

namespace AndroidPatch.Ril.Reference

open AtChannel
open Altair (Token Sees decimal readField)

/-! ## The lines -/

/-- The context and its state in a `+CGACT:` line. -/
def readCgact (line : CString) : Option (Int × Int) := do
  let s ← (cutAt ':' line).2
  let (cid, ahead) ← readField decimal (some s)
  let (active, _) ← readField decimal ahead
  return (cid, active)

/-- What a `+CGDCONT:` line says of a context. -/
structure Context where
  cid : Int
  type : CString
  apn : CString
  address : CString
  deriving DecidableEq, Repr

def readContext (line : CString) : Option Context := do
  let s ← (cutAt ':' line).2
  let (cid, ahead) ← readField decimal (some s)
  let (type, apn, address) ← readStrings ahead
  return ⟨cid, type, apn, address⟩

/-- The entry of a context that no `+CGDCONT:` line has named. -/
def unnamed (cid active : Int) : DataCall := ⟨-1, -1, cid, active, "", "", "", "", ""⟩

theorem cgactLine_eq {line : CString} (hline : nul ∉ line) {cid active : Int}
    (h : readCgact line = some (cid, active)) : cgactLine line = pure (unnamed cid active) := by
  have hstart := tokStart_ofString hline
  obtain ⟨s, hs, h⟩ := Option.bind_eq_some_iff.mp h
  rw [hs] at hstart
  obtain ⟨l, hsees, hstart⟩ := hstart
  obtain ⟨⟨cid', ahead⟩, hcid, h⟩ := Option.bind_eq_some_iff.mp h
  obtain ⟨⟨active', ahead'⟩, hactive, h⟩ := Option.bind_eq_some_iff.mp h
  cases h
  have hread := reads_nextint l _ hsees
  rw [hcid] at hread
  obtain ⟨l', hsees', hread⟩ := hread
  have hread' := reads_nextint l' _ hsees'
  rw [hactive] at hread'
  obtain ⟨l'', -, hread'⟩ := hread'
  rw [cgactLine, hstart]
  simp only [pure_bind, hread, hread']
  rfl

theorem mapM_cgactLine {lines : List CString} (hlines : ∀ line ∈ lines, nul ∉ line)
    {listed : List (Int × Int)} (h : lines.map readCgact = listed.map some) :
    lines.mapM cgactLine = pure (listed.map fun l => unnamed l.1 l.2) := by
  induction lines generalizing listed with
  | nil =>
    cases listed with
    | nil => rfl
    | cons l listed => cases h
  | cons line lines ih =>
    cases listed with
    | nil => cases h
    | cons l listed =>
      obtain ⟨hline, hrest⟩ := List.cons.inj h
      rw [List.mapM_cons, cgactLine_eq (hlines line List.mem_cons_self) hline, pure_bind,
        ih (fun l hl => hlines l (List.mem_cons_of_mem _ hl)) hrest, pure_bind]
      rfl

/-- The entry of a context after a line that names it, before its addresses. -/
def Context.name (c : Context) (call : DataCall) : DataCall :=
  { call with status := 0, type := c.type, ifname := "ppp0", addresses := c.address }

/-- A line that describes a context goes to the first entry with its cid. -/
theorem cgdcontLines_cons {line : CString} (hline : nul ∉ line) {c : Context}
    (h : readContext line = some c) (lines : List CString) (responses : List DataCallEntry) :
    cgdcontLines (line :: lines) responses = match responses.findIdx? (·.call.cid == c.cid) with
      | none => cgdcontLines lines responses
      | some i => (do
          let response ← dataCallAddresses
            (c.name (responses.getD i ⟨unnamed (-1) (-1), false⟩).call)
          cgdcontLines lines (responses.set i response)) := by
  have hstart := tokStart_ofString hline
  obtain ⟨s, hs, h⟩ := Option.bind_eq_some_iff.mp h
  rw [hs] at hstart
  obtain ⟨l, hsees, hstart⟩ := hstart
  obtain ⟨⟨cid, ahead⟩, hcid, h⟩ := Option.bind_eq_some_iff.mp h
  obtain ⟨⟨type, apn, address⟩, hstrings, h⟩ := Option.bind_eq_some_iff.mp h
  cases h
  have hread := reads_nextint l _ hsees
  rw [hcid] at hread
  obtain ⟨l', hsees', hread⟩ := hread
  rw [cgdcontLines, hstart]
  simp only [pure_bind, hread]
  cases responses.findIdx? (·.call.cid == cid) with
  | none => rfl
  | some i =>
    have hbind := tokStrings_bind hsees' fun type apn address => (do
      let response ← dataCallAddresses
        (Context.name ⟨cid, type, apn, address⟩ (responses.getD i ⟨unnamed (-1) (-1), false⟩).call)
      cgdcontLines lines (responses.set i response) : Body (List DataCallEntry))
    rw [hstrings] at hbind
    exact hbind

/-! ## The properties -/

/-- The world after some questions to the environment. -/
def ticked (w : World Store Event) (n : Nat) : World Store Event :=
  ⟨{ w.store with tick := w.store.tick + n }, w.trace⟩

@[simp] theorem ticked_tick (w : World Store Event) (n : Nat) :
    (ticked w n).store.tick = w.store.tick + n := rfl

@[simp] theorem ticked_ticked (w : World Store Event) (m n : Nat) :
    ticked (ticked w m) n = ticked w (m + n) := by
  rw [ticked, ticked, ticked, Nat.add_assoc]

@[simp] theorem exec_systemProperty (name : CString) (env : Env) (w : World Store Event) :
    (systemProperty name).exec env w = (.ok (env.property w.store.tick name), ticked w 1) := rfl

/-- The value of a property, or the default. -/
def propertyOr (env : Env) (n : Nat) (name default : CString) : CString :=
  if env.property n name = [] then default else env.property n name

@[simp] theorem exec_propertyGet (name default : CString) (env : Env) (w : World Store Event) :
    (propertyGet name default).exec env w =
      (.ok (propertyOr env w.store.tick name default), ticked w 1) := rfl

/-- The DNS servers of the emulator, with the first property read at `n`. -/
def emulatorDnsesAt (env : Env) : Nat → List CString → CString → CString → CString
  | _, [], _, dnslist => dnslist
  | n, name :: names, separator, dnslist =>
      if env.property n name = [] then emulatorDnsesAt env (n + 1) names separator dnslist
      else emulatorDnsesAt env (n + 1) names " "
        (strlcat (strlcat dnslist separator) (env.property n name))

theorem exec_emulatorDnses (names : List CString) (separator dnslist : CString) (env : Env)
    (w : World Store Event) : (emulatorDnses names separator dnslist).exec env w =
      (.ok (emulatorDnsesAt env w.store.tick names separator dnslist), ticked w names.length) := by
  induction names generalizing separator dnslist w with
  | nil => rfl
  | cons name names ih =>
    rw [emulatorDnses, Traced.exec_bind_of_ok (exec_systemProperty name env w), emulatorDnsesAt,
      List.length_cons, Nat.add_comm names.length]
    split
    · rw [ih, ticked_ticked, ticked_tick]
    · rw [ih, ticked_ticked, ticked_tick]

/-- The first property that is read for a line says that this is the emulator. -/
def Emulator (env : Env) (n : Nat) : Prop := env.property n "ro.kernel.qemu" ≠ []

instance (env : Env) (n : Nat) : Decidable (Emulator env n) := inferInstanceAs (Decidable (_ ≠ _))

/-- The addresses of a call, with the first property read at `n`. -/
def addressesAt (env : Env) (n : Nat) (call : DataCall) : DataCallEntry :=
  if Emulator env n then
    ⟨{ call with
      dnses := emulatorDnsesAt env (n + 1)
        ["net.eth0.dns1", "net.eth0.dns2", "net.eth0.dns3", "net.eth0.dns4"] "" ""
      gateways := "10.0.2.2" }, false⟩
  else
    ⟨{ call with
      dnses := strlcat (strlcat (strlcat "" (propertyOr env (n + 1) "net.ppp0.dns1" "8.8.8.8")) " ")
        (propertyOr env (n + 2) "net.ppp0.dns2" "8.8.4.4")
      gateways := env.garbageStr 0
      addresses := env.garbageStr 0 }, true⟩

/-- Five properties are read, in the emulator and outside of it. -/
theorem exec_dataCallAddresses (call : DataCall) (env : Env) (w : World Store Event) :
    (dataCallAddresses call).exec env w = (.ok (addressesAt env w.store.tick call), ticked w 5) := by
  rw [dataCallAddresses, Traced.exec_bind_of_ok (exec_systemProperty _ env w), addressesAt]
  by_cases hqemu : Emulator env w.store.tick
  · have hqemu' : env.property w.store.tick "ro.kernel.qemu".toList ≠ [] := hqemu
    rw [if_pos hqemu, if_pos hqemu', Traced.exec_bind_of_ok (exec_emulatorDnses _ _ _ env _)]
    rfl
  · have hqemu' : ¬ env.property w.store.tick "ro.kernel.qemu".toList ≠ [] := hqemu
    rw [if_neg hqemu, if_neg hqemu', Traced.exec_bind_of_ok (Traced.exec_read env _),
      Traced.exec_bind_of_ok (exec_propertyGet _ _ env _),
      Traced.exec_bind_of_ok (exec_propertyGet _ _ env _),
      Traced.exec_bind_of_ok (exec_propertyGet _ _ env _),
      Traced.exec_bind_of_ok (exec_propertyGet _ _ env _), Traced.exec_pure]
    simp only [ticked_ticked, ticked_tick, Nat.reduceAdd]

/-! ## The entries behind the loop -/

/-- The entry that a line about a context leaves. -/
def Context.entry (c : Context) (env : Env) (n : Nat) (response : DataCallEntry) : DataCallEntry :=
  addressesAt env n (c.name response.call)

@[simp] theorem Context.cid_entry (c : Context) (env : Env) (n : Nat) (response : DataCallEntry) :
    (c.entry env n response).call.cid = response.call.cid := by
  unfold Context.entry addressesAt
  split <;> rfl

@[simp] theorem Context.active_entry (c : Context) (env : Env) (n : Nat) (response : DataCallEntry) :
    (c.entry env n response).call.active = response.call.active := by
  unfold Context.entry addressesAt
  split <;> rfl

/-- Nothing is left of the line before. -/
theorem Context.entry_entry (c c' : Context) (env : Env) (n n' : Nat) (response : DataCallEntry) :
    c'.entry env n' (c.entry env n response) = c'.entry env n' response := by
  unfold Context.entry addressesAt
  split <;> split <;> rfl

/-- What the loop leaves, with the first property read at `n`. -/
def fill (env : Env) : Nat → List Context → List DataCallEntry → List DataCallEntry
  | _, [], responses => responses
  | n, c :: contexts, responses =>
      match responses.findIdx? (·.call.cid == c.cid) with
      | none => fill env n contexts responses
      | some i => fill env (n + 5) contexts
          (responses.set i (c.entry env n (responses.getD i ⟨unnamed (-1) (-1), false⟩)))

theorem exec_cgdcontLines {lines : List CString} (hlines : ∀ line ∈ lines, nul ∉ line)
    {contexts : List Context} (h : lines.map readContext = contexts.map some)
    (responses : List DataCallEntry) (env : Env) (w : World Store Event) :
    ∃ n, (cgdcontLines lines responses).exec env w =
      (.ok (some (fill env w.store.tick contexts responses)), ticked w n) := by
  induction lines generalizing contexts responses w with
  | nil =>
    cases contexts with
    | nil => exact ⟨0, rfl⟩
    | cons c contexts => cases h
  | cons line lines ih =>
    cases contexts with
    | nil => cases h
    | cons c contexts =>
      obtain ⟨hline, hrest⟩ := List.cons.inj h
      have hlines' := fun l hl => hlines l (List.mem_cons_of_mem line hl)
      rw [cgdcontLines_cons (hlines line List.mem_cons_self) hline, fill]
      cases responses.findIdx? (·.call.cid == c.cid) with
      | none => exact ih hlines' hrest responses w
      | some i =>
        dsimp only
        rw [Block.exec_lift_bind_of_ok (exec_dataCallAddresses _ env w)]
        obtain ⟨n, hexec⟩ := ih hlines' hrest
          (responses.set i (c.entry env w.store.tick (responses.getD i ⟨unnamed (-1) (-1), false⟩)))
          (ticked w 5)
        exact ⟨5 + n, by rw [← ticked_ticked]; exact hexec⟩

/-- The contexts that are listed, each with the time of the first property that is read for it. -/
def visits (cids : List Int) : Nat → List Context → List (Nat × Context)
  | _, [] => []
  | n, c :: contexts =>
      if c.cid ∈ cids then (n, c) :: visits cids (n + 5) contexts else visits cids n contexts

/-- The last line about a context. -/
def lastVisit (cids : List Int) (n : Nat) (contexts : List Context) (cid : Int) : Option (Nat × Context) :=
  ((visits cids n contexts).filter (·.2.cid = cid)).getLast?

section Fill

variable {env : Env} {responses : List DataCallEntry}

/-- The cids of the entries. -/
def cidsOf (responses : List DataCallEntry) : List Int := responses.map (·.call.cid)

theorem findIdx_eq_none_iff {cid : Int} :
    responses.findIdx? (·.call.cid == cid) = none ↔ cid ∉ cidsOf responses := by
  simp only [List.findIdx?_eq_none_iff, cidsOf, List.mem_map, not_exists, not_and]
  simp

/-- A line changes no cid. -/
theorem cidsOf_set {i : Nat} {r : DataCallEntry} (hr : responses[i]? = some r) (c : Context) (n : Nat) :
    cidsOf (responses.set i (c.entry env n r)) = cidsOf responses := by
  obtain ⟨hi, rfl⟩ := List.getElem?_eq_some_iff.mp hr
  have hi' : i < (responses.map (·.call.cid)).length := by rwa [List.length_map]
  have hget : responses[i].call.cid = (responses.map (·.call.cid))[i] := by rw [List.getElem_map]
  rw [cidsOf, List.map_set, Context.cid_entry, hget, cidsOf, List.set_getElem_self hi']

theorem findIdx_congr {responses' : List DataCallEntry} (h : cidsOf responses' = cidsOf responses)
    (cid : Int) : responses'.findIdx? (·.call.cid == cid) = responses.findIdx? (·.call.cid == cid) := by
  have hmap : ∀ l : List DataCallEntry,
      l.findIdx? (·.call.cid == cid) = (cidsOf l).findIdx? (· == cid) := by
    intro l
    rw [cidsOf, List.findIdx?_map]
    rfl
  rw [hmap, hmap, h]

theorem visits_congr {responses' : List DataCallEntry} (h : cidsOf responses' = cidsOf responses)
    (n : Nat) (contexts : List Context) (cid : Int) :
    lastVisit (cidsOf responses') n contexts cid = lastVisit (cidsOf responses) n contexts cid := by
  rw [h]

theorem cidsOf_fill (n : Nat) (contexts : List Context) (responses : List DataCallEntry) :
    cidsOf (fill env n contexts responses) = cidsOf responses := by
  induction contexts generalizing n responses with
  | nil => rfl
  | cons c contexts ih =>
    rw [fill]
    cases hfind : responses.findIdx? (·.call.cid == c.cid) with
    | none => exact ih n responses
    | some i =>
      obtain ⟨hi, -, -⟩ := List.findIdx?_eq_some_iff_getElem.mp hfind
      have hget : responses[i]? = some (responses.getD i ⟨unnamed (-1) (-1), false⟩) := by
        rw [List.getD_eq_getElem?_getD, List.getElem?_eq_getElem hi, Option.getD_some]
      exact (ih _ _).trans (cidsOf_set hget c n)

/-- What the loop leaves in an entry: that of the last line about its cid, if it is the first entry with
    it. -/
theorem getElem_fill (n : Nat) (contexts : List Context) {i : Nat} {r : DataCallEntry}
    (hr : responses[i]? = some r) :
    (fill env n contexts responses)[i]? = some
      (if responses.findIdx? (·.call.cid == r.call.cid) = some i then
        match lastVisit (cidsOf responses) n contexts r.call.cid with
        | none => r
        | some (m, c) => c.entry env m r
      else r) := by
  induction contexts generalizing n responses r with
  | nil =>
    rw [fill, hr]
    simp [lastVisit, visits]
  | cons c contexts ih =>
    rw [fill]
    cases hfind : responses.findIdx? (·.call.cid == c.cid) with
    | none =>
      have hnew := findIdx_eq_none_iff.mp hfind
      rw [ih n hr]
      rw [lastVisit, lastVisit, visits, if_neg hnew]
    | some j =>
      obtain ⟨hj, hcid, hfirst⟩ := List.findIdx?_eq_some_iff_getElem.mp hfind
      have hget : responses[j]? = some (responses.getD j ⟨unnamed (-1) (-1), false⟩) := by
        rw [List.getD_eq_getElem?_getD, List.getElem?_eq_getElem hj, Option.getD_some]
      dsimp only
      generalize responses.getD j ⟨unnamed (-1) (-1), false⟩ = rj at hget ⊢
      have hold : c.cid ∈ cidsOf responses := by
        by_contra hnew
        rw [findIdx_eq_none_iff.mpr hnew] at hfind
        cases hfind
      have hsame : cidsOf (responses.set j (c.entry env n rj)) = cidsOf responses :=
        cidsOf_set hget c n
      have hrj : rj.call.cid = c.cid := by
        rw [List.getElem?_eq_getElem hj, Option.some.injEq] at hget
        rw [← hget]
        simpa using hcid
      by_cases hij : i = j
      · -- the entry of this line
        subst hij
        obtain rfl : r = rj := Option.some.inj (hr.symm.trans hget)
        have hset : (responses.set i (c.entry env n r))[i]? = some (c.entry env n r) := by
          rw [List.getElem?_set_self hj]
        rw [ih (n + 5) hset, Context.cid_entry, hrj, findIdx_congr hsame, visits_congr hsame, hfind,
          if_pos rfl, if_pos rfl]
        have hlast : lastVisit (cidsOf responses) n (c :: contexts) c.cid =
            some ((lastVisit (cidsOf responses) (n + 5) contexts c.cid).getD (n, c)) := by
          rw [lastVisit, visits, if_pos hold, List.filter_cons_of_pos (by simp), List.getLast?_cons,
            lastVisit]
        rw [hlast]
        cases lastVisit (cidsOf responses) (n + 5) contexts c.cid with
        | none => rfl
        | some v => exact congrArg some (c.entry_entry v.2 env n v.1 r)
      · have hset : (responses.set j (c.entry env n rj))[i]? = some r := by
          rw [List.getElem?_set_ne (Ne.symm hij), hr]
        rw [ih (n + 5) hset, findIdx_congr hsame, visits_congr hsame]
        by_cases hc : r.call.cid = c.cid
        · have hlater : ¬ responses.findIdx? (·.call.cid == r.call.cid) = some i := by
            rw [hc, hfind]
            exact fun h => hij (Option.some.inj h).symm
          rw [if_neg hlater, if_neg hlater]
        · have hdrop : lastVisit (cidsOf responses) n (c :: contexts) r.call.cid =
              lastVisit (cidsOf responses) (n + 5) contexts r.call.cid := by
            rw [lastVisit, visits, if_pos hold, List.filter_cons_of_neg (by simpa using Ne.symm hc),
              lastVisit]
          rw [hdrop]

end Fill

/-! ## The request -/

/-- The entries before the loop. -/
def unnamedAll (listed : List (Int × Int)) : List DataCallEntry :=
  listed.map fun l => ⟨unnamed l.1 l.2, false⟩

theorem cidsOf_unnamedAll (listed : List (Int × Int)) : cidsOf (unnamedAll listed) = listed.map Prod.fst := by
  rw [cidsOf, unnamedAll, List.map_map]
  rfl

/-- The answer to the request, or the notification. -/
def responded (t : Option Token) (response : Payload) : Event :=
  match t with
  | some t => .complete t .success response
  | none => .unsolicited .dataCallListChanged response

theorem exec_respondDataCalls (t : Option Token) (response : Payload) (env : Env)
    (w : World Store Event) : (respondDataCalls t .success response).exec env w =
      (.ok (), { w with trace := w.trace ++ [responded t response] }) := by
  cases t <;> rfl

/-- Both commands succeed with these lines. -/
structure Answers (env : Env) (w : World Store Event) (actLines contLines : List CString) : Prop where
  act : ∃ final, nextReply (.multiline "+CGACT:") env w = .response ⟨true, final, actLines⟩
  cont : ∃ final, nextReply (.multiline "+CGDCONT:") env (ticked w 1) = .response ⟨true, final, contLines⟩

/-- The lines have these fields. -/
structure Describes (actLines contLines : List CString) (listed : List (Int × Int))
    (contexts : List Context) : Prop where
  actText : ∀ line ∈ actLines, nul ∉ line
  contText : ∀ line ∈ contLines, nul ∉ line
  act : actLines.map readCgact = listed.map some
  cont : contLines.map readContext = contexts.map some

/-- The trace of the two commands. -/
def queries (env : Env) (w : World Store Event) : List Event :=
  [.at "AT+CGACT?" (nextReply (.multiline "+CGACT:") env w),
    .at "AT+CGDCONT?" (nextReply (.multiline "+CGDCONT:") env (ticked w 1))]

section Request

variable {t : Option Token} {env : Env} {w : World Store Event} {actLines contLines : List CString}
  {listed : List (Int × Int)} {contexts : List Context}

/-- The pointers are used when the entries are reported. -/
theorem exec_requestOrSendDataCallList (hanswers : Answers env w actLines contLines)
    (hlines : Describes actLines contLines listed contexts) (t : Option Token) :
    ∃ s, (requestOrSendDataCallList t).exec env w = (.ok (), ⟨s, w.trace ++ queries env w ++
      (if (fill env (w.store.tick + 2) contexts (unnamedAll listed)).any (·.ended) then
        [.undefined .useAfterFree] else []) ++
      [responded t (.dataCalls
        ((fill env (w.store.tick + 2) contexts (unnamedAll listed)).map (·.call)))]⟩) := by
  obtain ⟨⟨final1, hact⟩, ⟨final2, hcont⟩⟩ := hanswers
  have hask1 := exec_asked (.multiline "+CGACT:") "AT+CGACT?" env w
  have hask2 := exec_asked (.multiline "+CGDCONT:") "AT+CGDCONT?" env
    (asked w [.at "AT+CGACT?" (nextReply (.multiline "+CGACT:") env w)])
  have hcont' : nextReply (.multiline "+CGDCONT:") env
      (asked w [.at "AT+CGACT?" (nextReply (.multiline "+CGACT:") env w)]) =
      .response ⟨true, final2, contLines⟩ := hcont
  rw [hcont'] at hask2
  unfold queries
  rw [hcont]
  rw [hact] at hask1 hask2 ⊢
  obtain ⟨n, hloop⟩ := exec_cgdcontLines hlines.contText hlines.cont (unnamedAll listed) env
    (asked (asked w [.at "AT+CGACT?" (.response ⟨true, final1, actLines⟩)])
      [.at "AT+CGDCONT?" (.response ⟨true, final2, contLines⟩)])
  unfold requestOrSendDataCallList atSendCommandMultiline
  rw [Traced.exec_labelled, Block.exec_lift_bind_of_ok hask1,
    Block.exec_bind_of_some (exec_succeeded _ _ _ _)]
  dsimp only
  rw [mapM_cgactLine hlines.actText hlines.act, Block.exec_pure_bind, Block.exec_lift_bind_of_ok hask2,
    Block.exec_bind_of_some (exec_succeeded _ _ _ _)]
  dsimp only
  have hinit : (listed.map fun l => unnamed l.1 l.2).map (fun call => (⟨call, false⟩ : DataCallEntry)) =
      unnamedAll listed := List.map_map
  rw [hinit, Block.exec_bind_of_some hloop, Block.exec_lift_bind_of_ok (exec_undefinedIf _ _ _ _)]
  rw [Block.exec_lift, exec_respondDataCalls]
  simp only [ticked, asked_trace, List.append_assoc, List.cons_append]
  exact ⟨_, rfl⟩

end Request

/-! ## The entries that are reported -/

/-- One entry for each line, in order. The first with a cid has what the last line that names it says, and
    the addresses of the properties outside of the emulator; the others are as they were before. -/
structure WellMatched (env : Env) (n : Nat) (listed : List (Int × Int)) (contexts : List Context)
    (calls : List DataCall) : Prop where
  inOrder : calls.map (fun call => (call.cid, call.active)) = listed
  unnamed : ∀ i call, calls[i]? = some call →
    (call.cid ∈ (listed.take i).map Prod.fst ∨ ∀ c ∈ contexts, c.cid ≠ call.cid) →
    call = unnamed call.cid call.active
  named : ∀ i call, calls[i]? = some call → call.cid ∉ (listed.take i).map Prod.fst →
    ∀ m c, lastVisit (listed.map Prod.fst) n contexts call.cid = some (m, c) →
      call.status = 0 ∧ call.type = c.type ∧
        (¬ Emulator env m →
          call.gateways = env.property (m + 3) "net.ppp0.remote-ip" ∧
          call.addresses = env.property (m + 4) "net.ppp0.local-ip" ∧
          call.dnses = propertyOr env (m + 1) "net.ppp0.dns1" "8.8.8.8" ++ " " ++
            propertyOr env (m + 2) "net.ppp0.dns2" "8.8.4.4")

/-- The last line about each context is read in the emulator. -/
def InEmulator (env : Env) (n : Nat) (listed : List (Int × Int)) (contexts : List Context) : Prop :=
  ∀ cid ∈ listed.map Prod.fst, ∀ m c,
    lastVisit (listed.map Prod.fst) n contexts cid = some (m, c) → Emulator env m

section WellMatched

variable {env : Env} {n : Nat} {listed : List (Int × Int)} {contexts : List Context} {i : Nat}
  {cid active : Int}

/-- The search for a cid ends at its first entry. -/
theorem findIdx_unnamedAll (hi : listed[i]? = some (cid, active)) :
    (unnamedAll listed).findIdx? (·.call.cid == cid) = some i ↔
      cid ∉ (listed.take i).map Prod.fst := by
  obtain ⟨hlt, hget⟩ := List.getElem?_eq_some_iff.mp hi
  rw [unnamedAll, List.findIdx?_map, List.findIdx?_eq_some_iff_getElem]
  simp only [Function.comp_apply, beq_iff_eq, unnamed, List.mem_map, not_exists, not_and]
  constructor
  · rintro ⟨_, -, hfirst⟩ l hl
    obtain ⟨j, hj, rfl⟩ := List.mem_iff_getElem.mp hl
    rw [List.length_take] at hj
    rw [List.getElem_take]
    exact hfirst j (by omega)
  · intro hfirst
    refine ⟨hlt, by rw [hget], fun j hj => ?_⟩
    have hmem : listed[j] ∈ listed.take i := by
      rw [List.mem_iff_getElem]
      exact ⟨j, by rw [List.length_take]; omega, List.getElem_take⟩
    exact hfirst _ hmem

/-- What the loop leaves for a line. -/
theorem getElem_fill_unnamedAll (hi : listed[i]? = some (cid, active)) :
    (fill env n contexts (unnamedAll listed))[i]? = some
      (if cid ∉ (listed.take i).map Prod.fst then
        match lastVisit (listed.map Prod.fst) n contexts cid with
        | none => ⟨unnamed cid active, false⟩
        | some (m, c) => c.entry env m ⟨unnamed cid active, false⟩
      else ⟨unnamed cid active, false⟩) := by
  have hr : (unnamedAll listed)[i]? = some ⟨unnamed cid active, false⟩ := by
    rw [unnamedAll, List.getElem?_map, hi]
    rfl
  rw [getElem_fill n contexts hr, cidsOf_unnamedAll]
  simp only [show (unnamed cid active).cid = cid from rfl, findIdx_unnamedAll hi]

theorem lastVisit_eq_none_iff (hcid : cid ∈ listed.map Prod.fst) :
    lastVisit (listed.map Prod.fst) n contexts cid = none ↔ ∀ c ∈ contexts, c.cid ≠ cid := by
  rw [lastVisit, List.getLast?_eq_none_iff, List.filter_eq_nil_iff]
  induction contexts generalizing n with
  | nil => simp [visits]
  | cons c contexts ih =>
    rw [visits, List.forall_mem_cons]
    split
    · rw [List.forall_mem_cons, ih]
      simp
    · rename_i hout
      rw [ih]
      exact ⟨fun h => ⟨fun heq => hout (heq ▸ hcid), h⟩, And.right⟩

theorem ended_entry (c : Context) (m : Nat) (response : DataCallEntry) :
    (c.entry env m response).ended = true ↔ ¬ Emulator env m := by
  unfold Context.entry addressesAt
  split <;> simp_all

theorem length_fill : (fill env n contexts (unnamedAll listed)).length = listed.length := by
  have hlen : (cidsOf (fill env n contexts (unnamedAll listed))).length =
      (cidsOf (unnamedAll listed)).length := by rw [cidsOf_fill]
  simpa [cidsOf, unnamedAll] using hlen

/-- An entry that is reported: unnamed, or that of the last line about its context. -/
theorem entry_cases {e : DataCallEntry} (he : (fill env n contexts (unnamedAll listed))[i]? = some e) :
    ∃ cid active, listed[i]? = some (cid, active) ∧ e.call.cid = cid ∧ e.call.active = active ∧
      ((e = ⟨unnamed cid active, false⟩ ∧ (cid ∈ (listed.take i).map Prod.fst ∨
          lastVisit (listed.map Prod.fst) n contexts cid = none)) ∨
        cid ∉ (listed.take i).map Prod.fst ∧ ∃ m c,
          lastVisit (listed.map Prod.fst) n contexts cid = some (m, c) ∧
            e = c.entry env m ⟨unnamed cid active, false⟩) := by
  have hlt : i < listed.length := by
    have hlen : (fill env n contexts (unnamedAll listed)).length = listed.length := length_fill
    rw [← hlen]
    exact (List.getElem?_eq_some_iff.mp he).1
  obtain ⟨⟨cid, active⟩, hi⟩ : ∃ l, listed[i]? = some l := ⟨_, List.getElem?_eq_getElem hlt⟩
  rw [getElem_fill_unnamedAll hi] at he
  refine ⟨cid, active, hi, ?_⟩
  by_cases hfirst : cid ∉ (listed.take i).map Prod.fst
  · rw [if_pos hfirst] at he
    cases hlast : lastVisit (listed.map Prod.fst) n contexts cid with
    | none =>
      rw [hlast] at he
      cases he
      exact ⟨rfl, rfl, .inl ⟨rfl, .inr rfl⟩⟩
    | some v =>
      obtain ⟨m, c⟩ := v
      rw [hlast] at he
      cases he
      exact ⟨c.cid_entry .., c.active_entry .., .inr ⟨hfirst, m, c, rfl, rfl⟩⟩
  · rw [if_neg hfirst] at he
    cases he
    exact ⟨rfl, rfl, .inl ⟨rfl, .inl (not_not.mp hfirst)⟩⟩

theorem exists_first_listed (hcid : cid ∈ listed.map Prod.fst) :
    ∃ i active, listed[i]? = some (cid, active) ∧ cid ∉ (listed.take i).map Prod.fst := by
  obtain ⟨a, b, heq, hnew⟩ := List.eq_append_cons_of_mem hcid
  obtain ⟨l1, l2, rfl, rfl, hl2⟩ := List.map_eq_append_iff.mp heq
  obtain ⟨⟨cid', active⟩, l3, rfl, rfl, -⟩ := List.map_eq_cons_iff.mp hl2
  exact ⟨l1.length, active, by simp, by simpa using hnew⟩

/-- A pointer is reported exactly when the last line about a context is not read in the emulator. -/
theorem any_ended_iff : (fill env n contexts (unnamedAll listed)).any (·.ended) = true ↔
    ¬ InEmulator env n listed contexts := by
  rw [List.any_eq_true]
  constructor
  · rintro ⟨e, hmem, hended⟩ hall
    obtain ⟨i, hi⟩ := List.mem_iff_getElem?.mp hmem
    obtain ⟨cid, active, hlisted, -, -, ⟨rfl, -⟩ | ⟨-, m, c, hlast, rfl⟩⟩ := entry_cases hi
    · cases hended
    · refine (ended_entry c m _).mp hended (hall cid ?_ m c hlast)
      exact List.mem_map.mpr ⟨(cid, active), List.mem_of_getElem? hlisted, rfl⟩
  · intro hnot
    simp only [InEmulator, not_forall] at hnot
    obtain ⟨cid, hcid, m, c, hlast, hout⟩ := hnot
    obtain ⟨i, active, hi, hfirst⟩ := exists_first_listed hcid
    have hentry : (fill env n contexts (unnamedAll listed))[i]? = _ := getElem_fill_unnamedAll hi
    rw [if_pos hfirst, hlast] at hentry
    exact ⟨_, List.mem_of_getElem? hentry, (ended_entry c m _).mpr hout⟩

theorem wellMatched_fill (h : InEmulator env n listed contexts) :
    WellMatched env n listed contexts ((fill env n contexts (unnamedAll listed)).map (·.call)) where
  inOrder := by
    rw [List.map_map]
    refine List.ext_getElem? fun i => ?_
    rw [List.getElem?_map]
    cases he : (fill env n contexts (unnamedAll listed))[i]? with
    | none =>
      rw [List.getElem?_eq_none_iff, length_fill] at he
      rw [List.getElem?_eq_none he]
      rfl
    | some e =>
      obtain ⟨cid, active, hi, rfl, rfl, -⟩ := entry_cases he
      rw [hi]
      rfl
  unnamed := by
    intro i call hcall hunnamed
    rw [List.getElem?_map] at hcall
    obtain ⟨e, he, rfl⟩ := Option.map_eq_some_iff.mp hcall
    obtain ⟨cid, active, hi, rfl, rfl, ⟨heq, -⟩ | ⟨hfirst, m, c, hlast, -⟩⟩ := entry_cases he
    · exact congrArg DataCallEntry.call heq
    · have hcid : e.call.cid ∈ listed.map Prod.fst :=
        List.mem_map.mpr ⟨_, List.mem_of_getElem? hi, rfl⟩
      rcases hunnamed with hearlier | hnone
      · exact absurd hearlier hfirst
      · rw [(lastVisit_eq_none_iff hcid).mpr hnone] at hlast
        cases hlast
  named := by
    intro i call hcall hfirst m c hlast
    rw [List.getElem?_map] at hcall
    obtain ⟨e, he, rfl⟩ := Option.map_eq_some_iff.mp hcall
    obtain ⟨cid, active, hi, rfl, rfl, ⟨-, hearlier | hnone⟩ | ⟨-, m', c', hlast', heq⟩⟩ := entry_cases he
    · exact absurd hearlier hfirst
    · rw [hnone] at hlast
      cases hlast
    · rw [hlast] at hlast'
      cases hlast'
      have hcid : e.call.cid ∈ listed.map Prod.fst :=
        List.mem_map.mpr ⟨_, List.mem_of_getElem? hi, rfl⟩
      have hin := h _ hcid m c hlast
      rw [heq, Context.entry, addressesAt, if_pos hin]
      exact ⟨rfl, rfl, fun hout => absurd hin hout⟩

end WellMatched

/-- The list of data calls is reported, well matched, and no pointer is used behind the end of what it
    points to. -/
def ReportsMatched (t : Option Token) (env : Env) (w : World Store Event) (listed : List (Int × Int))
    (contexts : List Context) : Prop :=
  ∃ s calls, (requestOrSendDataCallList t).exec env w =
      (.ok (), ⟨s, w.trace ++ queries env w ++ [responded t (.dataCalls calls)]⟩) ∧
    WellMatched env (w.store.tick + 2) listed contexts calls

section ReportsMatched

variable {t : Option Token} {env : Env} {w : World Store Event} {actLines contLines : List CString}
  {listed : List (Int × Int)} {contexts : List Context}

theorem not_reportsMatched (hanswers : Answers env w actLines contLines)
    (hlines : Describes actLines contLines listed contexts)
    (h : ¬ InEmulator env (w.store.tick + 2) listed contexts) :
    ¬ ReportsMatched t env w listed contexts := by
  obtain ⟨s, hexec⟩ := exec_requestOrSendDataCallList hanswers hlines t
  rw [if_pos (any_ended_iff.mpr h)] at hexec
  rintro ⟨s', calls, hexec', -⟩
  have htrace := congrArg (fun r => r.2.trace.length) (hexec.symm.trans hexec')
  simp at htrace

theorem reportsMatched_of_inEmulator (hanswers : Answers env w actLines contLines)
    (hlines : Describes actLines contLines listed contexts)
    (h : InEmulator env (w.store.tick + 2) listed contexts) :
    ReportsMatched t env w listed contexts := by
  obtain ⟨s, hexec⟩ := exec_requestOrSendDataCallList hanswers hlines t
  rw [if_neg fun hany => any_ended_iff.mp hany h, List.append_nil] at hexec
  exact ⟨s, _, hexec, wellMatched_fill h⟩

theorem reportsMatched_iff (hanswers : Answers env w actLines contLines)
    (hlines : Describes actLines contLines listed contexts) :
    ReportsMatched t env w listed contexts ↔ InEmulator env (w.store.tick + 2) listed contexts := by
  constructor
  · intro h
    by_contra hnot
    exact not_reportsMatched hanswers hlines hnot h
  · exact reportsMatched_of_inEmulator hanswers hlines

end ReportsMatched

/-- A modem with two contexts of which the first is defined, and these properties. -/
def Env.twoContexts (properties : List (CString × CString)) : Env :=
  { Env.answering
      [.response ⟨true, some "OK".toList, ["+CGACT: 1,1", "+CGACT: 2,0"]⟩,
        .response ⟨true, some "OK".toList, ["+CGDCONT: 1,\"IP\",\"internet\",\"10.64.0.9\",0,0"]⟩] with
    property := fun _ name => (properties.lookup name).getD [] }

theorem answers_twoContexts (properties : List (CString × CString)) :
    Answers (.twoContexts properties) ⟨.radioOn, []⟩ ["+CGACT: 1,1", "+CGACT: 2,0"]
      ["+CGDCONT: 1,\"IP\",\"internet\",\"10.64.0.9\",0,0"] :=
  ⟨⟨_, rfl⟩, ⟨_, rfl⟩⟩

theorem describes_twoContexts : Describes ["+CGACT: 1,1", "+CGACT: 2,0"]
    ["+CGDCONT: 1,\"IP\",\"internet\",\"10.64.0.9\",0,0"] [(1, 1), (2, 0)]
    [⟨1, "IP", "internet", "10.64.0.9"⟩] :=
  ⟨by decide, by decide, by decide, by decide⟩

theorem emulator_twoContexts_iff (properties : List (CString × CString)) (n : Nat) :
    Emulator (.twoContexts properties) n ↔ (properties.lookup ("ro.kernel.qemu" : CString)).getD [] ≠ [] := Iff.rfl

theorem reportsMatched_emulator : ReportsMatched (some 5) (.twoContexts [("ro.kernel.qemu", "1")])
    ⟨.radioOn, []⟩ [(1, 1), (2, 0)] [⟨1, "IP", "internet", "10.64.0.9"⟩] := by
  refine (reportsMatched_iff (answers_twoContexts _) describes_twoContexts).mpr fun cid _ m c _ => ?_
  rw [emulator_twoContexts_iff]
  decide

/-- Outside of the emulator the addresses of the point-to-point link are lost. -/
theorem not_reportsMatched_ppp : ¬ ReportsMatched (some 5)
    (.twoContexts [("net.ppp0.remote-ip", "10.64.64.64"), ("net.ppp0.local-ip", "10.64.0.9")])
    ⟨.radioOn, []⟩ [(1, 1), (2, 0)] [⟨1, "IP", "internet", "10.64.0.9"⟩] := by
  refine not_reportsMatched (answers_twoContexts _) describes_twoContexts fun h => ?_
  have hin := h 1 (by decide) 2 ⟨1, "IP", "internet", "10.64.0.9"⟩ (by decide)
  rw [emulator_twoContexts_iff] at hin
  exact hin (by decide)

end AndroidPatch.Ril.Reference
