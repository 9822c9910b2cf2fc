import AndroidPatch.Ril.Reference.Calls
import AndroidPatch.Ril.Reference.Proofs.Runs

/-!
# The lines of the call list

`callFromCLCCLine` stores what it reads before it knows whether its line is valid, and the slot of
a line that is rejected is filled in by the next one. Only a number can be left over: the other
fields are stored again for every valid line, and a type is stored last.
-/

namespace AndroidPatch.Ril.Reference

open AtChannel
open Altair (Reply Token RilCall CallParser clccCalls clccStateToRilState callFromClccLine
  callNumber callNumberAndType storeTok erroneousAnswer Sees TokReads decimal boolean readField
  tokReads_nextint tokReads_nextbool atTokHasmore_iff sees_line)

/-! ## What a line says -/

/-- The fields that every call has, and what is ahead behind them. -/
def clccHead (line : CString) : Option (RilCall × Option CString) := do
  let s ← (cutAt ':' line).2
  let (index, ahead) ← readField decimal (some s)
  let (isMT, ahead) ← readField boolean ahead
  let (state, ahead) ← readField decimal ahead
  let state ← clccStateToRilState state
  let (mode, ahead) ← readField decimal ahead
  let (isMpty, ahead) ← readField boolean ahead
  return (⟨state, index, 0, isMpty, isMT, mode == 0, none⟩, ahead)

inductive ClccLine where
  /-- one of the first fields cannot be read -/
  | rejected
  /-- the type behind the number cannot be read -/
  | broken (number : Option CString)
  /-- a call without a number -/
  | plain (call : RilCall)
  | numbered (call : RilCall)
  deriving DecidableEq, Repr

/-- What a line says. -/
def clccLine (line : CString) : ClccLine :=
  match clccHead line with
  | none => .rejected
  | some (call, ahead) =>
      if ahead.getD [] = [] then .plain call
      else
        let number := cutField (ahead.getD [])
        match readField decimal (number.next.map Prod.snd) with
        | none => .broken (callNumber number.token)
        | some (toa, _) => .numbered { call with number := callNumber number.token, toa := toa }

/-- The call of a valid line. -/
def clccCall (line : CString) : Option RilCall :=
  match clccLine line with
  | .rejected => none
  | .broken _ => none
  | .plain call => some call
  | .numbered call => some call

theorem toa_of_clccHead {line : CString} {call : RilCall} {ahead : Option CString}
    (h : clccHead line = some (call, ahead)) : call.toa = 0 ∧ call.number = none := by
  unfold clccHead at h
  simp only [Option.bind_eq_bind, Option.bind_eq_some_iff, Option.pure_def] at h
  obtain ⟨_, -, _, -, _, -, _, -, _, -, _, -, _, -, h⟩ := h
  cases h
  exact ⟨rfl, rfl⟩

/-! ## The parser -/

section Parser

variable {α β : Type}

/-- What a parser returns and what it leaves in the slot. -/
def parsed (p : CallParser α) (slot : RilCall) : Option α × RilCall := p.run.run slot

theorem parsed_bind (p : CallParser α) (q : α → CallParser β) (slot : RilCall) :
    parsed (p >>= q) slot = match parsed p slot with
      | (some a, slot) => parsed (q a) slot
      | (none, slot) => (none, slot) := by
  rw [parsed, OptionT.run_bind, Option.elimM, StateT.run_bind]
  rcases hp : p.run.run slot with ⟨_ | a, slot'⟩
  · simp only [parsed, hp]
    rfl
  · simp only [parsed, hp]
    rfl

theorem parsed_bind_of_some {p : CallParser α} {q : α → CallParser β} {slot slot' : RilCall} {a : α}
    (h : parsed p slot = (some a, slot')) : parsed (p >>= q) slot = parsed (q a) slot' := by
  rw [parsed_bind, h]

theorem parsed_bind_of_none {p : CallParser α} {q : α → CallParser β} {slot slot' : RilCall}
    (h : parsed p slot = (none, slot')) : parsed (p >>= q) slot = (none, slot') := by
  rw [parsed_bind, h]

theorem parsed_modify_bind (f : RilCall → RilCall) (q : Unit → CallParser β) (slot : RilCall) :
    parsed (modify f >>= q) slot = parsed (q ()) (f slot) := parsed_bind_of_some rfl

/-- A call that fails may have stored a value all the same. -/
theorem parsed_storeTok {call : TokLine → TokOut α} {r : CString → Option α} (hcall : TokReads call r)
    {l : TokLine} {ahead : Option CString} (hsees : Sees l ahead) (f : RilCall → α → RilCall)
    (slot : RilCall) :
    (readField r ahead = none ∧ ∃ slot', parsed (storeTok (call l) f) slot = (none, slot') ∧
      (slot' = slot ∨ ∃ v, (call l).out = some v ∧ slot' = f slot v)) ∨
      ∃ v l' ahead', readField r ahead = some (v, ahead') ∧ Sees l' ahead' ∧ call l = ⟨0, some v, l'⟩ ∧
        parsed (storeTok (call l) f) slot = (some l', f slot v) := by
  have hread := hcall l ahead hsees
  cases hfield : readField r ahead with
  | none =>
    rw [hfield] at hread
    have herr : (call l).err < 0 := by
      rw [show (call l).err = -1 from hread]
      decide
    refine .inl ⟨rfl, ((call l).out.map (f slot)).getD slot, ?_, ?_⟩
    · unfold storeTok
      rw [if_pos herr]
      rfl
    · cases hout : (call l).out with
      | none => exact .inl rfl
      | some v => exact .inr ⟨v, rfl, rfl⟩
  | some field =>
    obtain ⟨v, ahead'⟩ := field
    rw [hfield] at hread
    obtain ⟨l', hsees', hcall'⟩ := hread
    refine .inr ⟨v, l', ahead', rfl, hsees', hcall', ?_⟩
    rw [hcall']
    rfl

end Parser

/-- The number and its type are as in another slot. -/
def SameNumber (slot slot' : RilCall) : Prop := slot'.number = slot.number ∧ slot'.toa = slot.toa

/-- A call for one of the first fields. -/
theorem parsed_headTok {α : Type} {call : TokLine → TokOut α} {r : CString → Option α}
    (hcall : TokReads call r) {l : TokLine} {ahead : Option CString} (hsees : Sees l ahead)
    (f : RilCall → α → RilCall) (hf : ∀ c v, SameNumber c (f c v)) (slot : RilCall) :
    (readField r ahead = none ∧ ∃ slot', parsed (storeTok (call l) f) slot = (none, slot') ∧
      SameNumber slot slot') ∨
      ∃ v l' ahead', readField r ahead = some (v, ahead') ∧ Sees l' ahead' ∧ call l = ⟨0, some v, l'⟩ ∧
        parsed (storeTok (call l) f) slot = (some l', f slot v) := by
  rcases parsed_storeTok hcall hsees f slot with ⟨hfield, slot', hparsed, hslot⟩ | h
  · refine .inl ⟨hfield, slot', hparsed, ?_⟩
    rcases hslot with rfl | ⟨v, -, rfl⟩
    · exact ⟨rfl, rfl⟩
    · exact hf slot v
  · exact .inr h

/-- A line that is rejected leaves the number of its slot alone, and what a line has read behind its
    first fields goes into a call with the number of the slot. -/
theorem parsed_callFromClccLine {line : CString} (hline : nul ∉ line) (slot : RilCall) :
    match clccHead line with
    | none => ∃ slot', parsed (callFromClccLine line) slot = (none, slot') ∧ SameNumber slot slot'
    | some (call, ahead) => ∃ l, Sees l ahead ∧ parsed (callFromClccLine line) slot =
        parsed (if atTokHasmore l then callNumberAndType l else return ())
          { call with number := slot.number, toa := slot.toa } := by
  have hstart := atTokStart_ofString hline
  unfold callFromClccLine clccHead
  rcases cutAt_cases ':' line with ⟨-, hcut⟩ | ⟨a, b, rfl, -, hcut⟩
  · rw [hcut] at hstart ⊢
    rw [hstart]
    exact ⟨slot, rfl, rfl, rfl⟩
  · rw [hcut] at hstart ⊢
    rw [hstart]
    have hb : nul ∉ b := fun hmem => hline (List.mem_append_right a (List.mem_cons_of_mem ':' hmem))
    have hsees : Sees (.behind (a ++ [':']) b) (some b) := ⟨hb, _, rfl⟩
    dsimp only
    rw [if_neg (by decide)]
    simp only [Option.bind_eq_bind, Option.bind_some]
    rcases parsed_headTok tokReads_nextint hsees (fun c v => { c with index := v })
      (fun _ _ => ⟨rfl, rfl⟩) slot with
      ⟨hfield, _, hparsed, hsame⟩ | ⟨index, l, ahead, hfield, hsees, -, hparsed⟩
    · rw [hfield, parsed_bind_of_none hparsed]
      exact ⟨_, rfl, hsame⟩
    rw [hfield, parsed_bind_of_some hparsed, Option.bind_some]
    rcases parsed_headTok tokReads_nextbool hsees (fun c v => { c with isMT := v })
      (fun _ _ => ⟨rfl, rfl⟩) _ with
      ⟨hfield, _, hparsed, hsame⟩ | ⟨isMT, l, ahead, hfield, hsees, -, hparsed⟩
    · rw [hfield, parsed_bind_of_none hparsed]
      exact ⟨_, rfl, hsame⟩
    rw [hfield, parsed_bind_of_some hparsed, Option.bind_some]
    rcases parsed_headTok tokReads_nextint hsees (fun c _ => c) (fun _ _ => ⟨rfl, rfl⟩) _ with
      ⟨hfield, _, hparsed, hsame⟩ | ⟨state, l, ahead, hfield, hsees, hcall, hparsed⟩
    · rw [hfield, parsed_bind_of_none hparsed]
      exact ⟨_, rfl, hsame⟩
    rw [hfield, parsed_bind_of_some hparsed, hcall]
    simp only [Option.bind_some]
    cases hstate : clccStateToRilState state with
    | none => exact ⟨_, rfl, rfl, rfl⟩
    | some state =>
      rw [Option.bind_some]
      dsimp only
      rw [parsed_modify_bind]
      rcases parsed_headTok tokReads_nextint hsees (fun c _ => c) (fun _ _ => ⟨rfl, rfl⟩) _ with
        ⟨hfield, _, hparsed, hsame⟩ | ⟨mode, l, ahead, hfield, hsees, hcall, hparsed⟩
      · rw [hfield, parsed_bind_of_none hparsed]
        exact ⟨_, rfl, hsame⟩
      rw [hfield, parsed_bind_of_some hparsed, hcall, parsed_modify_bind, Option.bind_some]
      rcases parsed_headTok tokReads_nextbool hsees (fun c v => { c with isMpty := v })
        (fun _ _ => ⟨rfl, rfl⟩) _ with
        ⟨hfield, _, hparsed, hsame⟩ | ⟨isMpty, l, ahead, hfield, hsees, -, hparsed⟩
      · rw [hfield, parsed_bind_of_none hparsed]
        exact ⟨_, rfl, hsame⟩
      rw [hfield, parsed_bind_of_some hparsed, Option.bind_some]
      exact ⟨l, hsees, rfl⟩

/-- A token without a number is stored as 0. -/
theorem out_of_no_decimal {l : TokLine} {ahead : Option CString} (hsees : Sees l ahead)
    (hfield : readField decimal ahead = none) {v : Int} (hout : (atTokNextint l).out = some v) :
    v = 0 := by
  cases ahead with
  | none =>
    rw [atTokNextint, atTokNextintBase, show l.cur = none from hsees] at hout
    cases hout
  | some s =>
    obtain ⟨hs, done, rfl⟩ := hsees
    rw [atTokNextint, atTokNextintBase_behind hs] at hout
    have hfound : (strtol 10 (cutField s).token).2 = false := by
      simpa [readField, decimal] using hfield
    cases hout
    exact strtol_of_not_found hfound

/-- The end of a line: without a number nothing is stored. -/
theorem parsed_clccEnd {l : TokLine} {ahead : Option CString} (hsees : Sees l ahead) (slot : RilCall)
    (htoa : slot.toa = 0) :
    if ahead.getD [] = [] then
      parsed (if atTokHasmore l then callNumberAndType l else return ()) slot = (some (), slot)
    else
      match readField decimal ((cutField (ahead.getD [])).next.map Prod.snd) with
      | none => ∃ slot',
          parsed (if atTokHasmore l then callNumberAndType l else return ()) slot = (none, slot') ∧
            slot'.number = callNumber (cutField (ahead.getD [])).token ∧ slot'.toa = 0
      | some (toa, _) =>
          parsed (if atTokHasmore l then callNumberAndType l else return ()) slot =
            (some (), { slot with number := callNumber (cutField (ahead.getD [])).token, toa := toa }) := by
  have hmore := atTokHasmore_iff hsees
  by_cases hend : ahead.getD [] = []
  · rw [if_pos hend, if_neg (by simpa [hend] using hmore)]
    rfl
  · rw [if_neg hend, if_pos (by simpa [hend] using hmore)]
    cases ahead with
    | none => exact absurd rfl hend
    | some s =>
      obtain ⟨hs, done, rfl⟩ := hsees
      have hstored : parsed (storeTok (atTokNextstr (.behind done s)) fun c p =>
          { c with number := callNumber ((atTokNextstr (.behind done s)).line.text p) }) slot =
          (some ((cutField s).line done), { slot with number := callNumber (cutField s).token }) := by
        rw [atTokNextstr_behind done hs]
        exact congrArg (fun token => (some ((cutField s).line done),
          { slot with number := callNumber token })) (text_index done hs)
      unfold callNumberAndType
      rw [parsed_bind_of_some hstored]
      rcases parsed_storeTok tokReads_nextint (sees_line hs) (fun c v => { c with toa := v }) _ with
        ⟨hfield, slot', hparsed, hslot⟩ | ⟨toa, l, ahead, hfield, -, -, hparsed⟩
      · rw [Option.getD_some, hfield, parsed_bind_of_none hparsed]
        refine ⟨slot', rfl, ?_⟩
        rcases hslot with rfl | ⟨v, hout, rfl⟩
        · exact ⟨rfl, htoa⟩
        · exact ⟨rfl, out_of_no_decimal (sees_line hs) hfield hout⟩
      · rw [Option.getD_some, hfield, parsed_bind_of_some hparsed]
        rfl

/-- A line and the slot it is parsed into. -/
theorem parsed_clccLine {line : CString} (hline : nul ∉ line) {slot : RilCall} (htoa : slot.toa = 0) :
    match clccLine line with
    | .rejected => ∃ slot', parsed (callFromClccLine line) slot = (none, slot') ∧
        slot'.number = slot.number ∧ slot'.toa = 0
    | .broken number => ∃ slot', parsed (callFromClccLine line) slot = (none, slot') ∧
        slot'.number = number ∧ slot'.toa = 0
    | .plain call =>
        parsed (callFromClccLine line) slot = (some (), { call with number := slot.number })
    | .numbered call => parsed (callFromClccLine line) slot = (some (), call) := by
  have hparsed := parsed_callFromClccLine hline slot
  unfold clccLine
  cases hhead : clccHead line with
  | none =>
    rw [hhead] at hparsed
    obtain ⟨slot', hparsed, hnumber, htoa'⟩ := hparsed
    exact ⟨slot', hparsed, hnumber, htoa'.trans htoa⟩
  | some head =>
    obtain ⟨call, ahead⟩ := head
    rw [hhead] at hparsed
    obtain ⟨l, hsees, hparsed⟩ := hparsed
    have hend := parsed_clccEnd hsees { call with number := slot.number, toa := slot.toa } htoa
    have hcall := toa_of_clccHead hhead
    rw [hparsed]
    dsimp only
    by_cases hmore : ahead.getD [] = []
    · rw [if_pos hmore] at hend ⊢
      rw [hend, htoa, ← hcall.1]
    · rw [if_neg hmore] at hend ⊢
      cases hfield : readField decimal ((cutField (ahead.getD [])).next.map Prod.snd) with
      | none =>
        rw [hfield] at hend
        exact hend
      | some field =>
        rw [hfield] at hend
        exact hend

/-! ## The slots -/

/-- The calls, with a slot that holds a number. -/
def slotCalls : List CString → Option CString → List RilCall
  | [], _ => []
  | line :: lines, number =>
      match clccLine line with
      | .rejected => slotCalls lines number
      | .broken number => slotCalls lines number
      | .plain call => { call with number := number } :: slotCalls lines none
      | .numbered call => call :: slotCalls lines none

theorem clccCalls_eq {lines : List CString} (hlines : ∀ line ∈ lines, nul ∉ line) {slot : RilCall}
    (htoa : slot.toa = 0) : clccCalls lines slot = slotCalls lines slot.number := by
  induction lines generalizing slot with
  | nil => rfl
  | cons line lines ih =>
    have hrest := fun l hl => hlines l (List.mem_cons_of_mem line hl)
    have hparsed := parsed_clccLine (hlines line List.mem_cons_self) htoa
    unfold clccCalls slotCalls
    cases hline : clccLine line with
    | rejected =>
      rw [hline] at hparsed
      obtain ⟨slot', hparsed, hnumber, htoa'⟩ := hparsed
      rw [show (callFromClccLine line).run.run slot = _ from hparsed]
      dsimp only
      rw [ih hrest htoa', hnumber]
    | broken number =>
      rw [hline] at hparsed
      obtain ⟨slot', hparsed, rfl, htoa'⟩ := hparsed
      rw [show (callFromClccLine line).run.run slot = _ from hparsed]
      exact ih hrest htoa'
    | plain call =>
      rw [hline] at hparsed
      rw [show (callFromClccLine line).run.run slot = _ from hparsed]
      exact congrArg _ (ih hrest rfl)
    | numbered call =>
      rw [hline] at hparsed
      rw [show (callFromClccLine line).run.run slot = _ from hparsed]
      exact congrArg _ (ih hrest rfl)

/-! ## Stale numbers -/

/-- The first of the lines that reads a number or is valid is a call without one. -/
def PlainNext (lines : List CString) : Prop :=
  ∃ mid good post call, lines = mid ++ good :: post ∧ (∀ line ∈ mid, clccLine line = .rejected) ∧
    clccLine good = .plain call

/-- A number is read, its type is not, and the next call is one without a number. -/
def StaleNumber (lines : List CString) : Prop :=
  ∃ pre bad rest number, lines = pre ++ bad :: rest ∧ clccLine bad = .broken (some number) ∧
    PlainNext rest

theorem plainNext_cons {line : CString} {lines : List CString} :
    PlainNext (line :: lines) ↔
      (∃ call, clccLine line = .plain call) ∨ (clccLine line = .rejected ∧ PlainNext lines) := by
  constructor
  · rintro ⟨mid, good, post, call, hlines, hmid, hgood⟩
    cases mid with
    | nil =>
      cases hlines
      exact .inl ⟨call, hgood⟩
    | cons first mid =>
      cases hlines
      exact .inr ⟨hmid line List.mem_cons_self, mid, good, post, call, rfl,
        fun l hl => hmid l (List.mem_cons_of_mem line hl), hgood⟩
  · rintro (⟨call, hline⟩ | ⟨hline, mid, good, post, call, rfl, hmid, hgood⟩)
    · exact ⟨[], line, lines, call, rfl, List.forall_mem_nil _, hline⟩
    · exact ⟨line :: mid, good, post, call, rfl, List.forall_mem_cons.mpr ⟨hline, hmid⟩, hgood⟩

theorem staleNumber_cons {line : CString} {lines : List CString} :
    StaleNumber (line :: lines) ↔
      ((∃ number, clccLine line = .broken (some number)) ∧ PlainNext lines) ∨ StaleNumber lines := by
  constructor
  · rintro ⟨pre, bad, rest, number, hlines, hbad, hnext⟩
    cases pre with
    | nil =>
      cases hlines
      exact .inl ⟨⟨number, hbad⟩, hnext⟩
    | cons first pre =>
      cases hlines
      exact .inr ⟨pre, bad, rest, number, rfl, hbad, hnext⟩
  · rintro (⟨⟨number, hline⟩, hnext⟩ | ⟨pre, bad, rest, number, rfl, hbad, hnext⟩)
    · exact ⟨[], line, lines, number, rfl, hline, hnext⟩
    · exact ⟨line :: pre, bad, rest, number, rfl, hbad, hnext⟩

theorem number_of_plain {line : CString} {call : RilCall} (h : clccLine line = .plain call) :
    call.number = none := by
  unfold clccLine at h
  split at h
  · cases h
  · rename_i hhead
    split at h
    · cases h
      exact (toa_of_clccHead hhead).2
    · dsimp only at h
      split at h <;> cases h

/-- The calls are those of their lines as long as no number is left over. -/
theorem slotCalls_eq_iff (lines : List CString) (number : Option CString) :
    slotCalls lines number = lines.filterMap clccCall ↔
      ¬ StaleNumber lines ∧ (number ≠ none → ¬ PlainNext lines) := by
  induction lines generalizing number with
  | nil => simp [slotCalls, StaleNumber, PlainNext]
  | cons line lines ih =>
    rw [slotCalls, staleNumber_cons, plainNext_cons]
    cases hline : clccLine line with
    | rejected => simp [clccCall, hline, ih]
    | broken number' => cases number' <;> simp [clccCall, hline, ih, and_comm]
    | plain call =>
      have hsame : { call with number := number } = call ↔ number = none := by
        rw [← number_of_plain hline]
        exact ⟨congrArg RilCall.number, fun h => h ▸ rfl⟩
      simp [clccCall, hline, ih, hsame, and_comm]
    | numbered call => simp [clccCall, hline, ih]

/-! ## The request -/

/-- The completion with some calls: the workaround may fail the request. -/
def callsCompletion (t : Token) (env : Env) (s : Store) (calls : List RilCall) : Event :=
  if env.build.useTi && erroneousAnswer
      { s with incomingOrWaitingLine := Altair.incomingOrWaiting calls } s.incomingOrWaitingLine calls
  then .complete t .genericFailure .null
  else .complete t .success (.calls calls)

/-- However the lines come in, the request reports the calls of the valid ones. -/
def ReportsOwn (lines : List CString) : Prop :=
  ∀ t env w final, nextReply (.multiline "+CLCC:") env w = .response ⟨true, final, lines⟩ →
    ∃ s more, (requestGetCurrentCalls t).exec env w = (.ok (), ⟨s, w.trace ++
      .at "AT+CLCC" (.response ⟨true, final, lines⟩) ::
        callsCompletion t env w.store (lines.filterMap clccCall) :: more⟩) ∧
      ∀ e ∈ more, e = .timedCallback .sendCallStateChanged

theorem exec_workaround {prev : Int} {calls : List RilCall} {env : Env} {w : World Store Event}
    {erroneous : Bool} (h : erroneousAnswer
      { w.store with incomingOrWaitingLine := Altair.incomingOrWaiting calls } prev calls = erroneous) :
    ∃ s, (workaroundErroneousAnswer prev calls).exec env w =
      (.ok (if erroneous then none else some ()), ⟨s, w.trace⟩) := by
  unfold workaroundErroneousAnswer
  rw [Block.exec_lift_bind_of_ok (Traced.exec_modifyStore _ _ _),
    Block.exec_lift_bind_of_ok (Traced.exec_getStore _ _)]
  dsimp only at h ⊢
  rw [h]
  cases erroneous with
  | true => exact ⟨_, rfl⟩
  | false => exact ⟨_, rfl⟩

/-- The end of the request. -/
theorem exec_callsReported (t : Token) (calls : List RilCall) (env : Env) (w : World Store Event) :
    ∃ more, (do
        onRequestComplete t .success (.calls calls)
        onlyIf (if env.build.pollCallState then calls ≠ [] else Altair.needRepoll calls)
          (emit (.timedCallback .sendCallStateChanged)) : Body Unit).exec env w =
        (.ok (some ()), ⟨w.store, w.trace ++ .complete t .success (.calls calls) :: more⟩) ∧
      ∀ e ∈ more, e = .timedCallback .sendCallStateChanged := by
  rw [Block.exec_lift_bind_of_ok (exec_onRequestComplete _ _ _ _ _), Block.exec_onlyIf]
  by_cases hpoll : if env.build.pollCallState then calls ≠ [] else Altair.needRepoll calls
  · rw [if_pos hpoll]
    exact ⟨[.timedCallback .sendCallStateChanged], congrArg (fun l => (_, World.mk _ l))
      (List.append_assoc _ _ _), by simp⟩
  · rw [if_neg hpoll]
    exact ⟨[], rfl, List.forall_mem_nil _⟩

theorem exec_requestGetCurrentCalls (t : Token) {env : Env} {w : World Store Event}
    {final : Option CString} {lines : List CString}
    (hreply : nextReply (.multiline "+CLCC:") env w = .response ⟨true, final, lines⟩) :
    ∃ s more, (requestGetCurrentCalls t).exec env w = (.ok (), ⟨s, w.trace ++
      .at "AT+CLCC" (.response ⟨true, final, lines⟩) ::
        callsCompletion t env w.store (clccCalls lines .zero) :: more⟩) ∧
      ∀ e ∈ more, e = .timedCallback .sendCallStateChanged := by
  unfold requestGetCurrentCalls atSendCommandMultiline
  rw [Traced.exec_labelled, Block.exec_bind_of_some (Block.exec_read env w),
    Block.exec_lift_bind_of_ok (Traced.exec_getStore env w), Block.exec_bind, Block.exec_onlyIf]
  unfold callsCompletion
  cases hbuild : env.build.useTi with
  | false =>
    have hask := exec_asked (.multiline "+CLCC:") "AT+CLCC" env w
    rw [hreply] at hask
    rw [if_neg (by decide)]
    dsimp only
    rw [Block.exec_lift_bind_of_ok hask, Block.exec_bind_of_some (exec_succeeded _ _ _ _)]
    dsimp only
    rw [Block.exec_bind_of_some (Block.exec_onlyIf _ _ _ _)]
    obtain ⟨more, hexec, hmore⟩ := exec_callsReported t (clccCalls lines .zero) env
      (asked w [.at "AT+CLCC" (.response ⟨true, final, lines⟩)])
    rw [hexec]
    exact ⟨_, more, congrArg (fun l => (_, World.mk _ l)) (List.append_assoc _ _ _), hmore⟩
  | true =>
    let s : Store := { w.store with incomingOrWaitingLine := -1 }
    have hask := exec_asked (.multiline "+CLCC:") "AT+CLCC" env ⟨s, w.trace⟩
    rw [show nextReply (.multiline "+CLCC:") env ⟨s, w.trace⟩ = _ from hreply] at hask
    rw [if_pos rfl, show Block.exec _ env w = (.ok (some ()), ⟨s, w.trace⟩) from rfl]
    dsimp only
    rw [Block.exec_lift_bind_of_ok hask, Block.exec_bind_of_some (exec_succeeded _ _ _ _)]
    dsimp only
    generalize herroneous : erroneousAnswer
      { w.store with incomingOrWaitingLine := Altair.incomingOrWaiting (clccCalls lines .zero) }
      w.store.incomingOrWaitingLine (clccCalls lines .zero) = erroneous
    obtain ⟨s', hworkaround⟩ := @exec_workaround w.store.incomingOrWaitingLine (clccCalls lines .zero)
      env (asked ⟨s, w.trace⟩ [.at "AT+CLCC" (.response ⟨true, final, lines⟩)]) erroneous herroneous
    rw [Block.exec_bind, Block.exec_onlyIf, if_pos rfl, hworkaround]
    cases erroneous with
    | true =>
      exact ⟨s', [], congrArg (fun l => (_, World.mk _ l)) (List.append_assoc _ _ _),
        List.forall_mem_nil _⟩
    | false =>
      obtain ⟨more, hexec, hmore⟩ := exec_callsReported t (clccCalls lines .zero) env
        ⟨s', w.trace ++ [.at "AT+CLCC" (.response ⟨true, final, lines⟩)]⟩
      dsimp only [asked_trace, Bool.false_eq_true, if_false]
      rw [if_neg (by decide)]
      dsimp only
      rw [hexec]
      exact ⟨_, more, congrArg (fun l => (_, World.mk _ l)) (List.append_assoc _ _ _), hmore⟩

/-- A modem that answers the first question with these lines. -/
def Env.calling (lines : List CString) : Env :=
  .answering [.response ⟨true, some "OK".toList, lines⟩]

theorem clccCalls_of_reportsOwn {lines : List CString} (h : ReportsOwn lines) :
    clccCalls lines .zero = lines.filterMap clccCall := by
  obtain ⟨s, more, hexec, -⟩ := h 0 (.calling lines) ⟨.radioOn, []⟩ _ rfl
  obtain ⟨s', more', hexec', -⟩ :=
    @exec_requestGetCurrentCalls 0 (.calling lines) ⟨.radioOn, []⟩ _ lines rfl
  have htrace := List.append_cancel_left (congrArg (fun r => r.2.trace) (hexec'.symm.trans hexec))
  have hcompletion : Event.complete 0 .success (.calls (clccCalls lines .zero)) =
      .complete 0 .success (.calls (lines.filterMap clccCall)) :=
    (List.cons.inj (List.cons.inj htrace).2).1
  injection hcompletion with _ _ hcalls
  injection hcalls

/-- Every call is reported as its line says it as long as no number is left over for one. -/
theorem reportsOwn_iff {lines : List CString} (hlines : ∀ line ∈ lines, nul ∉ line) :
    ReportsOwn lines ↔ ¬ StaleNumber lines := by
  have hcalls : clccCalls lines .zero = lines.filterMap clccCall ↔ ¬ StaleNumber lines := by
    rw [clccCalls_eq hlines rfl, slotCalls_eq_iff]
    simp [RilCall.zero]
  rw [← hcalls]
  constructor
  · exact clccCalls_of_reportsOwn
  · intro hown t env w final hreply
    rw [← hown]
    exact exec_requestGetCurrentCalls t hreply

/-- A number that is left over is overwritten by the next one. -/
theorem reportsOwn_overwritten : ReportsOwn ["+CLCC: 1,0,0,0,0,\"18005551212\"", "+CLCC: 1,0",
    "+CLCC: 2,0,0,0,0,\"18005551213\",129", "+CLCC: 3,1,4,0,0"] := by
  apply (reportsOwn_iff (by decide)).mpr
  have hcut : clccLine "+CLCC: 1,0" = .rejected := by decide
  have hnumbered : clccLine "+CLCC: 2,0,0,0,0,\"18005551213\",129" =
      .numbered ⟨.active, 2, 129, 0, 0, true, some "18005551213".toList⟩ := by decide
  have hplain : clccLine "+CLCC: 3,1,4,0,0" = .plain ⟨.incoming, 3, 0, 0, 1, true, none⟩ := by decide
  rw [staleNumber_cons, staleNumber_cons, staleNumber_cons, staleNumber_cons, plainNext_cons,
    plainNext_cons, hcut, hnumbered, hplain]
  rintro (⟨-, ⟨_, h⟩ | ⟨-, ⟨_, h⟩ | ⟨h, -⟩⟩⟩ | ⟨⟨_, h⟩, -⟩ | ⟨⟨_, h⟩, -⟩ | ⟨⟨_, h⟩, -⟩ |
    ⟨pre, bad, rest, number, h, -⟩)
  · cases h
  · cases h
  · cases h
  · cases h
  · cases h
  · cases h
  · cases pre <;> cases h

/-- The type is missing behind a number, which then shows up in the call behind it. -/
theorem not_reportsOwn_stale :
    ¬ ReportsOwn ["+CLCC: 1,0,0,0,0,\"18005551212\"", "+CLCC: 2,1,4,0,0"] := by
  intro h
  have hcalls := clccCalls_of_reportsOwn h
  revert hcalls
  decide

end AndroidPatch.Ril.Reference
