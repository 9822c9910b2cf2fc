import AndroidPatch.Ril.Reference.Network
import AndroidPatch.Ril.Reference.Proofs.Runs

/-!
# The slots of the operator query

`requestOperator` stores a name for every line that it can read, and counts the lines only behind
the loop. Its array has three slots.
-/

namespace AndroidPatch.Ril.Reference

open Altair (Reply Token Undefined Sees decimal readField reads_nextintBase atTokHasmore_iff)

/-! ## What a line says -/

/-- The name in a line, which may be `NULL`; absent when the line cannot be read. -/
def operatorName (line : CString) : Option (Option CString) := do
  let s ← (cutAt ':' line).2
  let (_, ahead) ← readField decimal (some s)
  if ahead.getD [] = [] then return none
  else do
    let (_, ahead) ← readField decimal ahead
    if ahead.getD [] = [] then return none
    else return some (cutField (ahead.getD [])).token

/-- The lines that the loop reads, up to the first that it cannot. -/
def readLines (lines : List CString) : List CString :=
  lines.takeWhile fun line => (operatorName line).isSome

/-- `s_mcc` and `s_mnc`. -/
def Store.mccMnc (s : Store) : Int × Int := (s.mcc, s.mnc)

/-- A name of six characters has been stored, or the numbers are the same. -/
def MccMncFrom (names : List (Option CString)) (s s' : Store) : Prop :=
  s'.mccMnc ≠ s.mccMnc → ∃ name, some name ∈ names ∧ name.length = 6

/-! ## One line -/

theorem exec_storeOperator (name : CString) (env : Env) (w : World Store Event) :
    ∃ s, (storeOperator name).exec env w = (.ok (), ⟨s, w.trace⟩) ∧
      (name.length ≠ 6 → s = w.store) := by
  unfold storeOperator
  rw [Traced.exec_onlyIf]
  by_cases hlen : name.length = 6
  · rw [if_pos hlen]
    cases scanThree name with
    | none => exact ⟨_, rfl, fun h => absurd hlen h⟩
    | some mcc =>
      obtain ⟨mcc, rest⟩ := mcc
      dsimp only
      cases scanThree rest with
      | none => exact ⟨_, rfl, fun h => absurd hlen h⟩
      | some mnc => exact ⟨_, rfl, fun h => absurd hlen h⟩
  · rw [if_neg hlen]
    exact ⟨_, rfl, fun _ => rfl⟩

/-- The name at the end of a line. -/
theorem exec_operatorToken {l : TokLine} {ahead : Option CString} (hsees : Sees l ahead)
    (hmore : ahead.getD [] ≠ []) (env : Env) (w : World Store Event) :
    ∃ s, (do
        let (name, l) ← tokNextstr l
        storeOperator (l.text name)
        return some (l.text name) : Body (Option CString)).exec env w =
        (.ok (some (some (cutField (ahead.getD [])).token)), ⟨s, w.trace⟩) ∧
      MccMncFrom [some (cutField (ahead.getD [])).token] w.store s := by
  cases ahead with
  | none => exact absurd rfl hmore
  | some r =>
    obtain ⟨hr, done, rfl⟩ := hsees
    obtain ⟨s, hstore, hsame⟩ := exec_storeOperator (cutField r).token env w
    refine ⟨s, ?_, fun hchanged => ⟨_, List.mem_singleton_self _, ?_⟩⟩
    · rw [tokNextstr_behind hr, Block.exec_pure_bind]
      dsimp only
      rw [text_index done hr, Block.exec_lift_bind_of_ok hstore]
      rfl
    · by_contra hlen
      exact hchanged (congrArg Store.mccMnc (hsame hlen))

theorem exec_operatorLine {line : CString} (hline : nul ∉ line) (env : Env) (w : World Store Event) :
    match operatorName line with
    | none => (operatorLine line).exec env w = (.ok none, w)
    | some name => ∃ s, (operatorLine line).exec env w = (.ok (some name), ⟨s, w.trace⟩) ∧
        MccMncFrom [name] w.store s := by
  have hnull : MccMncFrom [none] w.store w.store := fun hchanged => absurd rfl hchanged
  have hstart := tokStart_ofString hline
  unfold operatorLine operatorName
  cases hcut : (cutAt ':' line).2 with
  | none =>
    rw [hcut] at hstart
    rw [show tokStart (.ofString line) = gotoError from hstart]
    rfl
  | some s =>
    rw [hcut] at hstart
    obtain ⟨l, hsees, hstart⟩ := hstart
    rw [hstart]
    simp only [Option.bind_eq_bind, Option.bind_some, pure_bind]
    rcases reads_nextint.cases hsees with ⟨hfield, hread⟩ | ⟨_, l, ahead, hfield, hsees, hread⟩
    · rw [hfield, hread]
      rfl
    · rw [hfield, hread]
      simp only [Option.bind_some, pure_bind]
      have hmore := atTokHasmore_iff hsees
      by_cases hend : ahead.getD [] = []
      · rw [if_pos hend, if_pos (by simpa [hend] using hmore)]
        exact ⟨w.store, rfl, hnull⟩
      · rw [if_neg hend, if_neg (by simpa [hend] using hmore)]
        rcases reads_nextint.cases hsees with ⟨hfield, hread⟩ | ⟨_, l, ahead, hfield, hsees, hread⟩
        · rw [hfield, hread]
          rfl
        · rw [hfield, hread]
          simp only [Option.bind_some, pure_bind]
          have hmore := atTokHasmore_iff hsees
          by_cases hend : ahead.getD [] = []
          · rw [if_pos hend, if_pos (by simpa [hend] using hmore)]
            exact ⟨w.store, rfl, hnull⟩
          · rw [if_neg hend, if_neg (by simpa [hend] using hmore)]
            exact exec_operatorToken hsees hend env w

/-! ## The loop -/

theorem MccMncFrom.mono {names names' : List (Option CString)} {s s' : Store}
    (h : MccMncFrom names s s') (hsub : names ⊆ names') : MccMncFrom names' s s' := by
  intro hchanged
  obtain ⟨name, hmem, hlen⟩ := h hchanged
  exact ⟨name, hsub hmem, hlen⟩

theorem MccMncFrom.trans {names : List (Option CString)} {s s' s'' : Store}
    (h : MccMncFrom names s s') (h' : MccMncFrom names s' s'') : MccMncFrom names s s'' := by
  intro hchanged
  by_cases hsame : s'.mccMnc = s.mccMnc
  · exact h' (hsame ▸ hchanged)
  · exact h hsame

/-- The stores behind the array, one more for a line from the fourth on. -/
theorem replicate_outOfBounds {ε : Type} (u : ε) (i n : Nat) :
    (if 3 ≤ i then [u] else []) ++ List.replicate (n - (3 - (i + 1))) u =
      List.replicate (n + 1 - (3 - i)) u := by
  by_cases hi : 3 ≤ i
  · have hlen : n + 1 - (3 - i) = n - (3 - (i + 1)) + 1 := by omega
    rw [if_pos hi, hlen, List.replicate_succ, List.singleton_append]
  · have hlen : n + 1 - (3 - i) = n - (3 - (i + 1)) := by omega
    rw [if_neg hi, hlen, List.nil_append]

/-- The loop from index `i` on: a store behind the array for each line that it reads from the fourth
    on, and names only when it has read all lines. -/
theorem exec_operatorLines {lines : List CString} (hlines : ∀ line ∈ lines, nul ∉ line) (i : Nat)
    (env : Env) (w : World Store Event) :
    ∃ s, (operatorLines i lines).exec env w = (.ok (lines.mapM operatorName),
        ⟨s, w.trace ++ List.replicate ((readLines lines).length - (3 - i)) (.undefined .outOfBounds)⟩) ∧
      MccMncFrom (lines.filterMap operatorName) w.store s := by
  induction lines generalizing i w with
  | nil => exact ⟨w.store, by simp [operatorLines, readLines], fun hchanged => absurd rfl hchanged⟩
  | cons line lines ih =>
    have hname := exec_operatorLine (hlines line List.mem_cons_self) env w
    cases hline : operatorName line with
    | none =>
      rw [hline] at hname
      refine ⟨w.store, ?_, fun hchanged => absurd rfl hchanged⟩
      rw [operatorLines, Block.exec_bind_of_none hname]
      simp [hline, readLines]
    | some name =>
      rw [hline] at hname
      obtain ⟨s1, hexec, hfrom⟩ := hname
      obtain ⟨s2, hrest, hfrom'⟩ := ih (fun l hl => hlines l (List.mem_cons_of_mem line hl)) (i + 1)
        ⟨s1, w.trace ++ if 3 ≤ i then [.undefined .outOfBounds] else []⟩
      refine ⟨s2, ?_, ?_⟩
      · rw [operatorLines, Block.exec_bind_of_some hexec,
          Block.exec_lift_bind_of_ok (exec_undefinedIf _ _ env _), Block.exec_bind, hrest]
        rw [List.mapM_cons, hline, List.append_assoc, replicate_outOfBounds]
        have hread : readLines (line :: lines) = line :: readLines lines :=
          List.takeWhile_cons_of_pos (by simp [hline])
        rw [hread, List.length_cons]
        cases lines.mapM operatorName <;> rfl
      · apply (hfrom.mono _).trans (hfrom'.mono _)
        · simp [hline]
        · simp [hline]

/-! ## The request -/

/-- The lines of a reply. -/
def replyLines : Reply → List CString
  | .response r => r.intermediates
  | .failed _ _ => []

/-- The lines that answer the query. -/
def copsLines (env : Env) (w : World Store Event) : List CString :=
  replyLines (nextReply (.multiline "+COPS:") env w)

/-- What is written over a name is no longer. -/
def Overwrites (name name' : Option CString) : Prop :=
  match name, name' with
  | none, none => True
  | some name, some name' => name'.length ≤ name.length
  | _, _ => False

/-- A response that is reported for these names. -/
def ReportsNames (names : Option (List (Option CString))) (response : Payload) : Prop :=
  ∃ long short numeric long' short', names = some [long, short, numeric] ∧
    response = .strs [long', short', numeric] ∧ Overwrites long long' ∧ Overwrites short short'

/-- Every store is into the array, success is reported for three lines, with names that fit over
    those in the lines, and the numbers are from a name of six characters. -/
def InSlots (t : Token) (env : Env) (w : World Store Event) : Prop :=
  ∃ s l, (requestOperator t).exec env w = (.ok (), ⟨s, w.trace ++ l⟩) ∧
    (∀ u, .undefined u ∉ l) ∧
    (∀ response, .complete t .success response ∈ l →
      (copsLines env w).length = 3 ∧ ReportsNames ((copsLines env w).mapM operatorName) response) ∧
    MccMncFrom ((copsLines env w).filterMap operatorName) w.store s

theorem nameByNumeric_length {unicom mobile : CString} (hunicom : unicom.length ≤ 16)
    (hmobile : mobile.length ≤ 16) (numeric name : CString) :
    (nameByNumeric unicom mobile numeric name).length ≤ name.length := by
  unfold nameByNumeric
  dsimp only
  split
  · rename_i hinvalid
    have hlong : 16 ≤ name.length := ((strStartsWith_iff _ _).mp hinvalid).length_le
    split
    · exact Nat.le_trans hunicom hlong
    · split
      · exact Nat.le_trans hmobile hlong
      · exact Nat.le_refl _
  · exact Nat.le_refl _

theorem overwrites_refl (name : Option CString) : Overwrites name name := by
  cases name with
  | none => trivial
  | some name => exact Nat.le_refl name.length

theorem overwrites_nameByNumeric {unicom mobile : CString} (hunicom : unicom.length ≤ 16)
    (hmobile : mobile.length ≤ 16) (numeric : CString) (name : Option CString) :
    Overwrites name (name.map (nameByNumeric unicom mobile numeric)) := by
  cases name with
  | none => trivial
  | some name => exact nameByNumeric_length hunicom hmobile numeric name

theorem length_of_mapM {α β : Type} {f : α → Option β} {l : List α} {r : List β}
    (h : l.mapM f = some r) : r.length = l.length := by
  induction l generalizing r with
  | nil =>
    cases h
    rfl
  | cons a l ih =>
    rw [List.mapM_cons] at h
    obtain ⟨b, -, h⟩ := Option.bind_eq_some_iff.mp h
    obtain ⟨bs, hbs, h⟩ := Option.bind_eq_some_iff.mp h
    cases h
    exact congrArg Nat.succ (ih hbs)

/-- What is made of the names. -/
def operatorResponse : List (Option CString) → Option Payload
  | [long, short, some numeric] =>
      some (.strs [long.map (nameByNumeric "China Unicom" "China Mobile Com" numeric),
        short.map (nameByNumeric "UNICOM" "CMCC" numeric), some numeric])
  | [long, short, none] => some (.strs [long, short, none])
  | _ => none

theorem reportsNames_operatorResponse {names : List (Option CString)} {response : Payload}
    (h : operatorResponse names = some response) : ReportsNames (some names) response := by
  revert h
  fun_cases operatorResponse names with
  | case1 long short numeric =>
    intro h
    cases h
    exact ⟨long, short, some numeric, _, _, rfl, rfl,
      overwrites_nameByNumeric (by decide) (by decide) numeric long,
      overwrites_nameByNumeric (by decide) (by decide) numeric short⟩
  | case2 long short =>
    intro h
    cases h
    exact ⟨long, short, none, long, short, rfl, rfl, overwrites_refl long, overwrites_refl short⟩
  | case3 =>
    intro h
    cases h

def copsQuery : CString := "AT+COPS=3,0;+COPS?;+COPS=3,1;+COPS?;+COPS=3,2;+COPS?"

/-- The query up to its completion. -/
theorem exec_requestOperator (t : Token) (env : Env) (w : World Store Event)
    (hlines : ∀ line ∈ copsLines env w, nul ∉ line) :
    ∃ s, (requestOperator t).exec env w = (.ok (), ⟨s, w.trace ++
        (.at copsQuery (nextReply (.multiline "+COPS:") env w) ::
          (List.replicate ((readLines (copsLines env w)).length - 3) (.undefined .outOfBounds) ++
            [completion t .genericFailure
              (((copsLines env w).mapM operatorName).bind operatorResponse)]))⟩) ∧
      MccMncFrom ((copsLines env w).filterMap operatorName) w.store s := by
  have hask := exec_asked (.multiline "+COPS:") copsQuery env w
  unfold requestOperator atSendCommandMultiline
  unfold copsLines at hlines ⊢
  cases hreply : nextReply (.multiline "+COPS:") env w with
  | failed e r =>
    rw [hreply] at hask
    refine ⟨(asked w []).store, (exec_completing_of ((Block.exec_lift_bind_of_ok hask).trans rfl)).trans
      ?_, fun hchanged => absurd rfl hchanged⟩
    simp only [asked_trace, List.append_assoc]
    rfl
  | response r =>
    rw [hreply] at hask hlines
    rw [replyLines] at hlines ⊢
    obtain ⟨s, hexec, hfrom⟩ := exec_operatorLines hlines 0 env
      (asked w [.at copsQuery (.response r)])
    let w' : World Store Event := ⟨s, w.trace ++ (.at copsQuery (.response r) ::
      List.replicate ((readLines r.intermediates).length - 3) (.undefined .outOfBounds))⟩
    let o := (r.intermediates.mapM operatorName).bind operatorResponse
    refine ⟨s, (@exec_completing_of _ _ _ _ _ w' o ((Block.exec_lift_bind_of_ok hask).trans ?_)).trans
      ?_, hfrom⟩
    · rw [answered, Block.exec_pure_bind, Block.exec_bind, hexec]
      simp only [asked_trace, List.append_assoc]
      unfold o
      cases r.intermediates.mapM operatorName with
      | none => rfl
      | some names =>
        simp only [Option.bind_some]
        rcases names with _ | ⟨long, _ | ⟨short, _ | ⟨_ | numeric, _ | ⟨more, names⟩⟩⟩⟩ <;> rfl
    · simp only [w', o, List.append_assoc, List.cons_append]

/-! ## The slots -/

section Slots

variable {t : Token} {env : Env} {w : World Store Event}

/-- A fourth line that is read is stored behind the array. -/
theorem not_inSlots_of_lt (hlines : ∀ line ∈ copsLines env w, nul ∉ line)
    (hlong : 3 < (readLines (copsLines env w)).length) : ¬ InSlots t env w := by
  obtain ⟨s, hexec, -⟩ := exec_requestOperator t env w hlines
  rintro ⟨s', l, hexec', hdefined, -⟩
  have htrace := congrArg (fun r => r.2.trace) (hexec.symm.trans hexec')
  have hl := List.append_cancel_left htrace
  apply hdefined .outOfBounds
  rw [← hl]
  apply List.mem_cons_of_mem
  exact List.mem_append_left _ (List.mem_replicate.mpr ⟨by omega, rfl⟩)

theorem inSlots_of_le (hlines : ∀ line ∈ copsLines env w, nul ∉ line)
    (hle : (readLines (copsLines env w)).length ≤ 3) : InSlots t env w := by
  obtain ⟨s, hexec, hfrom⟩ := exec_requestOperator t env w hlines
  rw [Nat.sub_eq_zero_of_le hle, List.replicate_zero, List.nil_append] at hexec
  refine ⟨s, _, hexec, ?_, ?_, hfrom⟩
  · intro u hu
    rcases List.mem_cons.mp hu with h | h
    · cases h
    · have hcompletion := List.mem_singleton.mp h
      cases hresponse : ((copsLines env w).mapM operatorName).bind operatorResponse <;>
        rw [hresponse] at hcompletion <;> cases hcompletion
  · intro response hresponse
    rcases List.mem_cons.mp hresponse with h | h
    · cases h
    · have hcompletion := completion_eq_success (by decide) (List.mem_singleton.mp h).symm
      obtain ⟨names, hnames, hreported⟩ := Option.bind_eq_some_iff.mp hcompletion
      have hreports := reportsNames_operatorResponse hreported
      rw [hnames]
      refine ⟨?_, hreports⟩
      obtain ⟨long, short, numeric, -, -, hthree, -⟩ := hreports
      cases hthree
      exact (length_of_mapM hnames).symm

end Slots

/-- The loop stays inside the array as long as there is no fourth line that it reads. -/
theorem inSlots_iff (t : Token) (env : Env) (w : World Store Event)
    (hlines : ∀ line ∈ copsLines env w, nul ∉ line) :
    InSlots t env w ↔ (readLines (copsLines env w)).length ≤ 3 :=
  ⟨fun h => Nat.le_of_not_lt fun hlong => not_inSlots_of_lt hlines hlong h, inSlots_of_le hlines⟩

/-- A modem that answers with the lines of the comment in `requestOperator`. -/
def Env.registered (more : List CString) : Env :=
  .answering [.response ⟨true, some "OK".toList, "+COPS: 0,0,\"T - Mobile\"" ::
    "+COPS: 0,1,\"TMO\"" :: "+COPS: 0,2,\"310170\"" :: more⟩]

theorem inSlots_home : InSlots 0 (.registered []) ⟨.radioOn, []⟩ :=
  (inSlots_iff 0 (.registered []) ⟨.radioOn, []⟩ (by decide)).mpr (by decide)

/-- Another line, as a modem that reports its operator on its own sends it. -/
theorem not_inSlots_fourLines : ¬ InSlots 0 (.registered ["+COPS: 0,2,\"310170\""]) ⟨.radioOn, []⟩ :=
  not_inSlots_of_lt (by decide) (by decide)

end AndroidPatch.Ril.Reference
