import AndroidPatch.Ril.Altair.Proofs.Tokens
import AndroidPatch.Ril.Altair.Unsolicited
import AndroidPatch.Ril.AtChannel.Proofs.Transmit
import AndroidPatch.Ril.AtChannel.Proofs.Unsolicited

/-!
# What the unsolicited handler does

Over the lines that a run of the channel hands to `onUnsolicited`: which ones make it read what it must
not (`unsolicited_faults_iff`), which ones the AT socket gets (`atSocket_gets_accepted`) and which messages
are reported (`messages_reported`). What a branch reads of its line is `Branch.fields`.
-/

namespace AndroidPatch.Ril.Altair.Unsolicited

open AndroidPatch.Ril.AtChannel

/-! ## One branch for a line -/

def allBranches : List Branch :=
  [.ctzv, .callState, .network, .ims, .statcm, .cmt, .cds, .cgev, .cmeError150, .ccss, .wsos, .wprl,
    .cfun, .ltime]

theorem mem_allBranches (b : Branch) : b ∈ allBranches := by cases b <;> decide

theorem prefixes_apart : ∀ b ∈ allBranches, ∀ b' ∈ allBranches, b ≠ b' →
    ∀ p ∈ b.prefixes, ∀ p' ∈ b'.prefixes, strStartsWith p' p = false := by
  decide +kernel

theorem matches_iff {b : Branch} {s : CString} : b.matches s = true ↔ ∃ p ∈ b.prefixes, p <+: s := by
  simp only [Branch.matches, List.any_eq_true, strStartsWith_iff]

/-- No line passes the tests of two branches. -/
theorem matches_unique {b b' : Branch} {s : CString} (h : b.matches s = true)
    (h' : b'.matches s = true) : b = b' := by
  obtain ⟨p, hp, hps⟩ := matches_iff.mp h
  obtain ⟨p', hp', hps'⟩ := matches_iff.mp h'
  have hnot : ∀ {b b' : Branch} {p p' : CString}, b ≠ b' → p ∈ b.prefixes → p' ∈ b'.prefixes →
      ¬ p <+: p' := by
    intro b b' p p' hne hp hp' hpre
    have hfalse := prefixes_apart b (mem_allBranches b) b' (mem_allBranches b') hne p hp p' hp'
    rw [(strStartsWith_iff p' p).mpr hpre] at hfalse
    cases hfalse
  by_contra hne
  rcases List.prefix_or_prefix_of_prefix hps hps' with hpre | hpre
  · exact hnot hne hp hp' hpre
  · exact hnot (Ne.symm hne) hp' hp hpre

/-- The order of the branches does not matter. -/
theorem branchOf_eq_some_iff {bs : List Branch} {s : CString} {b : Branch} :
    branchOf bs s = some b ↔ b ∈ bs ∧ b.matches s = true := by
  constructor
  · intro h
    exact ⟨List.mem_of_find?_eq_some h, List.find?_some (p := fun b : Branch => b.matches s) h⟩
  · rintro ⟨hmem, hmatches⟩
    cases hfind : branchOf bs s with
    | none => exact absurd hmatches (List.find?_eq_none.mp hfind b hmem)
    | some b' =>
      rw [matches_unique hmatches (List.find?_some (p := fun b : Branch => b.matches s) hfind)]

/-! ## The fields that a branch reads -/

/-- A field that is skipped. -/
def anyField (_ : CString) : Option Int := some 0

/-- The fields that a branch asks for, and returns without. -/
def Branch.fields : Branch → List (CString → Option Int)
  | statcm | ccss | wprl => [decimal]
  | wsos => [boolean]
  | cmt | cds => [anyField, decimal]
  | _ => []

/-- The fields of a line. -/
def Branch.read (b : Branch) (s : CString) : Option (List Int) := readFields b.fields (cutAt ':' s).2

/-- The length that the line of a message states, in its second field. -/
def lengthField (s : CString) : Option Int := do
  let t ← (cutAt ':' s).2
  let (n, _) ← readField decimal ((cutField t).next.map Prod.snd)
  return n

section Fields

variable {s : CString}

/-- What the tokenizer sees behind the colon. -/
theorem atTokStart_sees (hs : nul ∉ s) :
    match (cutAt ':' s).2 with
    | none => (atTokStart (.ofString s)).1 = -1
    | some t => (atTokStart (.ofString s)).1 = 0 ∧ Sees (atTokStart (.ofString s)).2 (some t) := by
  have hstart := atTokStart_ofString hs
  rcases cutAt_cases ':' s with ⟨-, hcut⟩ | ⟨a, t, rfl, -, hcut⟩
  · rw [hcut] at hstart ⊢
    rw [hstart]
  · rw [hcut] at hstart ⊢
    rw [hstart]
    exact ⟨rfl, fun hmem => hs (List.mem_append_right a (List.mem_cons_of_mem ':' hmem)), _, rfl⟩

theorem withInt_eq {next : TokLine → TokOut Int} {r : CString → Option Int} (hr : TokReads next r)
    (hs : nul ∉ s) (k : Int → List Action) :
    withInt next s k = match readFields [r] (cutAt ':' s).2 with
      | some [v] => (k v, .through)
      | _ => ([], .returned) := by
  have hstart := atTokStart_sees hs
  unfold withInt
  cases hcut : (cutAt ':' s).2 with
  | none =>
    rw [hcut] at hstart
    simp only [hstart, show (-1 : Int) < 0 by decide, if_true, readFields, readField]
    rfl
  | some t =>
    rw [hcut] at hstart
    have hread := hr _ _ hstart.2
    simp only [hstart.1, Int.lt_irrefl, if_false, readFields]
    cases hfield : readField r (some t) with
    | none =>
      rw [hfield] at hread
      rw [show (next (atTokStart (.ofString s)).2).err = -1 from hread]
      rfl
    | some field =>
      obtain ⟨v, ahead⟩ := field
      rw [hfield] at hread
      obtain ⟨l', -, hcall⟩ := hread
      rw [hcall]
      rfl

theorem tokReads_nextstr {l : TokLine} {t : CString} (hsees : Sees l (some t)) :
    (atTokNextstr l).err = 0 ∧ Sees (atTokNextstr l).line ((cutField t).next.map Prod.snd) := by
  obtain ⟨ht, done, rfl⟩ := hsees
  rw [atTokNextstr_behind done ht]
  exact ⟨rfl, sees_line ht⟩

/-- The two fields of a message are there when its length is. -/
theorem read_message (s : CString) :
    readFields [anyField, decimal] (cutAt ':' s).2 = (lengthField s).map fun n => [0, n] := by
  unfold lengthField
  cases (cutAt ':' s).2 with
  | none => rfl
  | some t =>
    simp only [readFields, readField, anyField, Option.map_some, Option.bind_eq_bind, Option.bind_some]
    cases (cutField t).next.map Prod.snd with
    | none => rfl
    | some u =>
      cases hdecimal : decimal (cutField u).token <;> simp [hdecimal]

theorem isGsmSmsUnsolicited_eq (hs : nul ∉ s) (pdu : CString) :
    isGsmSmsUnsolicited s (some pdu) = match lengthField s with
      | none => .invalid
      | some n => .known (toInt32 (n * 2 % 0x100000000).toNat != toInt32 pdu.length)
          (decide (n * 2 < -0x80000000 ∨ 0x7fffffff < n * 2)) := by
  have hstart := atTokStart_sees hs
  unfold isGsmSmsUnsolicited lengthField
  cases hcut : (cutAt ':' s).2 with
  | none =>
    rw [hcut] at hstart
    simp only [hstart, show (-1 : Int) < 0 by decide, if_true]
    rfl
  | some t =>
    rw [hcut] at hstart
    have hskip := tokReads_nextstr hstart.2
    have hread := tokReads_nextint _ _ hskip.2
    simp only [hstart.1, hskip.1, Int.lt_irrefl, if_false, Option.bind_eq_bind, Option.bind_some]
    cases hfield : readField decimal ((cutField t).next.map Prod.snd) with
    | none =>
      rw [hfield] at hread
      rw [show (atTokNextint (atTokNextstr (atTokStart (.ofString s)).2).line).err = -1 from hread]
      rfl
    | some field =>
      obtain ⟨v, ahead⟩ := field
      rw [hfield] at hread
      obtain ⟨l', -, hcall⟩ := hread
      rw [hcall]
      rfl

end Fields

/-! ## What a branch does -/

/-- The text ahead ends with a token that begins like neither a quote nor white space when it has no comma. -/
theorem cutField_next_eq_none_iff {t : CString} (hhead : ∀ c ∈ t.head?, c ≠ '"' ∧ isSpace c = false) :
    (cutField t).next = none ↔ ',' ∉ t := by
  rcases cutAt_cases ',' t with ⟨ht, -⟩ | ⟨a, rest, rfl, ha, -⟩
  · have hcuts := @Cuts.last [] t (List.forall_mem_nil _) hhead ht
    rw [List.nil_append] at hcuts
    simp [hcuts.cutField_eq, ht]
  · have ha' : ∀ c ∈ a.head?, c ≠ '"' ∧ isSpace c = false := by
      cases a with
      | nil => nofun
      | cons c a => exact hhead
    have hcuts := @Cuts.unquoted [] a rest (List.forall_mem_nil _) ha' ha
    rw [List.nil_append] at hcuts
    simp [hcuts.cutField_eq]

/-- Reads what it must not, or dies of it. -/
def Faults (r : List Action × End) : Prop := (∃ u, .undefined u ∈ r.1) ∨ r.2 = .nullString

/-- The doubled length does not fit an `int`. -/
def TooLong (s : CString) : Prop := ∃ n, lengthField s = some n ∧ (n < -0x40000000 ∨ 0x40000000 ≤ n)

section Run

variable {ctx : Context} {s : CString} {smsPdu : Option CString}

theorem run_ctzv (hs : nul ∉ s) (hmatches : Branch.ctzv.matches s = true) :
    Branch.ctzv.run ctx s smsPdu =
      ([.undefined .useAfterFree, .notify .nitzTimeReceived (.str ctx.freed)], .through) := by
  obtain ⟨p, hp, t, rfl⟩ := matches_iff.mp hmatches
  obtain rfl := List.mem_singleton.mp hp
  have hcut : cutAt ':' ("%CTZV:".toList ++ t) = ("%CTZV".toList, some t) :=
    @cutAt_append ':' "%CTZV".toList t (by decide)
  have hstart := atTokStart_sees hs
  rw [hcut] at hstart
  rw [Branch.run, (tokReads_nextstr hstart.2).1]
  rfl

theorem run_ltime (hs : nul ∉ s) (hmatches : Branch.ltime.matches s = true) :
    (',' ∉ s ∧ Branch.ltime.run ctx s smsPdu = ([], .nullString)) ∨
      ',' ∈ s ∧ ∃ time, Branch.ltime.run ctx s smsPdu =
        ([.notify .nitzTimeReceived (.str time)], .through) := by
  obtain ⟨p, hp, t, rfl⟩ := matches_iff.mp hmatches
  obtain rfl := List.mem_singleton.mp hp
  have hcut : cutAt ':' ("%NOTIFYEV:LTIME".toList ++ t) =
      ("%NOTIFYEV".toList, some ("LTIME".toList ++ t)) :=
    @cutAt_append ':' "%NOTIFYEV".toList ("LTIME".toList ++ t) (by decide)
  have hcomma : ',' ∈ ("%NOTIFYEV:LTIME".toList ++ t) ↔ ',' ∈ ("LTIME".toList ++ t) := by
    simp
  have hhead : ∀ c ∈ ("LTIME".toList ++ t).head?, c ≠ '"' ∧ isSpace c = false := by
    rintro c ⟨⟩
    decide
  have hstart := atTokStart_sees hs
  rw [hcut] at hstart
  obtain ⟨herr, hsees⟩ := tokReads_nextstr hstart.2
  have hnext := cutField_next_eq_none_iff hhead
  rw [Branch.run]
  simp only [herr, ne_eq, not_true_eq_false, if_false]
  cases hcutnext : (cutField ("LTIME".toList ++ t)).next with
  | none =>
    left
    rw [hcutnext] at hsees
    refine ⟨fun hmem => hnext.mp hcutnext (hcomma.mp hmem), ?_⟩
    rw [show (atTokNextstr _).line.cur = none from hsees]
  | some next =>
    right
    rw [hcutnext] at hsees hnext
    obtain ⟨-, done, hline⟩ := hsees
    refine ⟨hcomma.mpr (not_not.mp fun hmem => ?_), ?_⟩
    · cases hnext.mpr hmem
    · rw [hline]
      exact ⟨_, rfl⟩

theorem newSms_eq (hs : nul ∉ s) (u : Notice) (pdu : CString) :
    newSms u s (some pdu) = match lengthField s with
      | none => ([], .returned)
      | some n =>
          ((if n * 2 < -0x80000000 ∨ 0x7fffffff < n * 2 then [.undefined .overflow] else []) ++
            [if toInt32 (n * 2 % 0x100000000).toNat ≠ toInt32 pdu.length then .notify u (.str pdu)
              else .newCdmaSms pdu], .through) := by
  rw [newSms, isGsmSmsUnsolicited_eq hs]
  cases lengthField s with
  | none => rfl
  | some n => simp

end Run

/-! ## Messages and lines -/

/-- A message that goes to the framework. -/
inductive Report where
  | gsm (u : Notice) (pdu : CString)
  | cdma (pdu : CString)
  deriving DecidableEq, Repr

/-- The messages among the actions. -/
def reports (actions : List Action) : List Report :=
  actions.filterMap fun
    | .notify .responseNewSms (.str pdu) => some (.gsm .responseNewSms pdu)
    | .notify .responseNewSmsStatusReport (.str pdu) => some (.gsm .responseNewSmsStatusReport pdu)
    | .newCdmaSms pdu => some (.cdma pdu)
    | _ => none

/-- The lines that the AT socket gets. -/
def socketLines (actions : List Action) : List CString :=
  actions.filterMap fun
    | .atSocket s => some s
    | _ => none

/-- What the line of a message announces. -/
def announced (s : CString) : Option Notice :=
  if strStartsWith s "+CMT:" then some .responseNewSms
  else if strStartsWith s "+CDS:" then some .responseNewSmsStatusReport
  else none

/-- The message of a call: a CDMA one when the length field counts all its bytes, in `int`. -/
def reportOf (x : CString × Option CString) : Option Report := do
  let pdu ← x.2
  let u ← announced x.1
  let n ← lengthField x.1
  return if n * 2 % 0x100000000 = (pdu.length : Int) % 0x100000000 then .cdma pdu else .gsm u pdu

/-- A time notification without a time. -/
def kills (s : CString) : Bool := strStartsWith s "%NOTIFYEV:LTIME" && !s.contains ','

/-- The line has the fields that its branch asks for. -/
def accepts (build : Build) (s : CString) : Bool :=
  match branchOf (branches build) s with
  | none => true
  | some b => (b.read s).isSome

/-- What makes the handler read what it must not. -/
def Unsound (s : CString) : Prop :=
  strStartsWith s "%CTZV:" = true ∨
    (strStartsWith s "+CMT:" = true ∨ strStartsWith s "+CDS:" = true) ∧ TooLong s

theorem toInt32_eq_iff (m n : Nat) : toInt32 m = toInt32 n ↔ m % 0x100000000 = n % 0x100000000 := by
  simp only [toInt32]
  split <;> split <;> omega

/-- An action that is neither a message nor a line for the AT socket, nor undefined. -/
def Action.other : Action → Bool
  | notify .responseNewSms _ | notify .responseNewSmsStatusReport _ => false
  | newCdmaSms _ | atSocket _ | undefined _ => false
  | _ => true

section Others

variable {actions : List Action} (h : ∀ a ∈ actions, a.other = true)

include h

theorem reports_others : reports actions = [] := by
  refine List.filterMap_eq_nil_iff.mpr fun a ha => ?_
  have hother := h a ha
  cases a with
  | notify u r => cases u <;> first | rfl | cases hother
  | newCdmaSms pdu => cases hother
  | _ => rfl

theorem socketLines_others : socketLines actions = [] := by
  refine List.filterMap_eq_nil_iff.mpr fun a ha => ?_
  have hother := h a ha
  cases a with
  | atSocket s => cases hother
  | _ => rfl

theorem not_undefined_others (u : Undefined) : .undefined u ∉ actions := by
  intro hmem
  cases h _ hmem

end Others

/-- A line that passes the test of a branch passes no other test. -/
theorem strStartsWith_iff_eq {b : Branch} {s p : CString} (h : b.matches s = true) (b' : Branch)
    (hb' : b'.prefixes = [p]) : strStartsWith s p = true ↔ b = b' := by
  have hmatches : b'.matches s = strStartsWith s p := by simp [Branch.matches, hb']
  rw [← hmatches]
  constructor
  · exact fun h' => matches_unique h h'
  · rintro rfl
    exact h

/-- What is to be known of a branch for a call. -/
structure Branch.Does (ctx : Context) (x : CString × Option CString) (b : Branch) : Prop where
  returned : (b.run ctx x.1 x.2).2 = .returned ↔ b.read x.1 = none
  dies : (b.run ctx x.1 x.2).2 = .nullString ↔ kills x.1 = true
  unsound : (∃ u, .undefined u ∈ (b.run ctx x.1 x.2).1) ↔ Unsound x.1
  reports : reports (b.run ctx x.1 x.2).1 = (reportOf x).toList
  socketLines : socketLines (b.run ctx x.1 x.2).1 = []

section Branches

variable {ctx : Context} {b : Branch} {x : CString × Option CString}

theorem kills_of_ne (hmatches : b.matches x.1 = true) (hb : b ≠ .ltime) : kills x.1 = false := by
  have hltime := strStartsWith_iff_eq hmatches .ltime rfl
  rw [kills, Bool.eq_false_iff.mpr fun h => hb (hltime.mp h), Bool.false_and]

theorem announced_of_ne (hmatches : b.matches x.1 = true) (hcmt : b ≠ .cmt) (hcds : b ≠ .cds) :
    announced x.1 = none := by
  have hcmt' := strStartsWith_iff_eq hmatches .cmt rfl
  have hcds' := strStartsWith_iff_eq hmatches .cds rfl
  rw [announced, if_neg fun h => hcmt (hcmt'.mp h), if_neg fun h => hcds (hcds'.mp h)]

theorem not_unsound_of_ne (hmatches : b.matches x.1 = true) (hctzv : b ≠ .ctzv) (hcmt : b ≠ .cmt)
    (hcds : b ≠ .cds) : ¬ Unsound x.1 := by
  have hctzv' := strStartsWith_iff_eq hmatches .ctzv rfl
  have hcmt' := strStartsWith_iff_eq hmatches .cmt rfl
  have hcds' := strStartsWith_iff_eq hmatches .cds rfl
  rintro (h | ⟨h | h, -⟩)
  · exact hctzv (hctzv'.mp h)
  · exact hcmt (hcmt'.mp h)
  · exact hcds (hcds'.mp h)

theorem reportOf_of_not_announced (h : announced x.1 = none) : reportOf x = none := by
  rw [reportOf, h]
  cases x.2 <;> rfl

/-- A branch with other actions. -/
theorem does_of_others (hmatches : b.matches x.1 = true) (hctzv : b ≠ .ctzv) (hcmt : b ≠ .cmt)
    (hcds : b ≠ .cds) (hltime : b ≠ .ltime) (hothers : ∀ a ∈ (b.run ctx x.1 x.2).1, a.other = true)
    (hend : (b.read x.1 = none ∧ (b.run ctx x.1 x.2).2 = .returned) ∨
      (b.read x.1).isSome ∧ (b.run ctx x.1 x.2).2 = .through) : b.Does ctx x where
  returned := by
    rcases hend with ⟨hread, hend⟩ | ⟨hread, hend⟩
    · simp [hread, hend]
    · simp [hend, Option.isSome_iff_ne_none.mp hread]
  dies := by
    rcases hend with ⟨-, hend⟩ | ⟨-, hend⟩ <;> simp [hend, kills_of_ne hmatches hltime]
  unsound := by
    refine ⟨fun ⟨u, hu⟩ => absurd hu (not_undefined_others hothers u), fun h => ?_⟩
    exact absurd h (not_unsound_of_ne hmatches hctzv hcmt hcds)
  reports := by
    rw [reports_others hothers, reportOf_of_not_announced (announced_of_ne hmatches hcmt hcds)]
    rfl
  socketLines := socketLines_others hothers

/-- A branch that reads one number. -/
theorem withInt_end {next : TokLine → TokOut Int} {r : CString → Option Int} (hr : TokReads next r)
    {s : CString} (hs : nul ∉ s) (k : Int → List Action) (hk : ∀ v, ∀ a ∈ k v, a.other = true) :
    (∀ a ∈ (withInt next s k).1, a.other = true) ∧
      ((readFields [r] (cutAt ':' s).2 = none ∧ (withInt next s k).2 = .returned) ∨
        (readFields [r] (cutAt ':' s).2).isSome ∧ (withInt next s k).2 = .through) := by
  rw [withInt_eq hr hs]
  cases hread : (cutAt ':' s).2.bind fun t => r (cutField t).token with
  | none =>
    have hnone : readFields [r] (cutAt ':' s).2 = none := by
      cases hcut : (cutAt ':' s).2 with
      | none => rfl
      | some t =>
        rw [hcut] at hread
        simp only [Option.bind_some] at hread
        simp [readFields, readField, hread]
    rw [hnone]
    exact ⟨List.forall_mem_nil _, .inl ⟨rfl, rfl⟩⟩
  | some v =>
    obtain ⟨t, hcut, ht⟩ := Option.bind_eq_some_iff.mp hread
    have hsome : readFields [r] (cutAt ':' s).2 = some [v] := by
      rw [hcut]
      simp [readFields, readField, ht]
    rw [hsome]
    exact ⟨hk v, .inr ⟨rfl, rfl⟩⟩

/-- The actions for a message. -/
theorem messageActions {u : Notice} (hu : u = .responseNewSms ∨ u = .responseNewSmsStatusReport)
    (overflow gsm : Prop) [Decidable overflow] [Decidable gsm] (pdu : CString) :
    let actions : List Action := (if overflow then [.undefined .overflow] else []) ++
      [if gsm then .notify u (.str pdu) else .newCdmaSms pdu]
    ((∃ t, .undefined t ∈ actions) ↔ overflow) ∧
      reports actions = [if gsm then .gsm u pdu else .cdma pdu] ∧ socketLines actions = [] := by
  rcases hu with rfl | rfl <;> by_cases hoverflow : overflow <;> by_cases hgsm : gsm <;>
    simp [hoverflow, hgsm, reports, socketLines]

/-- A branch for messages. -/
theorem does_message {u : Notice} (hs : nul ∉ x.1) (hx : Announces x) (hmatches : b.matches x.1 = true)
    (hctzv : b ≠ .ctzv) (hltime : b ≠ .ltime) (hfields : b.fields = [anyField, decimal])
    (hrun : b.run ctx x.1 x.2 = newSms u x.1 x.2) (hu : announced x.1 = some u) : b.Does ctx x := by
  obtain ⟨s, second⟩ := x
  have hsms : strStartsWith s "+CMT:" = true ∧ u = .responseNewSms ∨
      strStartsWith s "+CDS:" = true ∧ u = .responseNewSmsStatusReport := by
    simp only [announced] at hu
    split at hu
    · cases hu
      exact .inl ⟨‹_›, rfl⟩
    · split at hu
      · cases hu
        exact .inr ⟨‹_›, rfl⟩
      · cases hu
  have hsecond : second.isSome = true := by
    rw [show second.isSome = isSMSUnsolicited s from hx]
    rcases hsms with ⟨h, -⟩ | ⟨h, -⟩
    · exact List.any_eq_true.mpr ⟨_, List.mem_cons_self, h⟩
    · exact List.any_eq_true.mpr ⟨_, List.mem_cons_of_mem _ List.mem_cons_self, h⟩
  obtain ⟨pdu, rfl⟩ := Option.isSome_iff_exists.mp hsecond
  have hkind : u = .responseNewSms ∨ u = .responseNewSmsStatusReport := hsms.imp And.right And.right
  have hread : b.read s = (lengthField s).map fun n => [0, n] := by
    rw [Branch.read, hfields, read_message]
  have hkills : kills s = false := kills_of_ne (x := (s, some pdu)) hmatches hltime
  have hunsound : Unsound s ↔ TooLong s := by
    have hnot := mt (strStartsWith_iff_eq hmatches .ctzv rfl).mp hctzv
    exact ⟨fun h => (h.resolve_left hnot).2, fun h => .inr ⟨hsms.imp And.left And.left, h⟩⟩
  rw [newSms_eq hs] at hrun
  cases hlength : lengthField s with
  | none =>
    rw [hlength] at hrun hread
    have htoo : ¬ TooLong s := by
      rintro ⟨n, hn, -⟩
      rw [hlength] at hn
      cases hn
    have hreport : reportOf (s, some pdu) = none := by simp [reportOf, hlength]
    constructor <;> rw [hrun]
    · simp [hread]
    · simp [hkills]
    · simp [hunsound, htoo]
    · rw [hreport]
      rfl
    · rfl
  | some n =>
    rw [hlength] at hrun hread
    have htoo : TooLong s ↔ n * 2 < -0x80000000 ∨ 0x7fffffff < n * 2 := by
      simp only [TooLong, hlength, Option.some.injEq, exists_eq_left']
      omega
    have hgsm : toInt32 (n * 2 % 0x100000000).toNat ≠ toInt32 pdu.length ↔
        ¬ n * 2 % 0x100000000 = (pdu.length : Int) % 0x100000000 := by
      rw [Ne, toInt32_eq_iff]
      omega
    obtain ⟨hundefined, hreports, hlines⟩ := messageActions hkind
      (n * 2 < -0x80000000 ∨ 0x7fffffff < n * 2)
      (toInt32 (n * 2 % 0x100000000).toNat ≠ toInt32 pdu.length) pdu
    have hreport : reportOf (s, some pdu) =
        some (if toInt32 (n * 2 % 0x100000000).toNat ≠ toInt32 pdu.length then .gsm u pdu
          else .cdma pdu) := by
      simp only [reportOf, hu, hlength, Option.bind_eq_bind, Option.bind_some, hgsm]
      split <;> rfl
    constructor <;> rw [hrun]
    · simp [hread]
    · simp [hkills]
    · rw [hunsound, htoo]
      exact hundefined
    · rw [hreport]
      exact hreports
    · exact hlines

/-- Every branch, for a line that passes its test. -/
theorem branch_does (hs : nul ∉ x.1) (hx : Announces x) (hmatches : b.matches x.1 = true) :
    b.Does ctx x := by
  have hfixed : (∀ a ∈ (b.run ctx x.1 x.2).1, a.other = true) → (b.run ctx x.1 x.2).2 = .through →
      b.fields = [] → b ≠ .ctzv → b ≠ .ltime → b.Does ctx x := by
    intro hothers hend hfields hctzv hltime
    have hread : (b.read x.1).isSome := by rw [Branch.read, hfields]; rfl
    refine does_of_others hmatches hctzv ?_ ?_ hltime hothers (.inr ⟨hread, hend⟩)
    · rintro rfl
      cases hfields
    · rintro rfl
      cases hfields
  have hcallback : ∀ u : Notice, (Action.notify u .null).other = true →
      ∀ a ∈ [Action.notify u .null] ++ (if ctx.build.useTi then [.dataCallListCallback] else []),
        a.other = true := by
    intro u hu a ha
    rcases List.mem_append.mp ha with ha | ha
    · rw [List.mem_singleton.mp ha]
      exact hu
    · split at ha
      · rw [List.mem_singleton.mp ha]
        rfl
      · cases ha
  cases b with
  | ctzv =>
    have hrun := @run_ctzv ctx x.1 x.2 hs hmatches
    have hkills := kills_of_ne hmatches (by decide)
    have hnone := reportOf_of_not_announced (announced_of_ne hmatches (by decide) (by decide))
    have hctzv := (strStartsWith_iff_eq hmatches .ctzv rfl).mpr rfl
    constructor <;> rw [hrun]
    · simp [Branch.read, Branch.fields, readFields]
    · simp [hkills]
    · exact ⟨fun _ => .inl hctzv, fun _ => ⟨.useAfterFree, List.mem_cons_self⟩⟩
    · rw [hnone]
      rfl
    · rfl
  | callState => exact hfixed (hcallback _ rfl) rfl rfl (by decide) (by decide)
  | network => exact hfixed (hcallback _ rfl) rfl rfl (by decide) (by decide)
  | ims => exact hfixed (by simp [Branch.run, Action.other]) rfl rfl (by decide) (by decide)
  | statcm =>
    obtain ⟨hothers, hend⟩ := withInt_end tokReads_nextint hs
      (fun eventId => if eventId = 4 then [.dataCallListCallback] else []) (by
        intro v a ha
        split at ha
        · rw [List.mem_singleton.mp ha]
          rfl
        · cases ha)
    exact does_of_others hmatches (by decide) (by decide) (by decide) (by decide) hothers hend
  | cmt =>
    have hcmt := (strStartsWith_iff_eq hmatches .cmt rfl).mpr rfl
    exact does_message hs hx hmatches (by decide) (by decide) rfl rfl (if_pos hcmt)
  | cds =>
    have hcmt := mt (strStartsWith_iff_eq hmatches .cmt rfl).mp (by decide)
    have hcds := (strStartsWith_iff_eq hmatches .cds rfl).mpr rfl
    exact does_message hs hx hmatches (by decide) (by decide) rfl rfl ((if_neg hcmt).trans (if_pos hcds))
  | cgev => exact hfixed (by simp [Branch.run, Action.other]) rfl rfl (by decide) (by decide)
  | cmeError150 => exact hfixed (by simp [Branch.run, Action.other]) rfl rfl (by decide) (by decide)
  | ccss =>
    obtain ⟨hothers, hend⟩ := withInt_end tokReads_nextint hs
      (fun source => [.subscriptionSource source, .notify .cdmaSubscriptionSourceChanged (.int source)])
      (by simp [Action.other])
    exact does_of_others hmatches (by decide) (by decide) (by decide) (by decide) hothers hend
  | wsos =>
    obtain ⟨hothers, hend⟩ := withInt_end tokReads_nextbool hs
      (fun state => [.notify (if state ≠ 0 then .enterEmergencyCallbackMode else .exitEmergencyCallbackMode)
        .null]) (by
        intro v a ha
        rw [List.mem_singleton.mp ha]
        by_cases hv : v ≠ 0 <;> simp [hv, Action.other])
    exact does_of_others hmatches (by decide) (by decide) (by decide) (by decide) hothers hend
  | wprl =>
    obtain ⟨hothers, hend⟩ := withInt_end tokReads_nextint hs
      (fun version => [.notify .cdmaPrlChanged (.int version)]) (by simp [Action.other])
    exact does_of_others hmatches (by decide) (by decide) (by decide) (by decide) hothers hend
  | cfun => exact hfixed (by simp [Branch.run, Action.other]) rfl rfl (by decide) (by decide)
  | ltime =>
    have hltime := (strStartsWith_iff_eq hmatches .ltime rfl).mpr rfl
    have hnone := reportOf_of_not_announced (announced_of_ne hmatches (by decide) (by decide))
    have hsound := not_unsound_of_ne hmatches (by decide) (by decide) (by decide)
    rcases @run_ltime ctx x.1 x.2 hs hmatches with ⟨hcomma, hrun⟩ | ⟨hcomma, time, hrun⟩
    · constructor <;> rw [hrun]
      · simp [Branch.read, Branch.fields, readFields]
      · rw [kills, hltime]
        simp [hcomma]
      · simp [hsound]
      · rw [hnone]
        rfl
      · rfl
    · constructor <;> rw [hrun]
      · simp [Branch.read, Branch.fields, readFields]
      · simp [kills, hcomma]
      · simp [hsound]
      · rw [hnone]
        rfl
      · rfl

end Branches

/-! ## Calls -/

/-- The handler for the calls of the reader thread, each in what surrounds it, until one of them kills the
    process. -/
def serve : List (Context × CString × Option CString) → List Action
  | [] => []
  | (ctx, s, smsPdu) :: calls =>
      match onUnsolicited ctx s smsPdu with
      | (actions, .nullString) => actions
      | (actions, _) => actions ++ serve calls

/-- The call kills the process. -/
def dies (c : Context × CString × Option CString) : Bool := !c.1.unavailable && kills c.2.1

/-- The AT socket gets the line of the call. -/
def passes (c : Context × CString × Option CString) : Bool :=
  !c.1.unavailable && c.1.atSocket && accepts c.1.build c.2.1

section Calls

variable {ctx : Context} {x : CString × Option CString}

theorem mem_branches (build : Build) :
    .ctzv ∈ branches build ∧ .cmt ∈ branches build ∧ .cds ∈ branches build ∧ .ltime ∈ branches build := by
  simp [branches]

/-- A line without a branch. -/
theorem of_no_branch (h : branchOf (branches ctx.build) x.1 = none) :
    kills x.1 = false ∧ announced x.1 = none ∧ ¬ Unsound x.1 := by
  have hnone : ∀ {b : Branch} {p : CString}, b ∈ branches ctx.build → b.prefixes = [p] →
      strStartsWith x.1 p = false := by
    intro b p hb hp
    have hnot := List.find?_eq_none.mp h b hb
    simpa [Branch.matches, hp] using hnot
  obtain ⟨hctzv, hcmt, hcds, hltime⟩ := mem_branches ctx.build
  have hcmt' := hnone hcmt rfl
  have hcds' := hnone hcds rfl
  refine ⟨?_, ?_, ?_⟩
  · rw [kills, hnone hltime rfl, Bool.false_and]
  · rw [announced, hcmt', hcds']
    rfl
  · rintro (h | ⟨h | h, -⟩)
    · rw [hnone hctzv rfl] at h
      cases h
    · rw [hcmt'] at h
      cases h
    · rw [hcds'] at h
      cases h

/-- What is to be known of a call. -/
structure Handles (ctx : Context) (x : CString × Option CString) : Prop where
  returned : (handle ctx x.1 x.2).2 = .returned ↔ accepts ctx.build x.1 = false
  dies : (handle ctx x.1 x.2).2 = .nullString ↔ kills x.1 = true
  unsound : (∃ u, .undefined u ∈ (handle ctx x.1 x.2).1) ↔ Unsound x.1
  reports : reports (handle ctx x.1 x.2).1 = (reportOf x).toList
  socketLines : socketLines (handle ctx x.1 x.2).1 = []

theorem handles (hs : nul ∉ x.1) (hx : Announces x) : Handles ctx x := by
  cases hbranch : branchOf (branches ctx.build) x.1 with
  | none =>
    obtain ⟨hkills, hannounced, hsound⟩ := of_no_branch hbranch
    have hhandle : handle ctx x.1 x.2 = ([], .through) := by rw [handle, hbranch]
    constructor <;> rw [hhandle]
    · simp [accepts, hbranch]
    · simp [hkills]
    · simp [hsound]
    · rw [reportOf_of_not_announced hannounced]
      rfl
    · rfl
  | some b =>
    have hdoes : b.Does ctx x := branch_does hs hx (branchOf_eq_some_iff.mp hbranch).2
    have hhandle : handle ctx x.1 x.2 = b.run ctx x.1 x.2 := by rw [handle, hbranch]
    constructor <;> rw [hhandle]
    · simp [accepts, hbranch, hdoes.returned]
    · exact hdoes.dies
    · exact hdoes.unsound
    · exact hdoes.reports
    · exact hdoes.socketLines

theorem reports_append (as as' : List Action) : reports (as ++ as') = reports as ++ reports as' :=
  List.filterMap_append

theorem socketLines_append (as as' : List Action) :
    socketLines (as ++ as') = socketLines as ++ socketLines as' :=
  List.filterMap_append

theorem reportOf_of_kills (h : kills x.1 = true) : reportOf x = none := by
  rw [kills, Bool.and_eq_true] at h
  have hmatches : Branch.ltime.matches x.1 = true := by simpa [Branch.matches, Branch.prefixes] using h.1
  exact reportOf_of_not_announced (announced_of_ne hmatches (by decide) (by decide))

/-- A call kills the process, or the AT socket gets the line if it is to get it. -/
theorem onUnsolicited_cases (hs : nul ∉ x.1) (hx : Announces x) :
    (dies (ctx, x) = true ∧ ∃ as, onUnsolicited ctx x.1 x.2 = (as, .nullString) ∧ socketLines as = [] ∧
      reports as = []) ∨
    (dies (ctx, x) = false ∧ ∃ as e, onUnsolicited ctx x.1 x.2 = (as, e) ∧ e ≠ .nullString ∧
      socketLines as = (if passes (ctx, x) then [x.1] else []) ∧
      reports as = if ctx.unavailable then [] else (reportOf x).toList) := by
  have h : Handles ctx x := handles hs hx
  obtain ⟨hreturned, hdies, -, hreports, hlines⟩ := h
  rcases hhandle : handle ctx x.1 x.2 with ⟨as, e⟩
  rw [hhandle] at hreturned hdies hreports hlines
  unfold dies passes
  cases havailable : ctx.unavailable with
  | true => exact .inr ⟨rfl, [], .returned, by rw [onUnsolicited, havailable]; rfl, by decide, rfl, rfl⟩
  | false =>
    cases e with
    | nullString =>
      have hkills := hdies.mp rfl
      have hon : onUnsolicited ctx x.1 x.2 = (as, .nullString) := by
        rw [onUnsolicited, havailable, hhandle]
        rfl
      exact .inl ⟨hkills, as, hon, hlines, hreports.trans (by rw [reportOf_of_kills hkills]; rfl)⟩
    | returned =>
      have hkills := Bool.eq_false_iff.mpr (mt hdies.mpr nofun)
      have hon : onUnsolicited ctx x.1 x.2 = (as, .returned) := by
        rw [onUnsolicited, havailable, hhandle]
        rfl
      refine .inr ⟨hkills, as, .returned, hon, by decide, ?_, hreports⟩
      rw [hlines, hreturned.mp rfl, Bool.and_false]
      rfl
    | through =>
      have hkills := Bool.eq_false_iff.mpr (mt hdies.mpr nofun)
      have haccepts := eq_true_of_ne_false (mt hreturned.mpr nofun)
      have hon : onUnsolicited ctx x.1 x.2 =
          (as ++ (if ctx.atSocket then [.atSocket x.1] else []), .through) := by
        rw [onUnsolicited, havailable, hhandle]
        rfl
      refine .inr ⟨hkills, _, .through, hon, by decide, ?_, ?_⟩
      · rw [socketLines_append, hlines, haccepts]
        cases ctx.atSocket <;> rfl
      · rw [reports_append, hreports]
        cases ctx.atSocket <;> exact List.append_nil _

/-- The calls up to one that kills. -/
theorem serve_eq {calls : List (Context × CString × Option CString)}
    (h : ∀ c ∈ calls, nul ∉ c.2.1 ∧ Announces c.2) :
    socketLines (serve calls) =
        ((calls.takeWhile fun c => !dies c).filter passes).map (fun c => c.2.1) ∧
      reports (serve calls) = ((calls.takeWhile fun c => !dies c).filter fun c =>
        !c.1.unavailable).filterMap (fun c => reportOf c.2) := by
  induction calls with
  | nil => exact ⟨rfl, rfl⟩
  | cons c calls ih =>
    obtain ⟨ctx, x⟩ := c
    obtain ⟨ihlines, ihreports⟩ := ih fun c hc => h c (List.mem_cons_of_mem _ hc)
    obtain ⟨hs, hx⟩ := h _ List.mem_cons_self
    rcases onUnsolicited_cases hs hx with
      ⟨hkills, as, hon, hlines, hreports⟩ | ⟨hkills, as, e, hon, he, hlines, hreports⟩
    · have hserve : serve ((ctx, x) :: calls) = as := by
        rw [serve, hon]
      rw [hserve, hlines, hreports, List.takeWhile_cons_of_neg (by simp [hkills])]
      exact ⟨rfl, rfl⟩
    · have hserve : serve ((ctx, x) :: calls) = as ++ serve calls := by
        rw [serve, hon]
        cases e with
        | nullString => exact absurd rfl he
        | _ => rfl
      rw [hserve, socketLines_append, reports_append, hlines, hreports, ihlines, ihreports,
        List.takeWhile_cons_of_pos (by simp [hkills]), List.filter_cons, List.filter_cons]
      refine ⟨by split <;> rfl, ?_⟩
      cases ctx.unavailable with
      | true => rfl
      | false => cases hreport : reportOf x <;> simp [hreport]

end Calls

/-! ## Runs of the channel -/

section Runs

variable {s s' : Sys} {es : List AtChannel.Event}

/-- In every run a line makes the handler read what it must not, or dies of a `NULL` pointer, exactly when
    the radio is there and it is a NITZ line, a time notification without a comma, or the line of a message
    whose length, doubled, does not fit an `int`. No message lacks its PDU. -/
theorem unsolicited_faults_iff (hinput : s.input = []) (hlog : s.chan.unsolicited = [])
    (hnul : ∀ l ∈ receivedLines es, nul ∉ l) (hrun : runSteps (Sys.step .altair) s es = some s') :
    ∀ x ∈ s'.chan.unsolicited, (x.2.isSome = true ↔ isSMSUnsolicited x.1 = true) ∧
      ∀ ctx, Faults (onUnsolicited ctx x.1 x.2) ↔ ctx.unavailable = false ∧
        (strStartsWith x.1 "%CTZV:" = true ∨
        (strStartsWith x.1 "%NOTIFYEV:LTIME" = true ∧ ',' ∉ x.1) ∨
        ((strStartsWith x.1 "+CMT:" = true ∨ strStartsWith x.1 "+CDS:" = true) ∧
          ∃ n, lengthField x.1 = some n ∧ (n < -0x40000000 ∨ 0x40000000 ≤ n))) := by
  intro x hx
  obtain ⟨taken, -, -, -, hcalls⟩ := handled_lines hinput hlog hrun
  obtain ⟨hannounces, hreceived⟩ := hcalls x hx
  refine ⟨Bool.eq_iff_iff.mp hannounces, fun ctx => ?_⟩
  have h : Handles ctx x := handles (hnul x.1 (hreceived x.1 List.mem_cons_self)) hannounces
  have hkills : kills x.1 = true ↔ strStartsWith x.1 "%NOTIFYEV:LTIME" = true ∧ ',' ∉ x.1 := by
    rw [kills, Bool.and_eq_true]
    simp
  cases havailable : ctx.unavailable with
  | true =>
    refine iff_of_false ?_ (fun h => Bool.noConfusion h.1)
    rw [onUnsolicited, havailable, Faults]
    simp
  | false =>
    have hfaults : Faults (onUnsolicited ctx x.1 x.2) ↔
        (∃ u, .undefined u ∈ (handle ctx x.1 x.2).1) ∨ (handle ctx x.1 x.2).2 = .nullString := by
      rw [onUnsolicited, havailable, Faults]
      rcases handle ctx x.1 x.2 with ⟨as, _ | _ | _⟩ <;> cases ctx.atSocket <;> simp
    rw [hfaults, h.unsound, h.dies, hkills, Unsound, TooLong, and_iff_right rfl]
    exact ⟨fun h => h.elim (fun h => h.imp_right .inr) fun h => .inr (.inl h),
      fun h => h.elim (fun h => .inl (.inl h)) fun h => h.elim .inr fun h => .inl (.inr h)⟩

end Runs

/-- A NITZ line, a message, and a line of the connection manager without a number. -/
def someLines : List AtChannel.Event :=
  [.recv ["%CTZV: 1", "+CMT: ,2", "0011", "%STATCM: x"], .process "%CTZV: 1" [],
    .processSms "+CMT: ,2" "0011", .process "%STATCM: x" []]

def registered : Context := ⟨⟨.v44, false, false, false⟩, false, true, "00"⟩

theorem nul_not_mem_someLines : ∀ l ∈ receivedLines someLines, nul ∉ l := by decide

theorem run_someLines : ∃ s, runSteps (Sys.step .altair) idleSys someLines = some s ∧ s.input = [] ∧
    s.chan.unsolicited =
      [("%CTZV: 1".toList, none), ("+CMT: ,2".toList, some "0011".toList), ("%STATCM: x".toList, none)] :=
  ⟨_, rfl, rfl, rfl⟩

theorem unsolicited_faults_nitz :
    ∃ s, runSteps (Sys.step .altair) idleSys someLines = some s ∧
      Faults (onUnsolicited registered "%CTZV: 1" none) ∧
      ¬ Faults (onUnsolicited registered "+CMT: ,2" (some "0011".toList)) := by
  obtain ⟨s, hrun, -, hlog⟩ := run_someLines
  have hfaults := @unsolicited_faults_iff _ _ _ rfl rfl nul_not_mem_someLines hrun
  rw [hlog] at hfaults
  have hlength : lengthField "+CMT: ,2" = some 2 := by decide +kernel
  refine ⟨s, hrun, ((hfaults _ List.mem_cons_self).2 registered).mpr ⟨rfl, .inl rfl⟩, fun h => ?_⟩
  rcases (((hfaults _ (List.mem_cons_of_mem _ List.mem_cons_self)).2 registered).mp h).2 with
    h | ⟨h, -⟩ | ⟨-, n, hn, h⟩
  · cases h
  · cases h
  · obtain rfl : 2 = n := Option.some.inj (hlength.symm.trans hn)
    omega

section Runs

variable {s s' : Sys} {es : List AtChannel.Event}

/-- In every run, whatever surrounds each call of the handler, the AT socket gets, in their order and each one
    once, the lines that come while the radio and a client are there, but not those that lack a field which
    their branch asks for, up to one that kills. -/
theorem atSocket_gets_accepted (hinput : s.input = []) (hlog : s.chan.unsolicited = [])
    (hnul : ∀ l ∈ receivedLines es, nul ∉ l) (hrun : runSteps (Sys.step .altair) s es = some s')
    (ctxs : List Context) :
    ∃ taken, receivedLines es = taken ++ s'.input ∧
      (s'.chan.unsolicited.map Prod.fst).Sublist ((pairUp taken).map Prod.fst) ∧
      socketLines (serve (ctxs.zip s'.chan.unsolicited)) =
        (((ctxs.zip s'.chan.unsolicited).takeWhile fun c => !dies c).filter passes).map
          (fun c => c.2.1) := by
  obtain ⟨taken, htaken, hsublist, -, hcalls⟩ := handled_lines hinput hlog hrun
  refine ⟨taken, htaken, hsublist.map Prod.fst, (serve_eq fun c hc => ?_).1⟩
  obtain ⟨hannounces, hreceived⟩ := hcalls c.2 (List.of_mem_zip hc).2
  exact ⟨hnul c.2.1 (hreceived c.2.1 List.mem_cons_self), hannounces⟩

/-- The client of the AT socket comes after the first line. -/
theorem atSocket_gets_accepted_two :
    ∃ s, runSteps (Sys.step .altair) idleSys someLines = some s ∧
      socketLines (serve ([{ registered with atSocket := false }, registered, registered].zip
        s.chan.unsolicited)) = ["+CMT: ,2".toList] := by
  obtain ⟨s, hrun, -, hlog⟩ := run_someLines
  obtain ⟨-, -, -, hlines⟩ := atSocket_gets_accepted rfl rfl nul_not_mem_someLines hrun
    [{ registered with atSocket := false }, registered, registered]
  refine ⟨s, hrun, hlines.trans ?_⟩
  rw [hlog]
  decide +kernel

/-- In every run, if no line kills and the radio is there at each call, the messages that are reported are
    those among the received lines: each one once, in their order, with the line behind its own as the PDU,
    whatever commands are pending. -/
theorem messages_reported (hinput : s.input = []) (hlog : s.chan.unsolicited = [])
    (hnul : ∀ l ∈ receivedLines es, nul ∉ l) (hlives : ∀ l ∈ receivedLines es, kills l = false)
    (hrun : runSteps (Sys.step .altair) s es = some s') {ctxs : List Context}
    (hlength : ctxs.length = s'.chan.unsolicited.length)
    (havailable : ∀ ctx ∈ ctxs, ctx.unavailable = false) :
    ∃ taken, receivedLines es = taken ++ s'.input ∧
      reports (serve (ctxs.zip s'.chan.unsolicited)) = (pairUp taken).filterMap reportOf := by
  obtain ⟨taken, htaken, -, hmessages, hcalls⟩ := handled_lines hinput hlog hrun
  refine ⟨taken, htaken, ?_⟩
  have hserve := (@serve_eq (ctxs.zip s'.chan.unsolicited) fun c hc => by
    obtain ⟨hannounces, hreceived⟩ := hcalls c.2 (List.of_mem_zip hc).2
    exact ⟨hnul c.2.1 (hreceived c.2.1 List.mem_cons_self), hannounces⟩).2
  have hall : (ctxs.zip s'.chan.unsolicited).takeWhile (fun c => !dies c) =
      ctxs.zip s'.chan.unsolicited := by
    refine List.takeWhile_eq_self_iff.mpr fun c hc => ?_
    rw [dies, hlives c.2.1 ((hcalls c.2 (List.of_mem_zip hc).2).2 c.2.1 List.mem_cons_self),
      Bool.and_false]
    rfl
  have hthere : (ctxs.zip s'.chan.unsolicited).filter (fun c => !c.1.unavailable) =
      ctxs.zip s'.chan.unsolicited := by
    refine List.filter_eq_self.mpr fun c hc => ?_
    rw [havailable c.1 (List.of_mem_zip hc).1]
    rfl
  have hcall : (ctxs.zip s'.chan.unsolicited).filterMap (fun c => reportOf c.2) =
      s'.chan.unsolicited.filterMap reportOf := by
    have hsnd := List.map_snd_zip (Nat.le_of_eq hlength.symm)
    exact List.filterMap_map.symm.trans (congrArg (List.filterMap reportOf) hsnd)
  have hfilter : ∀ xs : List (CString × Option CString),
      xs.filterMap reportOf = (xs.filter fun x => x.2.isSome).filterMap reportOf := by
    intro xs
    rw [List.filterMap_filter]
    refine List.filterMap_congr fun x _ => ?_
    rcases x with ⟨l, _ | pdu⟩ <;> rfl
  rw [hserve, hall, hthere, hcall, hfilter, hmessages, ← hfilter]

theorem messages_reported_one :
    ∃ s, runSteps (Sys.step .altair) idleSys someLines = some s ∧
      reports (serve ([registered, registered, registered].zip s.chan.unsolicited)) =
        [.cdma "0011".toList] := by
  obtain ⟨s, hrun, hinput, hlog⟩ := run_someLines
  obtain ⟨taken, htaken, hreports⟩ := @messages_reported _ _ _ rfl rfl nul_not_mem_someLines
    (by decide) hrun [registered, registered, registered] (by rw [hlog]; rfl) (by decide)
  rw [hinput, List.append_nil] at htaken
  refine ⟨s, hrun, hreports.trans ?_⟩
  rw [← htaken]
  decide +kernel

end Runs

end AndroidPatch.Ril.Altair.Unsolicited
