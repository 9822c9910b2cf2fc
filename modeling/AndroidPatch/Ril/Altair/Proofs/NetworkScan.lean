import AndroidPatch.Ril.Altair.Proofs.DataCallLine
import AndroidPatch.Ril.Altair.Network

/-!
# The network scan

`requestQueryAvailableNetworks` counts closing parentheses and then searches for opening ones. What
it makes of a list of any operators: one that has a closing parenthesis in a name makes the loop go
on behind the last operator.
-/

namespace AndroidPatch.Ril.Altair

open AtChannel

/-! ## The list -/

/-- An operator as the modem lists it. -/
structure Operator where
  stat : Fin 4
  long : CString
  short : CString
  numeric : CString
  deriving DecidableEq, Repr

namespace Operator

def names (o : Operator) : List CString := [o.long, o.short, o.numeric]

/-- A name has no quote. -/
def Ok (o : Operator) : Prop := ∀ name ∈ o.names, '"' ∉ name ∧ nul ∉ name

instance (o : Operator) : Decidable o.Ok :=
  inferInstanceAs (Decidable (∀ name ∈ o.names, '"' ∉ name ∧ nul ∉ name))

def render (o : Operator) : CString :=
  '(' :: (dec o.stat ++ ",\"" ++ o.long ++ "\",\"" ++ o.short ++ "\",\"" ++ o.numeric ++ "\")")

def status (o : Operator) : CString :=
  match o.stat with
  | 0 => "unknown"
  | 1 => "available"
  | 2 => "current"
  | 3 => "forbidden"

/-- What is reported of it. -/
def strings (o : Operator) : List (Option CString) :=
  [some o.long, some o.short, some o.numeric, some o.status]

end Operator

/-- A list of numbers and ranges. -/
structure NumberList (s : CString) : Prop where
  head : startsWithDigitOf 10 s = true
  chars : ∀ c ∈ s, (digitVal 10 c).isSome = true ∨ c = ',' ∨ c = '-'

theorem numberList_iff (s : CString) : NumberList s ↔ startsWithDigitOf 10 s = true ∧
    s.all (fun c => decide ((digitVal 10 c).isSome = true ∨ c = ',' ∨ c = '-')) = true := by
  simp only [List.all_eq_true, decide_eq_true_eq]
  exact ⟨fun h => ⟨h.head, h.chars⟩, fun h => ⟨h.1, h.2⟩⟩

instance (s : CString) : Decidable (NumberList s) := decidable_of_iff _ (numberList_iff s).symm

/-- What follows the comma behind the last operator. -/
def supported (modes formats : CString) : CString := ",(" ++ modes ++ "),(" ++ formats ++ ")"

/-- The answer to `AT+COPS=?`, with `space` behind the prefix. -/
def scanLine (space : CString) (ops : List Operator) (modes formats : CString) : CString :=
  "+COPS:" ++ space ++ [','].intercalate (ops.map Operator.render) ++ ',' :: supported modes formats

/-! ## One operator -/

/-- A quoted field. -/
def quoted (value stray : CString) : Field := ⟨[], true, value, stray⟩

theorem quoted_ok {value stray : CString} (hvalue : '"' ∉ value) (hstray : ',' ∉ stray) :
    (quoted value stray).Ok := ⟨List.forall_mem_nil _, hvalue, hstray⟩

namespace Operator

/-- What stands behind the opening parenthesis, up to the comma behind the closing one. -/
def renderThen (o : Operator) (rest : CString) : CString :=
  (plain [] (dec o.stat)).renderThen (some ((quoted o.long []).renderThen
    (some ((quoted o.short []).renderThen (some ((quoted o.numeric ")").renderThen (some rest)))))))

theorem render_append (o : Operator) (rest : CString) :
    o.render ++ ',' :: rest = '(' :: o.renderThen rest := by
  simp [render, renderThen, Field.renderThen, Field.render, plain, quoted]

theorem plain_stat_ok (stat : Fin 4) : (plain [] (dec stat)).Ok := by
  revert stat
  decide

theorem decimal_stat (stat : Fin 4) : strtol 10 (dec stat) = ((stat.val : Int), true) := by
  revert stat
  decide

theorem nul_not_mem_stat (stat : Fin 4) : nul ∉ dec stat := by
  revert stat
  decide

end Operator

/-- The string at `p` is done, whatever follows. -/
def PointsTo (done : CString) (p : Nat) (s : CString) : Prop :=
  ∀ ahead, (TokLine.behind done ahead).text p = s

theorem PointsTo.append {done s : CString} {p : Nat} (h : PointsTo done p s) (more : CString) :
    PointsTo (done ++ more) p s := by
  intro ahead
  rw [← h (more ++ ahead), TokLine.text, TokLine.text, TokLine.behind, TokLine.behind,
    List.append_assoc]

/-- The entry `n` is the one for `o`. -/
structure Holds (done : CString) (n : Network) (o : Operator) : Prop where
  long : PointsTo done n.long o.long
  short : PointsTo done n.short o.short
  numeric : PointsTo done n.numeric o.numeric
  stat : n.stat = o.status

theorem Holds.append {done : CString} {n : Network} {o : Operator} (h : Holds done n o)
    (more : CString) : Holds (done ++ more) n o :=
  ⟨h.long.append more, h.short.append more, h.numeric.append more, h.stat⟩

theorem Holds.strings {done : CString} {n : Network} {o : Operator} (h : Holds done n o)
    (ahead : CString) : n.strings (.behind done ahead) = o.strings := by
  rw [Network.strings, h.long, h.short, h.numeric, h.stat, Operator.strings]

/-- `statStr` on a status that an operator can have. -/
theorem exec_statStr (o : Operator) (env : Env) (w : World Store Event) :
    (statStr o.stat).exec env w = (.ok o.status, w) := by
  obtain ⟨stat, long, short, numeric⟩ := o
  have hexec : ∀ i : Nat, i < 4 → (statStr (i : Int)).exec env w =
      (.ok ((["unknown", "available", "current", "forbidden"] : List CString).getD i
        (env.garbageStr 0)), w) := by
    intro i hi
    have hneg : ¬ (i : Int) < 0 := by omega
    have hin : ¬ ((i : Int) < 0 ∨ (4 : Int) ≤ i) := by omega
    unfold statStr
    rw [Traced.exec_bind_of_ok (Traced.exec_read env w),
      Traced.exec_bind_of_ok (exec_undefinedIf _ _ env w), if_neg hneg, Traced.exec_pure]
    split
    · rename_i hout
      exact absurd hout hin
    · rw [List.append_nil, Int.toNat_natCast]
  have hstat : stat = 0 ∨ stat = 1 ∨ stat = 2 ∨ stat = 3 := by omega
  refine (hexec stat.val stat.isLt).trans ?_
  rcases hstat with rfl | rfl | rfl | rfl <;> rfl

/-- A quoted name is cut off. -/
theorem atTokNextstr_quoted {value stray rest : CString} (done : CString) (hvalue : '"' ∉ value)
    (hstray : ',' ∉ stray) (hnul : nul ∉ (quoted value stray).renderThen (some rest)) :
    ∃ p more, atTokNextstr (.behind done ((quoted value stray).renderThen (some rest))) =
        ⟨0, some p, .behind (done ++ more) rest⟩ ∧
      PointsTo (done ++ more) p value := by
  have hnext := Field.atTokNextstr_field (quoted_ok hvalue hstray) done hnul
  have hmore : ∀ f : Field, done ++ f.lead ++ f.value ++ f.sep =
      done ++ (f.lead ++ f.value ++ f.sep) := by simp
  rw [hmore] at hnext
  refine ⟨_, _, hnext, ?_⟩
  intro ahead
  rw [← hmore]
  exact Field.text_value (Field.nul_not_mem_renderThen hnul).1 done ahead

/-- The names of an operator are read one after the other. -/
theorem networkNames_renderThen {o : Operator} (ho : o.Ok) (done : CString) {rest : CString}
    (hnul : nul ∉ (quoted o.long []).renderThen (some ((quoted o.short []).renderThen
      (some ((quoted o.numeric ")").renderThen (some rest)))))) :
    ∃ more long short numeric,
      networkNames (.behind done ((quoted o.long []).renderThen (some ((quoted o.short []).renderThen
        (some ((quoted o.numeric ")").renderThen (some rest))))))) =
        (.behind (done ++ more) rest, some (long, short, numeric)) ∧
      Holds (done ++ more) ⟨long, short, numeric, o.status⟩ o := by
  have hname : ∀ name ∈ o.names, '"' ∉ name := fun name hmem => (ho name hmem).1
  have hnul1 := (Field.nul_not_mem_renderThen hnul).2
  have hnul2 := (Field.nul_not_mem_renderThen hnul1).2
  obtain ⟨long, more1, hlong, hlong'⟩ :=
    atTokNextstr_quoted done (hname o.long (by simp [Operator.names])) List.not_mem_nil hnul
  obtain ⟨short, more2, hshort, hshort'⟩ := atTokNextstr_quoted (done ++ more1)
    (hname o.short (by simp [Operator.names])) List.not_mem_nil hnul1
  obtain ⟨numeric, more3, hnumeric, hnumeric'⟩ := atTokNextstr_quoted (done ++ more1 ++ more2)
    (hname o.numeric (by simp [Operator.names])) (by decide : ',' ∉ (")" : CString)) hnul2
  refine ⟨more1 ++ more2 ++ more3, long, short, numeric, ?_, ?_⟩
  · unfold networkNames
    rw [hlong]
    dsimp only
    rw [hshort]
    dsimp only
    rw [hnumeric]
    simp
  · rw [← List.append_assoc, ← List.append_assoc]
    exact ⟨(hlong'.append more2).append more3, hshort'.append more3, hnumeric', rfl⟩

/-- The step of the loop: an operator of the list gives its entry, and the line stands behind the
    comma that follows it. -/
theorem exec_networkEntry {o : Operator} (ho : o.Ok) (done : CString) {rest : CString}
    (hnul : nul ∉ o.renderThen rest) (env : Env) (w : World Store Event) :
    ∃ n more, (networkEntry (.behind done (o.renderThen rest))).exec env w =
        (.ok (.behind (done ++ more) rest, some n), w) ∧
      Holds (done ++ more) n o := by
  have hstat : atTokNextint (.behind done (o.renderThen rest)) = ⟨0, some o.stat,
      .behind (done ++ dec o.stat ++ [nul]) ((quoted o.long []).renderThen
        (some ((quoted o.short []).renderThen
          (some ((quoted o.numeric ")").renderThen (some rest))))))⟩ := by
    rw [atTokNextint, atTokNextintBase_behind hnul, Operator.renderThen,
      Field.cutField_renderThen (Operator.plain_stat_ok o.stat)]
    simp [Field.cut, plain, Operator.decimal_stat, Cut.line, Field.lead, Field.sep]
  obtain ⟨more, long, short, numeric, hnames, hholds⟩ := networkNames_renderThen ho
    (done ++ dec o.stat ++ [nul]) (Field.nul_not_mem_renderThen hnul).2
  refine ⟨⟨long, short, numeric, o.status⟩, dec o.stat ++ [nul] ++ more, ?_, ?_⟩
  · unfold networkEntry
    rw [hstat]
    dsimp only
    rw [if_neg (by decide), Traced.exec_bind_of_ok (exec_statStr o env w), hnames]
    simp
  · simpa using hholds

/-! ## All operators -/

/-- The operators with a comma behind each. -/
def listed : List Operator → CString → CString
  | [], rest => rest
  | o :: ops, rest => '(' :: o.renderThen (listed ops rest)

/-- The comma in front of what follows stands behind the last operator, if there is one. -/
theorem intercalate_append (ops : List Operator) (rest : CString) :
    ∃ gap : CString, gap ∈ [[], [',']] ∧
      [','].intercalate (ops.map Operator.render) ++ ',' :: rest = gap ++ listed ops rest := by
  cases ops with
  | nil => exact ⟨[','], by simp, rfl⟩
  | cons o ops =>
    refine ⟨[], by simp, ?_⟩
    induction ops generalizing o with
    | nil =>
      rw [List.map_singleton, List.intercalate_singleton, Operator.render_append]
      rfl
    | cons o' ops ih =>
      have htail := ih o'
      rw [List.nil_append] at htail ⊢
      rw [List.map_cons, List.map_cons, List.intercalate_cons_cons, ← List.map_cons,
        List.append_assoc, htail, List.append_assoc, List.singleton_append, Operator.render_append]
      rfl

theorem nul_not_mem_listed {o : Operator} {ops : List Operator} {rest : CString}
    (h : nul ∉ listed (o :: ops) rest) : nul ∉ o.renderThen (listed ops rest) ∧ nul ∉ listed ops rest := by
  have ho : nul ∉ o.renderThen (listed ops rest) := fun hmem => h (List.mem_cons_of_mem _ hmem)
  refine ⟨ho, ?_⟩
  have h1 := (Field.nul_not_mem_renderThen ho).2
  have h2 := (Field.nul_not_mem_renderThen h1).2
  have h3 := (Field.nul_not_mem_renderThen h2).2
  exact (Field.nul_not_mem_renderThen h3).2

/-- One round of the loop, in front of a parenthesis. -/
theorem exec_networkLoop_succ {count : Int} {found : List Network} {done gap rest : CString}
    (hnul : nul ∉ gap ++ '(' :: rest) (hgap : '(' ∉ gap) (hcount : (found.length : Int) < count)
    (fuel : Nat) :
    networkLoop count (fuel + 1) (.behind done (gap ++ '(' :: rest)) found = (do
      let (l, entry) ← networkEntry (.behind (done ++ gap ++ ['(']) rest)
      networkLoop count fuel l (found ++ entry.toList)) := by
  have hfind := TokLine.strchr_of_mem done (some done.length) hnul hgap
  have hline : ({ TokLine.behind done (gap ++ '(' :: rest) with
      cur := some (done.length + gap.length + 1) } : TokLine) = .behind (done ++ gap ++ ['(']) rest := by
    simp [TokLine.behind, Nat.add_assoc]
  rw [networkLoop, if_pos hcount]
  simp only [show (TokLine.behind done (gap ++ '(' :: rest)).cur = some done.length from rfl,
    show (TokLine.behind done (gap ++ '(' :: rest)).strchr '(' done.length = some _ from hfind, hline]

/-- The loop up to the end of the list: every operator has its entry, in order. -/
theorem exec_networkLoop_listed {count : Int} {ops : List Operator} (hops : ∀ o ∈ ops, o.Ok)
    (done gap : CString) {rest : CString} (found : List Network) {fuel : Nat}
    (hnul : nul ∉ gap ++ listed ops rest) (hgap : '(' ∉ gap)
    (hcount : (found.length + ops.length : Int) ≤ count) (env : Env) (w : World Store Event) :
    ∃ done' gap' found', '(' ∉ gap' ∧ nul ∉ gap' ++ rest ∧ (∃ more, done' = done ++ more) ∧
      List.Forall₂ (Holds done') found' ops ∧
      (networkLoop count (fuel + ops.length) (.behind done (gap ++ listed ops rest)) found).exec env w =
        (networkLoop count fuel (.behind done' (gap' ++ rest)) (found ++ found')).exec env w := by
  induction ops generalizing done gap found with
  | nil =>
    refine ⟨done, gap, [], hgap, hnul, ⟨[], by simp⟩, .nil, ?_⟩
    rw [List.append_nil]
    rfl
  | cons o ops ih =>
    have hlisted : nul ∉ listed (o :: ops) rest := fun h => hnul (List.mem_append_right _ h)
    obtain ⟨hentry, hrest⟩ := nul_not_mem_listed hlisted
    have hlt : (found.length : Int) < count := by
      rw [List.length_cons] at hcount
      omega
    obtain ⟨n, more, hexec, hholds⟩ :=
      exec_networkEntry (hops o List.mem_cons_self) (done ++ gap ++ ['(']) hentry env w
    obtain ⟨done', gap', found', hgap', hnul', ⟨more', rfl⟩, hall, hloop⟩ :=
      ih (fun o' ho' => hops o' (List.mem_cons_of_mem o ho'))
        (done ++ gap ++ ['('] ++ more) [] (found ++ [n]) hrest
        List.not_mem_nil (by simp only [List.length_append, List.length_cons, List.length_nil] at *; omega)
    refine ⟨_, gap', n :: found', hgap', hnul', ⟨gap ++ ['('] ++ more ++ more', by simp⟩,
      .cons (hholds.append more') hall, ?_⟩
    rw [List.length_cons, ← Nat.add_assoc, listed, exec_networkLoop_succ hnul hgap hlt,
      Traced.exec_bind_of_ok hexec]
    refine hloop.trans ?_
    rw [List.append_assoc found]
    rfl

/-! ## Behind the last operator -/

theorem NumberList.not_mem {s : CString} (h : NumberList s) {c : Char}
    (hdigit : (digitVal 10 c).isSome = false) (hcomma : c ≠ ',') (hdash : c ≠ '-') : c ∉ s := by
  intro hmem
  rcases h.chars c hmem with hc | hc | hc
  · rw [hdigit] at hc
    cases hc
  · exact hcomma hc
  · exact hdash hc

/-- A call leaves no cursor when it finds no token. -/
theorem atTokNextstr_cur_of_none {l : TokLine} (h : (atTokNextstr l).out = none) :
    (atTokNextstr l).line.cur = none := by
  unfold atTokNextstr nextTok skipWhiteSpace at *
  cases hcur : l.cur with
  | none => simp [hcur]
  | some i =>
    simp only [hcur, Option.map_some] at h
    split at h <;> cases h

theorem networkNames_cur_of_none {l l' : TokLine} (h : networkNames l = (l', none)) :
    l'.cur = none := by
  unfold networkNames at h
  dsimp only at h
  split at h
  · rename_i hlong
    cases h
    exact atTokNextstr_cur_of_none hlong
  · rename_i hshort
    cases h
    exact atTokNextstr_cur_of_none hshort
  · rename_i hnumeric
    cases h
    exact atTokNextstr_cur_of_none hnumeric
  · cases h

/-- The loop forgets no entry. -/
theorem networkLoop_length {count : Int} {fuel : Nat} {l l' : TokLine} {found found' : List Network}
    {env : Env} {w w' : World Store Event}
    (h : (networkLoop count fuel l found).exec env w = (.ok (l', found'), w')) :
    found.length ≤ found'.length := by
  induction fuel generalizing l found w with
  | zero =>
    unfold networkLoop at h
    split at h
    · split at h
      · cases h
      · split at h
        · cases h
          exact Nat.le_refl _
        · cases h
    · cases h
      exact Nat.le_refl _
  | succ fuel ih =>
    unfold networkLoop at h
    split at h
    · split at h
      · cases h
      · split at h
        · cases h
          exact Nat.le_refl _
        · rw [Traced.exec_bind] at h
          split at h
          · have hle := ih h
            rw [List.length_append] at hle
            omega
          · cases h
    · cases h
      exact Nat.le_refl _

theorem exec_statStr_ok (stat : Int) (env : Env) (w : World Store Event) :
    ∃ text w', (statStr stat).exec env w = (.ok text, w') := by
  unfold statStr
  rw [Traced.exec_bind_of_ok (Traced.exec_read env w),
    Traced.exec_bind_of_ok (exec_undefinedIf _ _ env w)]
  split <;> exact ⟨_, _, rfl⟩

/-- The list of the modes passes for an operator, or the line ends in it. -/
theorem exec_networkEntry_modes {modes rest : CString} (hmodes : startsWithDigitOf 10 modes = true)
    {done : CString} (hnul : nul ∉ modes ++ rest) (env : Env) (w : World Store Event) :
    ∃ l entry w', (networkEntry (.behind done (modes ++ rest))).exec env w = (.ok (l, entry), w') ∧
      (entry = none → l.cur = none) := by
  obtain ⟨c, cs, rfl⟩ : ∃ c cs, modes = c :: cs := by
    cases modes with
    | nil => cases hmodes
    | cons c cs => exact ⟨c, cs, rfl⟩
  obtain ⟨v, hint⟩ := @atTokNextint_of_digit c hmodes done (cs ++ rest) hnul
  obtain ⟨stat, w', hstat⟩ := exec_statStr_ok v env w
  unfold networkEntry
  rw [List.cons_append, hint]
  dsimp only
  rw [if_neg (by decide), Traced.exec_bind_of_ok hstat]
  cases hnames : networkNames ((cutField (c :: (cs ++ rest))).line done) with
  | mk l names =>
    cases names with
    | none => exact ⟨_, _, _, rfl, fun _ => networkNames_cur_of_none hnames⟩
    | some names => exact ⟨_, _, _, rfl, nofun⟩

/-- A loop that is still short of entries behind the last operator does not end with those it
    has. -/
theorem networkLoop_supported {count : Int} {fuel : Nat} {done gap modes formats : CString}
    {found : List Network} (hmodes : NumberList modes) (hgap : '(' ∉ gap)
    (hnul : nul ∉ gap ++ supported modes formats) (hcount : (found.length : Int) < count)
    {env : Env} {w w' : World Store Event} {l' : TokLine} {found' : List Network}
    (h : (networkLoop count fuel (.behind done (gap ++ supported modes formats)) found).exec env w =
      (.ok (l', found'), w')) : found.length < found'.length := by
  have hsplit : gap ++ supported modes formats =
      gap ++ [','] ++ '(' :: (modes ++ ("),(" ++ formats ++ ")")) := by
    simp [supported]
  have hgap' : '(' ∉ gap ++ [','] := by simpa using hgap
  rw [hsplit] at h hnul
  cases fuel with
  | zero =>
    have hfind := TokLine.strchr_of_mem done (some done.length) hnul hgap'
    unfold networkLoop at h
    rw [if_pos hcount] at h
    simp only [show (TokLine.behind done (gap ++ [','] ++ '(' :: (modes ++ ("),(" ++ formats ++
        ")")))).cur = some done.length from rfl, show (TokLine.behind done (gap ++ [','] ++
        '(' :: (modes ++ ("),(" ++ formats ++ ")")))).strchr '(' done.length = some _ from hfind] at h
    cases h
  | succ fuel =>
    have hmodes' : nul ∉ modes ++ ("),(" ++ formats ++ ")") :=
      fun hmem => hnul (List.mem_append_right _ (List.mem_cons_of_mem _ hmem))
    obtain ⟨l, entry, w1, hexec, hend⟩ := exec_networkEntry_modes hmodes.head hmodes' env w
    rw [exec_networkLoop_succ hnul hgap' hcount, Traced.exec_bind_of_ok hexec] at h
    cases entry with
    | none =>
      have hcur : l.cur = none := hend rfl
      dsimp only at h
      unfold networkLoop at h
      rw [Option.toList_none, List.append_nil, if_pos hcount] at h
      simp only [hcur] at h
      cases h
    | some n =>
      have hle := networkLoop_length h
      rw [Option.toList_some, List.length_append, List.length_singleton] at hle
      exact hle

/-! ## The parentheses -/

theorem Operator.count_stat (stat : Fin 4) : (dec stat).count ')' = 0 := by
  revert stat
  decide

theorem Operator.count_renderThen (o : Operator) (rest : CString) :
    (o.renderThen rest).count ')' = o.names.flatten.count ')' + 1 + rest.count ')' := by
  have hstat : (dec o.stat).count ')' = 0 := count_stat o.stat
  simp only [renderThen, Field.renderThen, Field.render, plain, quoted, names]
  simp [List.count_append, hstat]
  omega

theorem count_listed (ops : List Operator) (rest : CString) :
    (listed ops rest).count ')' =
      (ops.flatMap fun o => o.names.flatten).count ')' + ops.length + rest.count ')' := by
  induction ops with
  | nil => simp [listed]
  | cons o ops ih =>
    rw [listed, List.count_cons_of_ne (by decide), Operator.count_renderThen, ih, List.flatMap_cons,
      List.count_append, List.length_cons]
    omega

theorem count_supported {modes formats : CString} (hmodes : NumberList modes)
    (hformats : NumberList formats) : (supported modes formats).count ')' = 2 := by
  have hm : modes.count ')' = 0 :=
    List.count_eq_zero.mpr (hmodes.not_mem rfl (by decide) (by decide))
  have hf : formats.count ')' = 0 :=
    List.count_eq_zero.mpr (hformats.not_mem rfl (by decide) (by decide))
  simp [supported, List.count_append, hm, hf]

/-- The parentheses inside the names. -/
def closings (ops : List Operator) : Nat := (ops.flatMap fun o => o.names.flatten).count ')'

theorem closings_eq_zero {ops : List Operator} :
    closings ops = 0 ↔ ∀ o ∈ ops, ∀ name ∈ o.names, ')' ∉ name := by
  rw [closings, List.count_eq_zero]
  simp only [List.mem_flatMap, List.mem_flatten, not_exists, not_and]

theorem nul_not_mem_of_ok {ops : List Operator} (hops : ∀ o ∈ ops, o.Ok) {rest : CString}
    (hrest : nul ∉ rest) : nul ∉ listed ops rest := by
  induction ops with
  | nil => exact hrest
  | cons o ops ih =>
    have hstat := Operator.nul_not_mem_stat o.stat
    have htail := ih fun o' ho' => hops o' (List.mem_cons_of_mem o ho')
    have hnames : nul ∉ o.long ∧ nul ∉ o.short ∧ nul ∉ o.numeric := by
      have ho := hops o List.mem_cons_self
      exact ⟨(ho _ (by simp [Operator.names])).2, (ho _ (by simp [Operator.names])).2,
        (ho _ (by simp [Operator.names])).2⟩
    simp only [listed, Operator.renderThen, Field.renderThen, Field.render, plain, quoted]
    simpa [nul] using ⟨hstat, hnames.1, hnames.2.1, hnames.2.2, htail⟩

/-- The answer, as the loop sees it. -/
theorem scanLine_eq {space modes formats : CString} {ops : List Operator}
    (hspace : ∀ c ∈ space, isSpace c = true) (hops : ∀ o ∈ ops, o.Ok) (hmodes : NumberList modes)
    (hformats : NumberList formats) :
    ∃ gap : CString, '(' ∉ gap ∧
      scanLine space ops modes formats = gap ++ listed ops (supported modes formats) ∧
      nul ∉ scanLine space ops modes formats ∧
      (scanLine space ops modes formats).count ')' = closings ops + ops.length + 2 := by
  obtain ⟨comma, hcomma, hlist⟩ := intercalate_append ops (supported modes formats)
  have heq : scanLine space ops modes formats =
      "+COPS:" ++ space ++ comma ++ listed ops (supported modes formats) := by
    unfold scanLine
    generalize ("+COPS:" ++ space : CString) = start
    rw [List.append_assoc, hlist, List.append_assoc]
  have hout : ∀ c, isSpace c = false → c ∉ space := fun c hc hmem => by
    rw [hspace c hmem] at hc
    cases hc
  have hgap : ∀ c, isSpace c = false → c ∉ ("+COPS:" : CString) → c ≠ ',' →
      c ∉ "+COPS:" ++ space ++ comma := by
    intro c hc hstart hne
    have hc' : c ∉ comma := by
      rcases List.mem_pair.mp hcomma with rfl | rfl <;> simp [hne]
    simp only [List.mem_append, not_or]
    exact ⟨⟨hstart, hout c hc⟩, hc'⟩
  have hsupported : nul ∉ supported modes formats := by
    have hm : nul ∉ modes := hmodes.not_mem rfl (by decide) (by decide)
    have hf : nul ∉ formats := hformats.not_mem rfl (by decide) (by decide)
    simpa [supported, nul] using ⟨hm, hf⟩
  refine ⟨_, hgap '(' rfl (by decide) (by decide), heq, ?_, ?_⟩
  · rw [heq, List.mem_append, not_or]
    exact ⟨hgap nul rfl (by decide) (by decide), nul_not_mem_of_ok hops hsupported⟩
  rw [heq, List.count_append, List.count_eq_zero.mpr (hgap ')' rfl (by decide) (by decide)),
    count_listed, count_supported hmodes hformats, closings]
  omega

/-! ## The request -/

/-- The radio detaches, the modem answers the scan with `line`, and the radio attaches. -/
structure Scans (env : Env) (w : World Store Event) (line : CString) : Prop where
  disconnect : (env.replies w.store.tick).err = 0
  scan : ∃ r, env.replies (w.store.tick + 1) = .response r ∧ r.success = true ∧
    r.intermediates.head? = some line
  connect : (env.replies (w.store.tick + 2)).err = 0

/-- The world after the scan. -/
def scanned (env : Env) (w : World Store Event) : World Store Event :=
  asked (asked w [.at "AT%CMATT=0" (env.replies w.store.tick)])
    [.at "AT+COPS=?" (env.replies (w.store.tick + 1))]

/-- The operators of the line are reported, in order and with four strings each, and no memory is
    read or stored to that the request does not have. -/
def ListsOperators (t : Token) (line : CString) (ops : List Operator) : Prop :=
  ∀ env w, Scans env w line → (requestQueryAvailableNetworks t).exec env w =
    (.ok (), asked (scanned env w) [.at "AT%CMATT=1" (env.replies (w.store.tick + 2)),
      .complete t .success (.strs (ops.flatMap Operator.strings))])

/-- What is made of the line. -/
def scanOperators (line : TokLine) : Body Payload := do
  let count : Int := (line.text 0).count ')' - 2
  undefinedIf (count < 0) .outOfBounds
  let (l, found) ← networkLoop count line.buf.length line []
  let err ← connectLte
  gotoErrorIf (err ≠ 0)
  return .strs (found.flatMap (Network.strings l))

/-- The request up to the answer. -/
theorem exec_requestQueryAvailableNetworks {env : Env} {w : World Store Event} {line : CString}
    (h : Scans env w line) (t : Token) :
    (requestQueryAvailableNetworks t).exec env w =
      (completing t .genericFailure (scanOperators (.ofString line))).exec env (scanned env w) := by
  obtain ⟨hdisconnect, ⟨⟨success, final, answer⟩, hreply, rfl, hhead⟩, -⟩ := h
  obtain ⟨lines, rfl⟩ : ∃ lines, answer = line :: lines := List.head?_eq_some_iff.mp hhead
  have hdetach : disconnectLte.exec env w =
      (.ok (env.replies w.store.tick).err, asked w [.at "AT%CMATT=0" (env.replies w.store.tick)]) := rfl
  have hgoto : ∀ w', (gotoErrorIf ((env.replies w.store.tick).err ≠ 0) : Body Unit).exec env w' =
      (.ok (some ()), w') := by
    intro w'
    rw [Block.exec_gotoErrorIf, if_neg (not_not_intro hdisconnect)]
  have hsend : (atSendCommandSingleline "AT+COPS=?" "+COPS:").exec env
      (asked w [.at "AT%CMATT=0" (env.replies w.store.tick)]) =
      (.ok (.response ⟨true, final, line :: lines⟩), scanned env w) := by
    refine (exec_atSend _ _ env _).trans ?_
    have hchecked : nextReply (.singleline "+COPS:") env
        (asked w [.at "AT%CMATT=0" (env.replies w.store.tick)]) =
        .response ⟨true, final, line :: lines⟩ :=
      congrArg (Reply.check (.singleline "+COPS:")) hreply
    rw [hchecked, scanned, hreply]
  have hline : (succeededLine (.response ⟨true, final, line :: lines⟩)).exec env (scanned env w) =
      (.ok (some (.ofString line)), scanned env w) := rfl
  unfold requestQueryAvailableNetworks
  rw [exec_completing, exec_completing, Block.exec_lift_bind_of_ok hdetach,
    Block.exec_bind_of_some (hgoto _), Block.exec_lift_bind_of_ok hsend,
    Block.exec_bind_of_some hline]
  rfl

/-- A loop that ends with the entries of the operators. -/
theorem exec_scanOperators {env : Env} {w : World Store Event} {line l : TokLine}
    {found : List Network} (hcount : 2 ≤ (line.text 0).count ')')
    (hloop : (networkLoop ((line.text 0).count ')' - 2) line.buf.length line []).exec env w =
      (.ok (l, found), w))
    (hconnect : (env.replies w.store.tick).err = 0) :
    (scanOperators line).exec env w = (.ok (some (.strs (found.flatMap (Network.strings l)))),
      asked w [.at "AT%CMATT=1" (env.replies w.store.tick)]) := by
  have hundefined : (undefinedIf (((line.text 0).count ')' - 2 : Int) < 0) .outOfBounds).exec env w =
      (.ok (), w) := by
    rw [exec_undefinedIf, if_neg (by omega), List.append_nil]
  have hattach : connectLte.exec env w =
      (.ok (env.replies w.store.tick).err, asked w [.at "AT%CMATT=1" (env.replies w.store.tick)]) := rfl
  have hgoto : ∀ w', (gotoErrorIf ((env.replies w.store.tick).err ≠ 0) : Body Unit).exec env w' =
      (.ok (some ()), w') := by
    intro w'
    rw [Block.exec_gotoErrorIf, if_neg (not_not_intro hconnect)]
  unfold scanOperators
  dsimp only
  rw [Block.exec_lift_bind_of_ok hundefined, Block.exec_lift_bind_of_ok hloop]
  dsimp only
  rw [Block.exec_lift_bind_of_ok hattach, Block.exec_bind_of_some (hgoto _), Block.exec_pure]

/-- What is reported comes from a loop that has ended. -/
theorem networkLoop_of_scanOperators {env : Env} {w w' : World Store Event} {line : TokLine}
    {response : Payload} (h : (scanOperators line).exec env w = (.ok (some response), w')) :
    ∃ w1 w2 l found, (networkLoop ((line.text 0).count ')' - 2) line.buf.length line []).exec env w1 =
        (.ok (l, found), w2) ∧
      response = .strs (found.flatMap (Network.strings l)) := by
  unfold scanOperators at h
  obtain ⟨-, w1, -, h⟩ := Block.exec_bind_eq_some.mp h
  obtain ⟨⟨l, found⟩, w2, hloop, h⟩ := Block.exec_bind_eq_some.mp h
  obtain ⟨err, w3, -, h⟩ := Block.exec_bind_eq_some.mp h
  obtain ⟨-, w4, -, h⟩ := Block.exec_bind_eq_some.mp h
  refine ⟨w1, w2, l, found, ?_, ?_⟩
  · rw [Block.exec_lift] at hloop
    revert hloop
    rcases (networkLoop _ _ line []).exec env w1 with ⟨_ | r, w2'⟩
    · nofun
    · rintro ⟨⟩
      rfl
  · cases h
    rfl

/-- A request that completes with success has computed its response. -/
theorem exec_of_completing {t : Token} {e : Errno} {body : Body Payload} {env : Env}
    {w w' : World Store Event} {l : List Event} {response : Payload} (he : e ≠ .success)
    (h : (completing t e body).exec env w = (.ok (), w'))
    (htrace : w'.trace = l ++ [.complete t .success response]) :
    ∃ w1, body.exec env w = (.ok (some response), w1) := by
  rw [exec_completing] at h
  rcases hbody : body.exec env w with ⟨_ | _ | response', w1⟩
  · rw [hbody] at h
    cases h
  · rw [hbody] at h
    cases h
    have hlast := (List.append_inj' htrace rfl).2
    simp [he] at hlast
  · rw [hbody] at h
    cases h
    have hlast := (List.append_inj' htrace rfl).2
    obtain rfl : response' = response := by simpa using hlast
    exact ⟨w1, rfl⟩

theorem networkLoop_of_found {count : Int} {l : TokLine} {found : List Network}
    (h : ¬ (found.length : Int) < count) (fuel : Nat) :
    networkLoop count fuel l found = pure (l, found) := by
  cases fuel <;> rw [networkLoop, if_neg h]

theorem flatMap_strings {done : CString} {found : List Network} {ops : List Operator}
    (h : List.Forall₂ (Holds done) found ops) (ahead : CString) :
    found.flatMap (Network.strings (.behind done ahead)) = ops.flatMap Operator.strings := by
  induction h with
  | nil => rfl
  | cons hn _ ih => rw [List.flatMap_cons, List.flatMap_cons, hn.strings ahead, ih]

theorem length_flatMap_strings (l : TokLine) (found : List Network) :
    (found.flatMap (Network.strings l)).length = 4 * found.length := by
  induction found with
  | nil => rfl
  | cons n found ih =>
    rw [List.flatMap_cons, List.length_append, ih, List.length_cons, Nat.mul_add, Nat.add_comm]
    rfl

section ListsOperators

variable {t : Token} {space modes formats : CString} {ops : List Operator}

/-- The loop on the answer, up to the end of the list. -/
theorem exec_networkLoop_scanLine (hspace : ∀ c ∈ space, isSpace c = true)
    (hops : ∀ o ∈ ops, o.Ok) (hmodes : NumberList modes) (hformats : NumberList formats) (env : Env)
    (w : World Store Event) :
    ∃ fuel done gap found, '(' ∉ gap ∧ nul ∉ gap ++ supported modes formats ∧
      List.Forall₂ (Holds done) found ops ∧
      2 ≤ ((TokLine.ofString (scanLine space ops modes formats)).text 0).count ')' ∧
      (networkLoop (((TokLine.ofString (scanLine space ops modes formats)).text 0).count ')' - 2)
        (scanLine space ops modes formats).length (.ofString (scanLine space ops modes formats))
          []).exec env w =
        (networkLoop (closings ops + ops.length : Nat) fuel
          (.behind done (gap ++ supported modes formats)) found).exec env w := by
  obtain ⟨gap, hgap, heq, hnul, hcount⟩ := scanLine_eq hspace hops hmodes hformats
  have htext : (TokLine.ofString (scanLine space ops modes formats)).text 0 =
      scanLine space ops modes formats := @TokLine.text_of_end [] _ _ hnul
  have hle := (scanLine space ops modes formats).count_le_length (a := ')')
  obtain ⟨fuel, hfuel⟩ := Nat.exists_eq_add_of_le'
    (by omega : ops.length ≤ (scanLine space ops modes formats).length)
  have hsum : (((scanLine space ops modes formats).count ')' : Nat) : Int) - 2 =
      ((closings ops + ops.length : Nat) : Int) := by
    rw [hcount]
    omega
  have htwo : 2 ≤ (scanLine space ops modes formats).count ')' := by omega
  rw [htext, hsum, hfuel]
  refine ⟨fuel, ?_⟩
  rw [heq] at hnul htwo ⊢
  obtain ⟨done', gap', found', hgap', hnul', ⟨more, -⟩, hall, hloop⟩ :=
    @exec_networkLoop_listed (closings ops + ops.length : Nat) ops hops [] gap _ [] fuel hnul hgap
      (by rw [List.length_nil]; omega) env w
  exact ⟨done', gap', found', hgap', hnul', hall, htwo, hloop⟩

/-- A closing parenthesis in a name, and the operators are not what is reported. -/
theorem not_listsOperators (hspace : ∀ c ∈ space, isSpace c = true) (hops : ∀ o ∈ ops, o.Ok)
    (hmodes : NumberList modes) (hformats : NumberList formats) (hclosing : closings ops ≠ 0) :
    ¬ ListsOperators t (scanLine space ops modes formats) ops := by
  intro h
  have hscans : Scans (.constant (.response ⟨true, none, [scanLine space ops modes formats]⟩))
      ⟨.radioOn, []⟩ (scanLine space ops modes formats) := ⟨rfl, ⟨_, rfl, rfl, rfl⟩, rfl⟩
  have hexec := h _ _ hscans
  rw [exec_requestQueryAvailableNetworks hscans] at hexec
  obtain ⟨w1, hbody⟩ := exec_of_completing (l := _ ++ [_]) (by decide) hexec
    (by rw [asked_trace, List.append_assoc]; rfl)
  obtain ⟨w2, w3, l, found, hloop, hresponse⟩ := networkLoop_of_scanOperators hbody
  obtain ⟨fuel, done, gap, found', hgap, hnul, hall, -, hrun⟩ :=
    exec_networkLoop_scanLine hspace hops hmodes hformats
      (.constant (.response ⟨true, none, [scanLine space ops modes formats]⟩)) w2
  have hlength := hall.length_eq
  have hlt := networkLoop_supported hmodes hgap hnul (by omega) (hrun.symm.trans hloop)
  have hstrings := congrArg List.length (Payload.strs.inj hresponse)
  rw [length_flatMap_strings, ← flatMap_strings hall [], length_flatMap_strings] at hstrings
  omega

/-- A list of operators is reported if and only if no name in it has a closing parenthesis. -/
theorem listsOperators_iff (hspace : ∀ c ∈ space, isSpace c = true) (hops : ∀ o ∈ ops, o.Ok)
    (hmodes : NumberList modes) (hformats : NumberList formats) :
    ListsOperators t (scanLine space ops modes formats) ops ↔
      ∀ o ∈ ops, ∀ name ∈ o.names, ')' ∉ name := by
  rw [← closings_eq_zero]
  constructor
  · intro h
    by_contra hclosing
    exact not_listsOperators hspace hops hmodes hformats hclosing h
  · intro hclosing env w hscans
    obtain ⟨fuel, done, gap, found, -, -, hall, hcount, hrun⟩ :=
      exec_networkLoop_scanLine hspace hops hmodes hformats env (scanned env w)
    have hfound : ¬ (found.length : Int) < ((closings ops + ops.length : Nat) : Int) := by
      rw [hclosing, hall.length_eq]
      omega
    rw [networkLoop_of_found hfound, Traced.exec_pure] at hrun
    rw [exec_requestQueryAvailableNetworks hscans, exec_completing,
      exec_scanOperators hcount hrun hscans.connect, flatMap_strings hall _]
    simp [asked, scanned]

end ListsOperators

/-- The operator of the comment in the source. -/
def sfr (name : CString) : Operator := ⟨0, name, name, "20811"⟩

theorem listsOperators_sfr :
    ListsOperators 7 (scanLine " " [sfr "S.F.R."] "0-4" "0-2") [sfr "S.F.R."] :=
  (listsOperators_iff (List.all_eq_true.mp (by decide)) (by decide) (by decide) (by decide)).mpr
    (by decide)

/-- With the name that it has there, the search goes on behind the end of the line. -/
theorem umts_not_listsOperators :
    ¬ ListsOperators 7 (scanLine " " [sfr "S.F.R. (UMTS)"] "0-4" "0-2") [sfr "S.F.R. (UMTS)"] :=
  not_listsOperators (List.all_eq_true.mp (by decide)) (by decide) (by decide) (by decide) (by decide)

end AndroidPatch.Ril.Altair
