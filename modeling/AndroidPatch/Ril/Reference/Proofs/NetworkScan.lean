import AndroidPatch.Ril.Reference.Proofs.NetworkRounds

/-!
# The network scan

`requestQueryAvailableNetworks` makes a round for every three opening parentheses of the line, wherever
they stand. What it reports of a list of any operators, with the lists of modes and formats behind it or
without them.
-/

namespace AndroidPatch.Ril.Reference

open AtChannel
open Altair (Token decimal readField Operator NumberList dec plain quoted quoted_ok)

/-! ## The line -/

/-- An operator as the modem lists it, with the access technology behind it if there is one. -/
structure Group where
  operator : Operator
  act : Option Nat
  deriving DecidableEq, Repr

namespace Group

/-- What stands between the parentheses. -/
def body (g : Group) : CString :=
  dec g.operator.stat ++ ",\"" ++ g.operator.long ++ "\",\"" ++ g.operator.short ++ "\",\"" ++
    g.operator.numeric ++ "\"" ++ (g.act.map fun act : Nat => ',' :: dec act).getD []

def render (g : Group) : CString := '(' :: (g.body ++ [')'])

end Group

/-- What follows the groups: nothing, or the lists of modes and formats. -/
def tailText : Option (CString × CString) → CString
  | none => []
  | some (modes, formats) => ',' :: Altair.supported modes formats

/-- The reply to `AT+COPS=?`, with `space` behind the prefix. -/
def scanLine (space : CString) (groups : List Group) (tail : Option (CString × CString)) : CString :=
  "+COPS:" ++ space ++ [','].intercalate (groups.map Group.render) ++ tailText tail

/-- Strings in parentheses, one after the other; there is no other opening one outside them. -/
inductive Parens : List CString → CString → Prop
  | nil {gap : CString} (hgap : '(' ∉ gap) : Parens [] gap
  | cons {gap body s : CString} {bodies : List CString} (hgap : '(' ∉ gap) (h : Parens bodies s) :
      Parens (body :: bodies) (gap ++ '(' :: (body ++ ')' :: s))

theorem Parens.append {gap s : CString} {bodies : List CString} (hgap : '(' ∉ gap)
    (h : Parens bodies s) : Parens bodies (gap ++ s) := by
  cases h with
  | nil hgap' => exact .nil (by simp [hgap, hgap'])
  | cons hgap' h =>
    rw [← List.append_assoc]
    exact .cons (by simp [hgap, hgap']) h

theorem Parens.groups {bodies : List CString} {s : CString} (h : Parens bodies s) (groups : List Group) :
    Parens (groups.map Group.body ++ bodies) ([','].intercalate (groups.map Group.render) ++ s) := by
  induction groups with
  | nil => exact h
  | cons g groups ih =>
    cases groups with
    | nil =>
      have hcons := @Parens.cons [] g.body _ _ List.not_mem_nil h
      rw [List.map_singleton, List.map_singleton, List.intercalate_singleton, Group.render]
      simpa using hcons
    | cons g' groups =>
      have hcons := @Parens.cons [] g.body _ _ List.not_mem_nil (ih.append (by decide : '(' ∉ [',']))
      rw [List.map_cons, List.map_cons, List.map_cons, List.map_cons, List.intercalate_cons_cons]
      simpa [Group.render] using hcons

/-- The strings behind the groups. -/
def tailLists : Option (CString × CString) → List CString
  | none => []
  | some (modes, formats) => [modes, formats]

theorem parens_tailText (tail : Option (CString × CString)) : Parens (tailLists tail) (tailText tail) := by
  cases tail with
  | none => exact .nil List.not_mem_nil
  | some lists =>
    obtain ⟨modes, formats⟩ := lists
    have hcons := @Parens.cons [',', ','] modes _ _ (by decide)
      (@Parens.cons [','] formats [] [] (by decide) (.nil List.not_mem_nil))
    simpa [tailText, Altair.supported, tailLists] using hcons

theorem parens_scanLine {space : CString} (hspace : ∀ c ∈ space, isSpace c = true) (groups : List Group)
    (tail : Option (CString × CString)) :
    Parens (groups.map Group.body ++ tailLists tail) (scanLine space groups tail) := by
  have hgap : '(' ∉ "+COPS:" ++ space := by
    rw [List.mem_append, not_or]
    refine ⟨by decide, fun hmem => ?_⟩
    have hparen := hspace '(' hmem
    cases hparen
  unfold scanLine
  rw [List.append_assoc]
  exact ((parens_tailText tail).groups groups).append hgap

/-- The elements that hold no closing parenthesis are found whole. -/
theorem Parens.elements_append {as bs : List CString} {s : CString} (h : Parens (as ++ bs) s)
    (has : ∀ a ∈ as, ')' ∉ a) :
    ∃ rest, Parens bs rest ∧ ∀ values, Elements rest values → Elements s (as ++ values) := by
  induction as generalizing s with
  | nil => exact ⟨s, h, fun _ hvalues => hvalues⟩
  | cons a as ih =>
    cases h with
    | @cons gap _ s' _ hgap h =>
      obtain ⟨rest, hparens, helements⟩ := ih h fun b hb => has b (List.mem_cons_of_mem a hb)
      refine ⟨rest, hparens, fun values hvalues => .cons ?_ (helements values hvalues)⟩
      exact getFirstElementValue_eq_some_iff.mpr ⟨gap, rfl, hgap, has a List.mem_cons_self⟩

/-- An element ends at the first closing parenthesis. -/
theorem Parens.elements_cut {a b s : CString} {bs : List CString} (h : Parens ((a ++ ')' :: b) :: bs) s)
    (ha : ')' ∉ a) : ∃ values, Elements s (a :: values) := by
  cases h with
  | @cons gap _ s' _ hgap h =>
    obtain ⟨values, hvalues⟩ := Elements.exists (b ++ ')' :: s')
    refine ⟨values, .cons (getFirstElementValue_eq_some_iff.mpr ⟨gap, ?_, hgap, ha⟩) hvalues⟩
    simp

theorem Elements.not_mem {s : CString} {values : List CString} (h : Elements s values) :
    ∀ value ∈ values, ')' ∉ value := by
  induction h with
  | nil => exact List.forall_mem_nil _
  | cons h hrest ih =>
    obtain ⟨gap, -, -, hvalue⟩ := getFirstElementValue_eq_some_iff.mp h
    exact List.forall_mem_cons.mpr ⟨hvalue, ih⟩

/-! ## The entries of the line -/

def entryOf (o : Operator) : Entry := ⟨(o.stat : Int), o.long, o.short, o.numeric⟩

/-- An element as fields. -/
theorem Group.body_eq (g : Group) :
    g.body = (plain [] (dec g.operator.stat)).renderThen (some ((quoted g.operator.long []).renderThen
      (some ((quoted g.operator.short []).renderThen
        (some ((quoted g.operator.numeric []).renderThen (g.act.map fun act : Nat => dec act))))))) := by
  cases hact : g.act <;>
    simp [Group.body, hact, Field.renderThen, Field.render, plain, quoted]

theorem readField_render {α : Type} {r : CString → Option α} {f : Field} (hf : f.Ok) (rest : CString) :
    readField r (some (f.renderThen (some rest))) = (r f.value).map fun v => (v, some rest) := by
  rw [readField, Field.cutField_renderThen hf]
  rfl

/-- A closed quoted string is read whole, an open one to the end of the text. -/
theorem readField_quoted {value : CString} (hvalue : '"' ∉ value) (rest : Option CString) :
    ∃ ahead, readField some (some ((quoted value []).renderThen rest)) = some (value, ahead) := by
  rw [readField_string, Field.cutField_renderThen (quoted_ok hvalue List.not_mem_nil)]
  exact ⟨_, rfl⟩

theorem readField_unclosed {value : CString} (hvalue : '"' ∉ value) :
    readField some (some ('"' :: value)) = some (value, none) := by
  have hcuts := @Cuts.unclosed [] value (List.forall_mem_nil _) hvalue
  have hcut : cutField ('"' :: value) = _ := hcuts.cutField_eq
  rw [readField_string, hcut]
  rfl

theorem decimal_stat (stat : Fin 4) : decimal (dec stat) = some (stat : Int) := by
  rw [decimal, Operator.decimal_stat, if_pos rfl]

section ReadEntry

variable {g : Group}

theorem quote_not_mem {o : Operator} (ho : o.Ok) :
    '"' ∉ o.long ∧ '"' ∉ o.short ∧ '"' ∉ o.numeric :=
  ⟨(ho _ (by simp [Operator.names])).1, (ho _ (by simp [Operator.names])).1,
    (ho _ (by simp [Operator.names])).1⟩

theorem readEntry_body (hg : g.operator.Ok) : readEntry g.body = some (entryOf g.operator) := by
  obtain ⟨hlong, hshort, hnumeric⟩ := quote_not_mem hg
  obtain ⟨ahead, hlast⟩ := readField_quoted hnumeric (g.act.map fun act : Nat => dec act)
  rw [Group.body_eq, readEntry, readField_render (Operator.plain_stat_ok _)]
  rw [show (plain [] (dec g.operator.stat)).value = dec g.operator.stat from rfl, decimal_stat]
  simp only [readStrings, Option.map_some, Option.bind_eq_bind, Option.bind_some,
    readField_render (quoted_ok hlong List.not_mem_nil),
    readField_render (quoted_ok hshort List.not_mem_nil), hlast]
  rfl

/-- A group that is cut inside a name of its operator has no numeric code. -/
theorem exists_cut_of_mem (hg : g.operator.Ok) (hmem : ')' ∈ g.operator.long ∨ ')' ∈ g.operator.short) :
    ∃ a b, g.body = a ++ ')' :: b ∧ ')' ∉ a ∧ readEntry a = none := by
  obtain ⟨hlong, hshort, -⟩ := quote_not_mem hg
  have hstat : ')' ∉ dec g.operator.stat := Altair.not_mem_dec (by decide) _
  rcases cutAt_cases ')' g.operator.long with ⟨hno, -⟩ | ⟨x, y, heq, hx, -⟩
  · obtain ⟨x, y, heq, hx⟩ := List.eq_append_cons_of_mem (hmem.resolve_left hno)
    have hquote : '"' ∉ x := fun h => hshort (by simp [heq, h])
    refine ⟨(plain [] (dec g.operator.stat)).renderThen (some ((quoted g.operator.long []).renderThen
      (some ('"' :: x)))), y ++ "\",\"" ++ g.operator.numeric ++ "\"" ++
        (g.act.map fun act : Nat => ',' :: dec act).getD [], ?_, ?_, ?_⟩
    · simp [Group.body, heq, Field.renderThen, Field.render, plain, quoted]
    · simp [Field.renderThen, Field.render, plain, quoted, hstat, hno, hx]
    · rw [readEntry, readField_render (Operator.plain_stat_ok _)]
      rw [show (plain [] (dec g.operator.stat)).value = dec g.operator.stat from rfl, decimal_stat]
      simp only [readStrings, Option.map_some, Option.bind_eq_bind, Option.bind_some,
        readField_render (quoted_ok hlong List.not_mem_nil), readField_unclosed hquote]
      rfl
  · have hquote : '"' ∉ x := fun h => hlong (by simp [heq, h])
    refine ⟨(plain [] (dec g.operator.stat)).renderThen (some ('"' :: x)),
      y ++ "\",\"" ++ g.operator.short ++ "\",\"" ++ g.operator.numeric ++ "\"" ++
        (g.act.map fun act : Nat => ',' :: dec act).getD [], ?_, ?_, ?_⟩
    · simp [Group.body, heq, Field.renderThen, Field.render, plain]
    · simp [Field.renderThen, Field.render, plain, hstat, hx]
    · rw [readEntry, readField_render (Operator.plain_stat_ok _)]
      rw [show (plain [] (dec g.operator.stat)).value = dec g.operator.stat from rfl, decimal_stat]
      simp only [readStrings, Option.map_some, Option.bind_eq_bind, Option.bind_some,
        readField_unclosed hquote]
      rfl

end ReadEntry

/-- A field and what is ahead behind it are parts of what was ahead. -/
theorem mem_of_readField {α : Type} {r : CString → Option α} {s : CString} {v : α}
    {ahead : Option CString} (h : readField r (some s) = some (v, ahead)) {c : Char} :
    (c ∈ (cutField s).token → c ∈ s) ∧ ∀ s', ahead = some s' → c ∈ s' → c ∈ s := by
  obtain ⟨v', -, hv⟩ := Option.map_eq_some_iff.mp h
  cases hv
  generalize hcut : cutField s = cut
  have hcuts : Cuts s cut := hcut ▸ cuts_cutField s
  cases hcuts <;> simp_all

theorem not_mem_numeric {value : CString} {e : Entry} (h : readEntry value = some e) {c : Char}
    (hc : c ∉ value) : c ∉ e.numeric := by
  obtain ⟨⟨status, ahead1⟩, h1, h⟩ := Option.bind_eq_some_iff.mp h
  obtain ⟨⟨long, short, numeric⟩, hstrings, h⟩ := Option.bind_eq_some_iff.mp h
  cases h
  obtain ⟨⟨_, ahead2⟩, h2, h⟩ := Option.bind_eq_some_iff.mp hstrings
  obtain ⟨⟨_, ahead3⟩, h3, h⟩ := Option.bind_eq_some_iff.mp h
  obtain ⟨⟨_, ahead4⟩, h4, h⟩ := Option.bind_eq_some_iff.mp h
  cases h
  cases ahead1 with
  | none => cases h2
  | some s1 =>
    cases ahead2 with
    | none => cases h3
    | some s2 =>
      cases ahead3 with
      | none => cases h4
      | some s3 =>
        intro hmem
        have htoken : numeric = (cutField s3).token := by
          rw [readField_string] at h4
          cases h4
          rfl
        rw [htoken] at hmem
        have hs3 := (mem_of_readField h4).1 hmem
        have hs2 := (mem_of_readField h3).2 s3 rfl hs3
        have hs1 := (mem_of_readField h2).2 s2 rfl hs2
        exact hc ((mem_of_readField h1).2 s1 rfl hs1)

/-! ## The lists behind the groups -/

/-- The field behind `n` commas. -/
def commaField : Nat → CString → Option CString
  | 0, s => some (cutAt ',' s).1
  | n + 1, s => (cutAt ',' s).2.bind (commaField n)

/-- A text without quotes and white space is cut at its first comma. -/
theorem readField_plain {α : Type} {r : CString → Option α} {s : CString}
    (hs : ∀ c ∈ s, c ≠ '"' ∧ isSpace c = false) :
    readField r (some s) = (r (cutAt ',' s).1).map fun v => (v, (cutAt ',' s).2) := by
  rcases cutAt_cases ',' s with ⟨hcomma, hcut⟩ | ⟨a, b, rfl, ha, hcut⟩
  · have hcuts := @Cuts.last [] s (List.forall_mem_nil _) (fun c hc => hs c (List.mem_of_mem_head? hc))
      hcomma
    have hfield : cutField s = _ := hcuts.cutField_eq
    rw [readField, hfield, hcut]
    rfl
  · have hcuts := @Cuts.unquoted [] a b (List.forall_mem_nil _)
      (fun c hc => hs c (List.mem_append_left _ (List.mem_of_mem_head? hc))) ha
    have hfield : cutField (a ++ ',' :: b) = _ := hcuts.cutField_eq
    rw [readField, hfield, hcut]
    rfl

theorem forall_mem_of_cutAt {p : Char → Prop} {s rest : CString} (hs : ∀ c ∈ s, p c)
    (h : (cutAt ',' s).2 = some rest) : ∀ c ∈ rest, p c := by
  rcases cutAt_cases ',' s with ⟨-, hcut⟩ | ⟨a, b, rfl, -, hcut⟩
  · rw [hcut] at h
    cases h
  · rw [hcut] at h
    cases h
    exact fun c hc => hs c (by simp [hc])

theorem numberList_plain {s : CString} (h : NumberList s) : ∀ c ∈ s, c ≠ '"' ∧ isSpace c = false := by
  intro c hc
  rcases h.chars c hc with hdigit | rfl | rfl
  · exact ⟨ne_of_digit hdigit (by decide), isSpace_of_digit hdigit⟩
  · decide
  · decide

/-- A list of numbers begins with one. -/
theorem exists_decimal {s : CString} (h : NumberList s) : ∃ v, decimal (cutAt ',' s).1 = some v := by
  obtain ⟨c, t, rfl⟩ : ∃ c t, s = c :: t := by
    cases s with
    | nil => exact absurd h.head (by decide)
    | cons c t => exact ⟨c, t, rfl⟩
  have hdigit : (digitVal 10 c).isSome = true := h.head
  have hne : c ≠ ',' := ne_of_digit hdigit (by decide)
  obtain ⟨t', heq⟩ : ∃ t', (cutAt ',' (c :: t)).1 = c :: t' := by
    rcases cutAt_cases ',' (c :: t) with ⟨-, hcut⟩ | ⟨a, b, hab, -, hcut⟩
    · exact ⟨t, by rw [hcut]⟩
    · cases a with
      | nil => exact absurd (List.cons.inj hab).1 hne
      | cons d a =>
        obtain ⟨rfl, -⟩ := List.cons.inj hab
        exact ⟨a, by rw [hcut]⟩
  rw [heq, decimal, strtol_of_digit hdigit t']
  exact ⟨_, rfl⟩

/-- The code that a list of numbers gives is its fourth. -/
theorem readEntry_numberList {s : CString} (h : NumberList s) :
    (readEntry s).map Entry.numeric = commaField 3 s := by
  have hs := numberList_plain h
  obtain ⟨v, hv⟩ := exists_decimal h
  rw [readEntry, readField_plain hs, hv]
  simp only [readStrings, Option.map_some, Option.bind_eq_bind, Option.bind_some, commaField]
  cases h1 : (cutAt ',' s).2 with
  | none => rfl
  | some s1 =>
    have hs1 := forall_mem_of_cutAt hs h1
    rw [readField_plain hs1]
    simp only [Option.map_some, Option.bind_some]
    cases h2 : (cutAt ',' s1).2 with
    | none => rfl
    | some s2 =>
      have hs2 := forall_mem_of_cutAt hs1 h2
      rw [readField_plain hs2]
      simp only [Option.map_some, Option.bind_some]
      cases h3 : (cutAt ',' s2).2 with
      | none => rfl
      | some s3 =>
        rw [readField_plain (forall_mem_of_cutAt hs2 h3)]
        rfl

/-- What is no digit, no comma and no quote stands in the body only inside a name. -/
theorem not_mem_body {c : Char} {g : Group} (hdigit : c.isDigit = false) (hcomma : c ≠ ',')
    (hquote : c ≠ '"') (hnames : ∀ name ∈ g.operator.names, c ∉ name) : c ∉ g.body := by
  have hstat : c ∉ dec g.operator.stat := Altair.not_mem_dec hdigit _
  have hlong := hnames g.operator.long (by simp [Operator.names])
  have hshort := hnames g.operator.short (by simp [Operator.names])
  have hnumeric := hnames g.operator.numeric (by simp [Operator.names])
  have hact : c ∉ (g.act.map fun act : Nat => ',' :: dec act).getD [] := by
    cases g.act with
    | none => exact List.not_mem_nil
    | some act =>
      have hdec : c ∉ dec act := Altair.not_mem_dec hdigit act
      simpa [hcomma] using hdec
  simp only [Group.body]
  simpa [hcomma, hquote] using ⟨hstat, hlong, hshort, hnumeric, hact⟩

/-- The lists of modes and formats are lists of numbers. -/
def TailOk : Option (CString × CString) → Prop
  | none => True
  | some (modes, formats) => NumberList modes ∧ NumberList formats

theorem numberList_of_tailLists {tail : Option (CString × CString)} (htail : TailOk tail) :
    ∀ list ∈ tailLists tail, NumberList list := by
  cases tail with
  | none => exact List.forall_mem_nil _
  | some lists =>
    rw [tailLists, List.forall_mem_cons, List.forall_mem_singleton]
    exact htail

theorem nul_not_mem_scanLine {space : CString} (hspace : ∀ c ∈ space, isSpace c = true)
    {groups : List Group} (hgroups : ∀ g ∈ groups, g.operator.Ok) {tail : Option (CString × CString)}
    (htail : TailOk tail) : nul ∉ scanLine space groups tail := by
  have hspace' : nul ∉ space := fun hmem => by
    have hnul := hspace nul hmem
    cases hnul
  have hgroups' : nul ∉ [','].intercalate (groups.map Group.render) := by
    induction groups with
    | nil => exact List.not_mem_nil
    | cons g groups ih =>
      have hrender : nul ∉ g.render := by
        have hbody : nul ∉ g.body := not_mem_body (by decide) (by decide) (by decide)
          fun name hname => (hgroups g List.mem_cons_self name hname).2
        simpa [Group.render, nul] using hbody
      have hrest := ih fun g' hg' => hgroups g' (List.mem_cons_of_mem g hg')
      cases groups with
      | nil =>
        rw [List.map_singleton, List.intercalate_singleton]
        exact hrender
      | cons g' groups =>
        rw [List.map_cons] at hrest
        rw [List.map_cons, List.map_cons, List.intercalate_cons_cons, List.append_assoc]
        rw [List.mem_append, List.mem_append, not_or, not_or]
        exact ⟨hrender, by decide, hrest⟩
  have htail' : nul ∉ tailText tail := by
    cases tail with
    | none => exact List.not_mem_nil
    | some lists =>
      have hmodes : nul ∉ lists.1 := htail.1.not_mem rfl (by decide) (by decide)
      have hformats : nul ∉ lists.2 := htail.2.not_mem rfl (by decide) (by decide)
      simpa [tailText, Altair.supported, nul] using ⟨hmodes, hformats⟩
  unfold scanLine
  rw [List.mem_append, List.mem_append, List.mem_append, not_or, not_or, not_or]
  exact ⟨⟨⟨by decide, hspace'⟩, hgroups'⟩, htail'⟩

/-! ## The request -/

/-- How many rounds a line gets, and how many operators the array has room for. -/
def rounds (line : CString) : Nat := line.count '(' / 3

/-- The request up to its completion. -/
theorem exec_requestQueryAvailableNetworks {env : Env} {w : World Store Event} {line : CString}
    {final : Option CString} {lines : List CString} {values : List CString} (hline : nul ∉ line)
    (hreply : nextReply (.multiline "+COPS:") env w = .response ⟨true, final, line :: lines⟩)
    (h : Elements line values) (t : Token) :
    ∃ l, (requestQueryAvailableNetworks t).exec env w = (.ok (), asked w
        (.at "AT+COPS=?" (nextReply (.multiline "+COPS:") env w) :: (l ++
          [completion t .genericFailure ((visit (rounds line) values []).map fun es =>
            .strs ((es.map (Entry.network env)).flatMap Network.strings))]))) ∧
      ∀ found, visit (rounds line) values [] = some found → (∀ e ∈ found, e.Known) → l = [] := by
  have hask := exec_asked (.multiline "+COPS:") "AT+COPS=?" env w
  obtain ⟨l, hexec, hnil⟩ := @exec_networkLoop _ _ h hline (rounds line) (rounds line) []
    (Nat.le_of_eq (Nat.zero_add _)) env
    (asked w [.at "AT+COPS=?" (nextReply (.multiline "+COPS:") env w)])
  refine ⟨l, ?_, hnil⟩
  rw [hreply] at hask hexec ⊢
  unfold requestQueryAvailableNetworks atSendCommandMultiline
  refine (@exec_completing_of _ _ _ _ _
    (asked w (.at "AT+COPS=?" (.response ⟨true, final, line :: lines⟩) :: l))
    ((visit (rounds line) values []).map fun es =>
      .strs ((es.map (Entry.network env)).flatMap Network.strings))
    ((Block.exec_lift_bind_of_ok hask).trans ?_)).trans ?_
  · rw [Block.exec_bind_of_some (exec_succeeded _ _ _ _)]
    dsimp only
    have hexec' : (networkLoop (line.count '(' / 3) (line.count '(' / 3) line []).exec env _ = _ := hexec
    rw [Block.exec_bind, hexec']
    cases visit (rounds line) values [] with
    | none => simp [asked]
    | some found => simp [asked]
  · simp [asked]

/-- Each numeric code is reported once, with the names and the status of the first operator that has it,
    and nothing is read or stored outside an array. -/
def ListsEachOnce (t : Token) (line : CString) (ops : List Operator) : Prop :=
  ∀ env w final lines,
    nextReply (.multiline "+COPS:") env w = .response ⟨true, final, line :: lines⟩ →
    (requestQueryAvailableNetworks t).exec env w = (.ok (), asked w
      [.at "AT+COPS=?" (nextReply (.multiline "+COPS:") env w),
        .complete t .success (.strs ((firstOfEach Operator.numeric ops).flatMap Operator.strings))])

theorem statusOf_stat (env : Env) (o : Operator) : statusOf env (o.stat : Int) = o.status := by
  obtain ⟨stat, long, short, numeric⟩ := o
  have hstat : stat = 0 ∨ stat = 1 ∨ stat = 2 ∨ stat = 3 := by omega
  rcases hstat with rfl | rfl | rfl | rfl <;> rfl

theorem strings_entryOf (env : Env) (ops : List Operator) :
    ((ops.map entryOf).map (Entry.network env)).flatMap Network.strings =
      ops.flatMap Operator.strings := by
  rw [List.map_map, List.flatMap_map]
  congr 1
  funext o
  rw [Function.comp_apply, Operator.strings, ← statusOf_stat env o]
  rfl

theorem known_entryOf (o : Operator) : (entryOf o).Known := by
  have hlt : o.stat.val < 4 := o.stat.isLt
  refine ⟨Int.natCast_nonneg _, ?_⟩
  show ((o.stat.val : Nat) : Int) < 4
  omega

section ListsEachOnce

variable {t : Token} {line : CString} {ops : List Operator} {values : List CString}

theorem listsEachOnce_of_visit (hline : nul ∉ line) (h : Elements line values)
    (hvisit : visit (rounds line) values [] = some ((firstOfEach Operator.numeric ops).map entryOf)) :
    ListsEachOnce t line ops := by
  intro env w final lines hreply
  obtain ⟨l, hexec, hnil⟩ := exec_requestQueryAvailableNetworks hline hreply h t
  have hl : l = [] := by
    refine hnil _ hvisit fun e he => ?_
    obtain ⟨o, -, rfl⟩ := List.mem_map.mp he
    exact known_entryOf o
  rw [hexec, hvisit, hl, Option.map_some, strings_entryOf]
  rfl

theorem numerics_of_strings {found : List Network}
    (h : found.flatMap Network.strings = ops.flatMap Operator.strings) :
    found.map Network.numeric = ops.map Operator.numeric := by
  induction found generalizing ops with
  | nil =>
    cases ops with
    | nil => rfl
    | cons o ops => cases h
  | cons n found ih =>
    cases ops with
    | nil => cases h
    | cons o ops =>
      simp only [List.flatMap_cons, Network.strings, Operator.strings, List.cons_append,
        List.nil_append, List.cons.injEq, Option.some.injEq] at h
      rw [List.map_cons, List.map_cons, h.2.2.1, ih h.2.2.2.2]

theorem visit_of_listsEachOnce (hline : nul ∉ line) (h : Elements line values)
    (hlists : ListsEachOnce t line ops) : ∃ es, visit (rounds line) values [] = some es ∧
      es.map Entry.numeric = (firstOfEach Operator.numeric ops).map Operator.numeric := by
  have hreply : nextReply (.multiline "+COPS:") (.telling [line]) ⟨.radioOn, []⟩ =
      .response ⟨true, some "OK".toList, [line]⟩ := rfl
  obtain ⟨l, hexec, -⟩ := exec_requestQueryAvailableNetworks hline hreply h t
  have htrace := congrArg (fun r => r.2.trace) (hexec.symm.trans (hlists _ _ _ _ hreply))
  have hlast := List.append_inj' (show l ++ [_] = [] ++ [_] from (List.cons.inj htrace).2) rfl
  obtain ⟨es, hvisit, hstrs⟩ := Option.map_eq_some_iff.mp
    (completion_eq_success (by decide) (List.singleton_inj.mp hlast.2))
  refine ⟨es, hvisit, ?_⟩
  rw [← numerics_of_strings (Payload.strs.inj hstrs), List.map_map]
  rfl

end ListsEachOnce

/-! ## The lists that are reported -/

/-- The rounds for groups that are found whole. -/
theorem visit_groups {n : Nat} {groups : List Group} {values : List CString}
    (hgroups : ∀ g ∈ groups, g.operator.Ok) (hmore : values ≠ [] ∨ n = 0) :
    visit (n + groups.length) (groups.map Group.body ++ values) [] =
      visit n values ((firstOfEach Operator.numeric (groups.map Group.operator)).map entryOf) := by
  have hread : (groups.map Group.body).map readEntry =
      ((groups.map Group.operator).map entryOf).map some := by
    rw [List.map_map, List.map_map, List.map_map]
    exact List.map_congr_left fun g hg => readEntry_body (hgroups g hg)
  have hvisit := @visit_append n values [] _ _ hread hmore
  rw [List.length_map, addNew_nil, firstOfEach_map] at hvisit
  exact hvisit

/-- When the operators of a line are reported: `n` is the number of its rounds. -/
structure ScanFits (n : Nat) (ops : List Operator) (tail : Option (CString × CString)) : Prop where
  /-- the operators that are reached have no closing parenthesis in a name -/
  whole : ∀ o ∈ ops.take n, ∀ name ∈ o.names, ')' ∉ name
  /-- the others bring no new code -/
  reached : ∀ o ∈ ops.drop n, o.numeric ∈ (ops.take n).map Operator.numeric
  /-- with rounds left, the loop ends at the last operator, or the lists behind it look like old ones -/
  ends : ops.length < n → match tail with
    | none => ∃ init last, ops = init ++ [last] ∧ last.numeric ∉ init.map Operator.numeric
    | some (modes, formats) => n ≤ ops.length + 2 ∧
        ∀ list ∈ [modes, formats].take (n - ops.length),
          ∃ code ∈ ops.map Operator.numeric, commaField 3 list = some code

section ScanFits

variable {n : Nat} {s : CString} {groups : List Group} {tail : Option (CString × CString)}

/-- Groups without closing parentheses in their names are found whole. -/
theorem elements_groups {bodies : List CString} (h : Parens (groups.map Group.body ++ bodies) s)
    (hwhole : ∀ o ∈ groups.map Group.operator, ∀ name ∈ o.names, ')' ∉ name) :
    ∃ rest, Parens bodies rest ∧
      ∀ values, Elements rest values → Elements s (groups.map Group.body ++ values) := by
  refine h.elements_append fun a ha => ?_
  obtain ⟨g, hg, rfl⟩ := List.mem_map.mp ha
  exact not_mem_body (by decide) (by decide) (by decide) (hwhole g.operator (List.mem_map_of_mem hg))

/-- The rounds do not go behind the last group. -/
theorem visit_of_le (hgroups : ∀ g ∈ groups, g.operator.Ok)
    (hparens : Parens (groups.map Group.body ++ tailLists tail) s) (hle : n ≤ groups.length)
    (hwhole : ∀ o ∈ (groups.map Group.operator).take n, ∀ name ∈ o.names, ')' ∉ name) :
    ∃ values, Elements s values ∧ visit n values [] =
      some ((firstOfEach Operator.numeric ((groups.map Group.operator).take n)).map entryOf) := by
  have hsplit : groups.map Group.body ++ tailLists tail =
      (groups.take n).map Group.body ++ ((groups.drop n).map Group.body ++ tailLists tail) := by
    rw [← List.append_assoc, ← List.map_append, List.take_append_drop]
  rw [hsplit] at hparens
  rw [← List.map_take] at hwhole ⊢
  obtain ⟨rest, -, helements⟩ := elements_groups hparens hwhole
  obtain ⟨values, hvalues⟩ := Elements.exists rest
  refine ⟨_, helements values hvalues, ?_⟩
  have hvisit := @visit_groups 0 (groups.take n) values
    (fun g hg => hgroups g (List.mem_of_mem_take hg)) (.inr rfl)
  rw [List.length_take_of_le hle, Nat.zero_add] at hvisit
  exact hvisit

/-- Rounds that go on behind the last group. -/
theorem visit_of_lt_some {modes formats : CString} (hgroups : ∀ g ∈ groups, g.operator.Ok)
    (hparens : Parens (groups.map Group.body ++ [modes, formats]) s) (hmodes : ')' ∉ modes)
    (hformats : ')' ∉ formats) (hlt : groups.length < n)
    (hwhole : ∀ o ∈ groups.map Group.operator, ∀ name ∈ o.names, ')' ∉ name) :
    ∃ values, Elements s values ∧ visit n values [] = visit (n - groups.length) [modes, formats]
      ((firstOfEach Operator.numeric (groups.map Group.operator)).map entryOf) := by
  obtain ⟨rest, htail, helements⟩ := elements_groups hparens hwhole
  have hlists : Elements rest ([modes, formats] ++ []) := by
    obtain ⟨rest', hnil, hrest⟩ := @Parens.elements_append [modes, formats] [] _ htail
      (by rw [List.forall_mem_cons, List.forall_mem_singleton]; exact ⟨hmodes, hformats⟩)
    cases hnil with
    | nil hgap => exact hrest [] (.nil (getFirstElementValue_of_not_mem hgap))
  refine ⟨_, helements _ hlists, ?_⟩
  have hvisit := @visit_groups (n - groups.length) groups [modes, formats] hgroups (.inl (by simp))
  rw [Nat.sub_add_cancel (Nat.le_of_lt hlt)] at hvisit
  exact hvisit

/-- Nothing stands behind the last group. -/
theorem visit_of_lt_none {g : Group} (hgroups : ∀ g' ∈ groups ++ [g], g'.operator.Ok)
    (hparens : Parens ((groups ++ [g]).map Group.body) s) (hlt : groups.length + 1 < n)
    (hwhole : ∀ o ∈ (groups ++ [g]).map Group.operator, ∀ name ∈ o.names, ')' ∉ name) :
    ∃ values, Elements s values ∧ visit n values [] =
      if g.operator.numeric ∈ (groups.map Group.operator).map Operator.numeric then none
      else some ((firstOfEach Operator.numeric ((groups ++ [g]).map Group.operator)).map entryOf) := by
  rw [← List.append_nil ((groups ++ [g]).map Group.body)] at hparens
  obtain ⟨rest, hnil, helements⟩ := elements_groups hparens hwhole
  have hrest : Elements rest [] := by
    cases hnil with
    | nil hgap => exact .nil (getFirstElementValue_of_not_mem hgap)
  refine ⟨_, helements _ hrest, ?_⟩
  obtain ⟨m, rfl⟩ : ∃ m, n = m + 2 + groups.length := ⟨n - groups.length - 2, by omega⟩
  rw [List.append_nil, List.map_append, List.map_singleton,
    visit_groups (fun g' hg' => hgroups g' (List.mem_append_left _ hg')) (.inl (by simp)),
    visit_cons, readEntry_body (hgroups g (by simp)), Option.bind_some]
  have hkeys : ((firstOfEach Operator.numeric (groups.map Group.operator)).map entryOf).map Entry.numeric =
      (firstOfEach Operator.numeric (groups.map Group.operator)).map Operator.numeric := by
    rw [List.map_map]
    rfl
  have hmem : (entryOf g.operator).numeric ∈
      ((firstOfEach Operator.numeric (groups.map Group.operator)).map entryOf).map Entry.numeric ↔
        g.operator.numeric ∈ (groups.map Group.operator).map Operator.numeric := by
    rw [hkeys]
    exact mem_keys_firstOfEach
  by_cases hold : g.operator.numeric ∈ (groups.map Group.operator).map Operator.numeric
  · rw [if_pos (hmem.mpr hold), if_pos hold]
    rfl
  · have hnew : firstOfEach Operator.numeric ((groups ++ [g]).map Group.operator) =
        firstOfEach Operator.numeric (groups.map Group.operator) ++ [g.operator] := by
      rw [List.map_append, firstOfEach_append]
      congr 1
      exact List.filter_cons_of_pos (by simpa using hold)
    rw [if_neg fun h => hold (hmem.mp h), if_pos rfl, if_neg hold, hnew, List.map_append]
    rfl

end ScanFits

/-- The first element that does not have a property, where one of the first `n` does not. -/
theorem exists_first {α : Type} {p : α → Prop} {l : List α} {n : Nat} (h : ¬ ∀ a ∈ l.take n, p a) :
    ∃ pre a post, l = pre ++ a :: post ∧ pre.length < n ∧ (∀ b ∈ pre, p b) ∧ ¬ p a := by
  induction l generalizing n with
  | nil => simp at h
  | cons a l ih =>
    cases n with
    | zero => simp at h
    | succ n =>
      by_cases ha : p a
      · have hrest : ¬ ∀ b ∈ l.take n, p b := fun hall =>
          h (List.forall_mem_cons.mpr ⟨ha, hall⟩)
        obtain ⟨pre, b, post, rfl, hlen, hpre, hb⟩ := ih hrest
        exact ⟨a :: pre, b, post, rfl, Nat.succ_lt_succ hlen, List.forall_mem_cons.mpr ⟨ha, hpre⟩, hb⟩
      · exact ⟨[], a, l, rfl, Nat.succ_pos n, List.forall_mem_nil _, ha⟩

section ListsEachOnceIff

variable {t : Token} {space : CString} {groups : List Group} {tail : Option (CString × CString)}

theorem listsEachOnce_of_scanFits (hspace : ∀ c ∈ space, isSpace c = true)
    (hgroups : ∀ g ∈ groups, g.operator.Ok) (htail : TailOk tail)
    (h : ScanFits (rounds (scanLine space groups tail)) (groups.map Group.operator) tail) :
    ListsEachOnce t (scanLine space groups tail) (groups.map Group.operator) := by
  have hline := nul_not_mem_scanLine hspace hgroups htail
  have hparens := parens_scanLine hspace groups tail
  generalize scanLine space groups tail = line at *
  obtain ⟨hwhole, hreached, hends⟩ := h
  rw [List.length_map] at hends
  rcases Nat.lt_or_ge groups.length (rounds line) with hlt | hle
  · rw [List.take_of_length_le (by rw [List.length_map]; omega)] at hwhole
    have hends := hends hlt
    cases tail with
    | none =>
      obtain ⟨init, last, heq, hnew⟩ := hends
      obtain ⟨ginit, glast, rfl, rfl, hlast⟩ := List.map_eq_append_iff.mp heq
      obtain ⟨g, rfl, rfl⟩ := List.map_eq_singleton_iff.mp hlast
      rw [List.length_append, List.length_singleton] at hlt
      rw [show tailLists none = [] from rfl, List.append_nil] at hparens
      obtain ⟨values, hvalues, hvisit⟩ := visit_of_lt_none hgroups hparens hlt hwhole
      rw [if_neg hnew] at hvisit
      exact listsEachOnce_of_visit hline hvalues hvisit
    | some lists =>
      obtain ⟨modes, formats⟩ := lists
      obtain ⟨hle, hold⟩ := hends
      have hnumbers := numberList_of_tailLists htail
      obtain ⟨values, hvalues, hvisit⟩ := visit_of_lt_some hgroups hparens
        (htail.1.not_mem rfl (by decide) (by decide)) (htail.2.not_mem rfl (by decide) (by decide)) hlt
        hwhole
      refine listsEachOnce_of_visit hline hvalues (hvisit.trans (visit_old ?_ fun list hlist => ?_))
      · show rounds line - groups.length ≤ 2
        omega
      · obtain ⟨code, hcode, hfield⟩ := hold list hlist
        rw [← readEntry_numberList (hnumbers list (List.mem_of_mem_take hlist))] at hfield
        obtain ⟨e, hentry, rfl⟩ := Option.map_eq_some_iff.mp hfield
        refine ⟨e, hentry, ?_⟩
        rw [← mem_keys_firstOfEach] at hcode
        rw [List.map_map]
        exact hcode
  · obtain ⟨values, hvalues, hvisit⟩ := visit_of_le hgroups hparens hle hwhole
    have hall : firstOfEach Operator.numeric (groups.map Group.operator) =
        firstOfEach Operator.numeric ((groups.map Group.operator).take (rounds line)) := by
      have hiff := @firstOfEach_append_eq_iff _ _ _ Operator.numeric
        ((groups.map Group.operator).take (rounds line)) ((groups.map Group.operator).drop (rounds line))
      rw [List.take_append_drop] at hiff
      exact hiff.mpr hreached
    rw [← hall] at hvisit
    exact listsEachOnce_of_visit hline hvalues hvisit

/-- A group that is reached with a closing parenthesis in a name: the scan fails, or the code of the group
    is not in what is reported. -/
theorem whole_of_listsEachOnce {line : CString} (hgroups : ∀ g ∈ groups, g.operator.Ok)
    (hline : nul ∉ line) (hparens : Parens (groups.map Group.body ++ tailLists tail) line)
    (h : ListsEachOnce t line (groups.map Group.operator)) :
    ∀ o ∈ (groups.map Group.operator).take (rounds line), ∀ name ∈ o.names, ')' ∉ name := by
  by_contra hno
  rw [← List.map_take, List.forall_mem_map] at hno
  obtain ⟨pre, g, post, rfl, hlen, hpre, hg⟩ := exists_first hno
  by_cases hnames : ')' ∈ g.operator.long ∨ ')' ∈ g.operator.short
  · obtain ⟨a, b, hbody, ha, hentry⟩ := exists_cut_of_mem (hgroups g (by simp)) hnames
    rw [List.map_append, List.map_cons, List.append_assoc, List.cons_append, hbody] at hparens
    obtain ⟨rest, hrest, helements⟩ := elements_groups hparens (List.forall_mem_map.mpr hpre)
    obtain ⟨values, hvalues⟩ := hrest.elements_cut ha
    obtain ⟨es, hvisit, -⟩ := visit_of_listsEachOnce hline (helements _ hvalues) h
    obtain ⟨m, hm⟩ : ∃ m, rounds line = m + 1 + pre.length := ⟨rounds line - pre.length - 1, by omega⟩
    rw [hm, visit_groups (fun g' hg' => hgroups g' (List.mem_append_left _ hg')) (.inl (by simp)), visit_cons,
      hentry] at hvisit
    cases hvisit
  · have hnumeric : ')' ∈ g.operator.numeric := by
      by_contra hnumeric
      refine hg fun name hname => ?_
      simp only [Operator.names, List.mem_cons, List.not_mem_nil, or_false] at hname
      rw [not_or] at hnames
      rcases hname with rfl | rfl | rfl
      · exact hnames.1
      · exact hnames.2
      · exact hnumeric
    obtain ⟨values, hvalues⟩ := Elements.exists line
    obtain ⟨es, hvisit, hcodes⟩ := visit_of_listsEachOnce hline hvalues h
    have hcode : g.operator.numeric ∈ es.map Entry.numeric := by
      rw [hcodes, mem_keys_firstOfEach]
      simp
    obtain ⟨e, he, heq⟩ := List.mem_map.mp hcode
    rcases mem_of_visit hvisit e he with hnil | ⟨value, hvalue, hentry⟩
    · cases hnil
    · rw [← heq] at hnumeric
      exact not_mem_numeric hentry (hvalues.not_mem value hvalue) hnumeric

theorem scanFits_of_listsEachOnce (hspace : ∀ c ∈ space, isSpace c = true)
    (hgroups : ∀ g ∈ groups, g.operator.Ok) (htail : TailOk tail)
    (h : ListsEachOnce t (scanLine space groups tail) (groups.map Group.operator)) :
    ScanFits (rounds (scanLine space groups tail)) (groups.map Group.operator) tail := by
  have hline := nul_not_mem_scanLine hspace hgroups htail
  have hparens := parens_scanLine hspace groups tail
  have hwhole := whole_of_listsEachOnce hgroups hline hparens h
  generalize scanLine space groups tail = line at *
  have hkeys : ∀ es : List Entry, ∀ ops : List Operator,
      es = (firstOfEach Operator.numeric ops).map entryOf →
      es.map Entry.numeric = (firstOfEach Operator.numeric (groups.map Group.operator)).map
        Operator.numeric →
      ∀ o ∈ groups.map Group.operator, o.numeric ∈ ops.map Operator.numeric := by
    rintro _ ops rfl hcodes o ho
    rw [List.map_map] at hcodes
    rw [← mem_keys_firstOfEach]
    show o.numeric ∈ (firstOfEach Operator.numeric ops).map (Entry.numeric ∘ entryOf)
    rw [hcodes, mem_keys_firstOfEach]
    exact List.mem_map_of_mem ho
  refine ⟨hwhole, ?_, fun hlt => ?_⟩
  · rcases Nat.lt_or_ge groups.length (rounds line) with hlt | hle
    · rw [List.drop_of_length_le (by rw [List.length_map]; omega)]
      exact List.forall_mem_nil _
    · obtain ⟨values, hvalues, hvisit⟩ := visit_of_le hgroups hparens hle hwhole
      obtain ⟨es, hes, hcodes⟩ := visit_of_listsEachOnce hline hvalues h
      rw [hvisit] at hes
      cases hes
      exact fun o ho => hkeys _ _ rfl hcodes o (List.mem_of_mem_drop ho)
  · rw [List.length_map] at hlt ⊢
    rw [List.take_of_length_le (by rw [List.length_map]; omega)] at hwhole
    cases tail with
    | none =>
      rw [show tailLists none = [] from rfl, List.append_nil] at hparens
      rcases List.eq_nil_or_concat' groups with rfl | ⟨init, g, rfl⟩
      · have hnil : Elements line [] := by
          cases hparens with
          | nil hgap => exact .nil (getFirstElementValue_of_not_mem hgap)
        obtain ⟨es, hvisit, -⟩ := visit_of_listsEachOnce hline hnil h
        obtain ⟨m, hm⟩ : ∃ m, rounds line = m + 1 := ⟨rounds line - 1, by omega⟩
        rw [hm] at hvisit
        cases hvisit
      · rw [List.length_append, List.length_singleton] at hlt
        obtain ⟨values, hvalues, hvisit⟩ := visit_of_lt_none hgroups hparens hlt hwhole
        obtain ⟨es, hes, -⟩ := visit_of_listsEachOnce hline hvalues h
        refine ⟨init.map Group.operator, g.operator, by simp, fun hold => ?_⟩
        rw [hvisit, if_pos hold] at hes
        cases hes
    | some lists =>
      obtain ⟨modes, formats⟩ := lists
      have hnumbers := numberList_of_tailLists htail
      obtain ⟨values, hvalues, hvisit⟩ := visit_of_lt_some hgroups hparens
        (htail.1.not_mem rfl (by decide) (by decide)) (htail.2.not_mem rfl (by decide) (by decide)) hlt
        hwhole
      obtain ⟨es, hes, hcodes⟩ := visit_of_listsEachOnce hline hvalues h
      rw [hvisit] at hes
      obtain ⟨hle, hold⟩ := old_of_visit hes (by rw [hcodes, List.map_map]; rfl)
      refine ⟨?_, fun list hlist => ?_⟩
      · have hle' : rounds line - groups.length ≤ 2 := hle
        omega
      · obtain ⟨e, hentry, hmem⟩ := hold list hlist
        rw [List.map_map] at hmem
        refine ⟨e.numeric, mem_keys_firstOfEach.mp hmem, ?_⟩
        rw [← readEntry_numberList (hnumbers list (List.mem_of_mem_take hlist)), hentry, Option.map_some]

/-- Each operator of a line is reported once exactly when the rounds fit the groups. -/
theorem listsEachOnce_iff (hspace : ∀ c ∈ space, isSpace c = true)
    (hgroups : ∀ g ∈ groups, g.operator.Ok) (htail : TailOk tail) :
    ListsEachOnce t (scanLine space groups tail) (groups.map Group.operator) ↔
      ScanFits (rounds (scanLine space groups tail)) (groups.map Group.operator) tail :=
  ⟨scanFits_of_listsEachOnce hspace hgroups htail, listsEachOnce_of_scanFits hspace hgroups htail⟩

end ListsEachOnceIff

/-- An operator as it is listed for one access technology. -/
def listed (numeric : CString) (act : Nat) : Group :=
  ⟨⟨⟨2, by decide⟩, "Telekom.de", "TDG", numeric⟩, some act⟩

/-- One operator with two access technologies. -/
theorem listsEachOnce_twoTechnologies :
    ListsEachOnce 3 (scanLine " " [listed "26201" 0, listed "26201" 2] (some ("0-4", "0-2")))
      [(listed "26201" 0).operator, (listed "26201" 2).operator] := by
  refine (@listsEachOnce_iff 3 " " [listed "26201" 0, listed "26201" 2] (some ("0-4", "0-2"))
    (List.all_eq_true.mp (by decide)) (by decide) ⟨by decide, by decide⟩).mpr ?_
  have hrounds : rounds (scanLine " " [listed "26201" 0, listed "26201" 2] (some ("0-4", "0-2"))) = 1 := by
    decide
  rw [hrounds]
  exact ⟨by decide, by decide, fun hlt => absurd hlt (by decide)⟩

/-- Of two operators only the first is reported. -/
theorem not_listsEachOnce_twoOperators :
    ¬ ListsEachOnce 3 (scanLine " " [listed "26201" 0, listed "26202" 0] (some ("0-4", "0-2")))
      [(listed "26201" 0).operator, (listed "26202" 0).operator] := by
  intro h
  have hfits := @scanFits_of_listsEachOnce 3 " " [listed "26201" 0, listed "26202" 0]
    (some ("0-4", "0-2")) (List.all_eq_true.mp (by decide)) (by decide) ⟨by decide, by decide⟩ h
  have hrounds : rounds (scanLine " " [listed "26201" 0, listed "26202" 0] (some ("0-4", "0-2"))) = 1 := by
    decide
  rw [hrounds] at hfits
  have hreached := hfits.reached (listed "26202" 0).operator (by decide)
  revert hreached
  decide

end AndroidPatch.Ril.Reference
