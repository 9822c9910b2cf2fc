import Mathlib.Data.List.Forall2
import AndroidPatch.Ril.Altair.Proofs.Tokens

/-!
# The grammar of response lines

A response line is a prefix, a colon and fields with commas between them. Behind `at_tok_start` one
call for each field gives the values of the fields in order, and the pointers among them stay good
while the rest of the line is cut. A number that a field holds is what the two calls for numbers
store, as far as an `int` can hold it.
-/

namespace AndroidPatch.Ril

open Altair (renderFields)

/-! ## Numbers as they are written -/

/-- The digits of a number in a base, high first. -/
inductive DigitsOf (base : Nat) : CString → Nat → Prop
  | one {c : Char} {v : Nat} (hc : digitVal base c = some v) : DigitsOf base [c] v
  | snoc {s : CString} {n : Nat} {c : Char} {v : Nat} (hs : DigitsOf base s n)
      (hc : digitVal base c = some v) : DigitsOf base (s ++ [c]) (n * base + v)

/-- The decimal form of an integer, with a sign or without. -/
inductive DecimalForm : CString → Int → Prop
  | unsigned {s : CString} {n : Nat} (h : DigitsOf 10 s n) : DecimalForm s n
  | plus {s : CString} {n : Nat} (h : DigitsOf 10 s n) : DecimalForm ('+' :: s) n
  | minus {s : CString} {n : Nat} (h : DigitsOf 10 s n) : DecimalForm ('-' :: s) (-(n : Int))

section Digits

variable {base : Nat} {s rest : CString} {n : Nat}

theorem DigitsOf.ne_nil (h : DigitsOf base s n) : s ≠ [] := by
  cases h <;> simp

theorem DigitsOf.isSome (h : DigitsOf base s n) : ∀ c ∈ s, (digitVal base c).isSome = true := by
  induction h with
  | one hc => simp [hc]
  | snoc _ hc ih =>
    intro c hmem
    rcases List.mem_append.mp hmem with hmem | hmem
    · exact ih c hmem
    · rw [List.mem_singleton.mp hmem, hc]
      rfl

/-- The digits in front are read first. -/
theorem DigitsOf.digits_append (h : DigitsOf base s n) (rest : CString) :
    digits base (s ++ rest) 0 = digits base rest n := by
  induction h generalizing rest with
  | one hc => simp [digits, hc]
  | snoc _ hc ih => rw [List.append_assoc, ih, List.singleton_append, digits, hc]

theorem digitVal_of_isSpace {c : Char} (h : isSpace c = true) : digitVal base c = none := by
  cases hc : digitVal base c with
  | none => rfl
  | some v =>
    have hdigit : (digitVal base c).isSome = true := by simp [hc]
    rw [isSpace_of_digit hdigit] at h
    cases h

theorem digits_of_space (hrest : ∀ c ∈ rest, isSpace c = true) (n : Nat) :
    digits base rest n = n := by
  cases rest with
  | nil => rfl
  | cons c rest => rw [digits, digitVal_of_isSpace (hrest c List.mem_cons_self)]

/-- What is left of a number behind the prefix that `strtoul` skips in base 16. -/
def skipPrefix (base : Nat) (t : CString) : CString :=
  match t with
  | '0' :: x :: rest =>
      if base = 16 ∧ (x = 'x' ∨ x = 'X') ∧ startsWithDigitOf base rest then rest else t
  | t => t

theorem skipPrefix_eq (base : Nat) {t : CString} (ht : ∀ c ∈ t, c ≠ 'x' ∧ c ≠ 'X') :
    skipPrefix base t = t := by
  fun_cases skipPrefix base t with
  | case1 x rest hskip =>
    have hne := ht x (by simp)
    exact absurd hskip.2.1 (not_or.mpr hne)
  | case2 => rfl
  | case3 => rfl

/-- Digits are not taken for a sign or a prefix. -/
theorem DigitsOf.scanNumber_eq (h : DigitsOf base s n) (hrest : ∀ c ∈ rest, isSpace c = true) :
    scanNumber base (s ++ rest) = (false, n, true) ∧
      scanNumber base ('+' :: (s ++ rest)) = (false, n, true) ∧
      scanNumber base ('-' :: (s ++ rest)) = (true, n, true) := by
  have hdigits : digits base (s ++ rest) 0 = n := by
    rw [h.digits_append, digits_of_space hrest]
  have hx : ∀ c ∈ s ++ rest, c ≠ 'x' ∧ c ≠ 'X' := by
    intro c hc
    rcases List.mem_append.mp hc with hc | hc
    · exact ⟨ne_of_digit (h.isSome c hc) (by simp [digitVal]),
        ne_of_digit (h.isSome c hc) (by simp [digitVal])⟩
    · have hspace := hrest c hc
      constructor <;> rintro rfl <;> cases hspace
  obtain ⟨c, cs, rfl⟩ := List.exists_cons_of_ne_nil h.ne_nil
  have hc := h.isSome c List.mem_cons_self
  have hstart : startsWithDigitOf base (c :: cs ++ rest) = true := hc
  have hspace : isSpace c = false := isSpace_of_digit hc
  have hminus : c ≠ '-' := ne_of_digit hc (by simp [digitVal])
  have hplus : c ≠ '+' := ne_of_digit hc (by simp [digitVal])
  have hdrop : ∀ d : Char, isSpace d = false → ∀ t : CString,
      (d :: t).dropWhile isSpace = d :: t := by
    intro d hd t
    exact List.dropWhile_cons_of_neg (by simp [hd])
  have hdigits' := (congrArg (digits base · 0) (skipPrefix_eq base hx)).trans hdigits
  have hstart' := (congrArg (startsWithDigitOf base) (skipPrefix_eq base hx)).trans hstart
  refine ⟨?_, ?_, ?_⟩
  · unfold scanNumber
    rw [List.cons_append, hdrop c hspace]
    dsimp only
    split
    · rename_i hminus'
      exact absurd (List.cons.inj hminus').1 hminus
    · rename_i hplus'
      exact absurd (List.cons.inj hplus').1 hplus
    · exact Prod.ext rfl (Prod.ext hdigits' hstart')
  · rw [scanNumber, hdrop '+' rfl]
    exact Prod.ext rfl (Prod.ext hdigits' hstart')
  · rw [scanNumber, hdrop '-' rfl]
    exact Prod.ext rfl (Prod.ext hdigits' hstart')

end Digits

/-- What `at_tok_nextint` makes of a number with white space behind it. -/
theorem DecimalForm.strtol_eq {s rest : CString} {v : Int} (h : DecimalForm s v)
    (hrest : ∀ c ∈ rest, isSpace c = true) (hmin : -0x80000000 ≤ v) (hmax : v < 0x80000000) :
    strtol 10 (s ++ rest) = (v, true) := by
  cases h with
  | unsigned h =>
    rw [strtol, (h.scanNumber_eq hrest).1]
    simp
    omega
  | plus h =>
    rw [strtol, List.cons_append, (h.scanNumber_eq hrest).2.1]
    simp
    omega
  | minus h =>
    rw [strtol, List.cons_append, (h.scanNumber_eq hrest).2.2]
    simp
    omega

/-- What `at_tok_nexthexint` makes of one: an `int` with its 32 bits. -/
theorem DigitsOf.strtoul_eq {s rest : CString} {n : Nat} (h : DigitsOf 16 s n)
    (hrest : ∀ c ∈ rest, isSpace c = true) (hmax : n < 0x100000000) :
    strtoul 16 (s ++ rest) = (toInt32 n, true) := by
  rw [strtoul, (h.scanNumber_eq hrest).1]
  simp [Nat.not_le.mpr hmax]

/-- Whether a number in the base begins behind the white space. -/
def numberBegins (base : Nat) (s : CString) : Bool :=
  match s.dropWhile isSpace with
  | '-' :: s => startsWithDigitOf base s
  | '+' :: s => startsWithDigitOf base s
  | s => startsWithDigitOf base s

/-- A prefix that is skipped begins with a digit, and so does what is behind it. -/
theorem startsWithDigitOf_skipPrefix {base : Nat} (hbase : 0 < base) (t : CString) :
    startsWithDigitOf base (skipPrefix base t) = startsWithDigitOf base t := by
  fun_cases skipPrefix base t with
  | case1 x rest hskip =>
    rw [hskip.2.2]
    simp [startsWithDigitOf, digitVal, hbase]
  | case2 => rfl
  | case3 => rfl

theorem scanNumber_found {base : Nat} (hbase : 0 < base) (s : CString) :
    (scanNumber base s).2.2 = numberBegins base s := by
  unfold scanNumber
  dsimp only
  fun_cases numberBegins base s with
  | case1 t hsign =>
    simp only [hsign]
    exact startsWithDigitOf_skipPrefix hbase t
  | case2 t hsign =>
    simp only [hsign]
    exact startsWithDigitOf_skipPrefix hbase t
  | case3 =>
    simp only
    exact startsWithDigitOf_skipPrefix hbase (s.dropWhile isSpace)

/-! ## A call for each field -/

/-- The calls of the tokenizer that read a field. -/
inductive FieldCall where
  | nextstr
  | nextint
  | nexthexint
  deriving DecidableEq, Repr

/-- What a call stores: a pointer into the line, or a number. -/
inductive Stored where
  | ptr (p : Nat)
  | int (v : Int)
  deriving DecidableEq, Repr

def FieldCall.run (k : FieldCall) (l : TokLine) : TokOut Stored :=
  match k with
  | .nextstr => ⟨(atTokNextstr l).err, (atTokNextstr l).out.map .ptr, (atTokNextstr l).line⟩
  | .nextint => ⟨(atTokNextint l).err, (atTokNextint l).out.map .int, (atTokNextint l).line⟩
  | .nexthexint => ⟨(atTokNexthexint l).err, (atTokNexthexint l).out.map .int, (atTokNexthexint l).line⟩

/-- The calls one after the other: in front of each `at_tok_hasmore`, and at the end the line. -/
def runCalls : List FieldCall → TokLine → List (Bool × TokOut Stored) × TokLine
  | [], l => ([], l)
  | k :: ks, l =>
      let (outs, last) := runCalls ks (k.run l).line
      ((atTokHasmore l, k.run l) :: outs, last)

/-- What a call on the field `f` has to give, with `last` the line when all calls have been made. -/
def FieldCall.Returns (k : FieldCall) (last : TokLine) (f : Field) (out : TokOut Stored) : Prop :=
  match k with
  | .nextstr => out.err = 0 ∧ ∃ p, out.out = some (.ptr p) ∧ last.text p = f.value
  | .nextint => ∀ v, DecimalForm f.value v → -0x80000000 ≤ v → v < 0x80000000 →
      out.err = 0 ∧ out.out = some (.int v)
  | .nexthexint => ∀ n, DigitsOf 16 f.value n → n < 0x100000000 →
      out.err = 0 ∧ out.out = some (.int (toInt32 n))

/-- What the calls on some fields have to give; `at_tok_hasmore` says whether there is text left. -/
def Returned (last : TokLine) : List Field → List FieldCall → List (Bool × TokOut Stored) → Prop
  | [], [], [] => True
  | f :: fs, k :: ks, (more, out) :: outs =>
      (more = true ↔ renderFields f fs ≠ []) ∧ k.Returns last f out ∧ Returned last fs ks outs
  | _, _, _ => False

/-- Where the cut behind a field leaves the line. -/
theorem FieldCall.run_line (k : FieldCall) (done : CString) {s : CString} (hs : nul ∉ s) :
    (k.run (.behind done s)).line = (cutField s).line done := by
  cases k with
  | nextstr => simp only [FieldCall.run, atTokNextstr_behind _ hs]
  | nextint => simp only [FieldCall.run, atTokNextint, atTokNextintBase_behind hs]
  | nexthexint => simp only [FieldCall.run, atTokNexthexint, atTokNextintBase_behind hs]

/-- A call on a field gives what it has to, as long as the pointer to the value stays good. -/
theorem FieldCall.returns (k : FieldCall) {done : CString} {f : Field} {rest : Option CString}
    {last : TokLine} (hok : f.Ok) (hs : nul ∉ f.renderThen rest)
    (hlast : last.text (done ++ f.lead).length = f.value) :
    k.Returns last f (k.run (.behind done (f.renderThen rest))) := by
  cases k with
  | nextstr =>
    simp only [FieldCall.Returns, FieldCall.run, atTokNextstr_behind _ hs,
      Field.cutField_renderThen hok]
    exact ⟨trivial, _, rfl, hlast⟩
  | nextint =>
    intro v hv hmin hmax
    have hvalue := hv.strtol_eq (List.forall_mem_nil _) hmin hmax
    rw [List.append_nil] at hvalue
    simp only [FieldCall.run, atTokNextint, atTokNextintBase_behind hs,
      Field.cutField_renderThen hok, Field.cut, Bool.false_eq_true, if_false, hvalue]
    exact ⟨rfl, rfl⟩
  | nexthexint =>
    intro n hn hmax
    have hvalue := hn.strtoul_eq (List.forall_mem_nil _) hmax
    rw [List.append_nil] at hvalue
    simp only [FieldCall.run, atTokNexthexint, atTokNextintBase_behind hs,
      Field.cutField_renderThen hok, Field.cut, if_true, hvalue]
    exact ⟨trivial, rfl⟩

/-- The calls on the fields that are left, from a cursor in front of them. -/
theorem returned_runCalls {f : Field} {fs : List Field} {ks : List FieldCall} (done : CString)
    (hok : ∀ g ∈ f :: fs, g.Ok) (hlen : ks.length = fs.length + 1)
    (hs : nul ∉ renderFields f fs) :
    ∃ outs last, runCalls ks (.behind done (renderFields f fs)) = (outs, last) ∧
      (∃ tail, last.buf = done ++ tail) ∧ atTokHasmore last = false ∧
      Returned last (f :: fs) ks outs := by
  induction fs generalizing f ks done with
  | nil =>
    obtain ⟨k, rfl⟩ := List.length_eq_one_iff.mp hlen
    have hcut := Field.cutField_renderThen (hok f List.mem_cons_self) none
    have hline := k.run_line done hs
    have htext := text_index done hs
    rw [renderFields, hcut] at hline htext
    refine ⟨_, (k.run (.behind done (renderFields f []))).line, rfl, ?_, ?_,
      atTokHasmore_behind done hs, ?_, trivial⟩
    · rw [renderFields, hline]
      obtain ⟨b, cur, heq⟩ := (f.cut none).line_eq done
      exact ⟨_, congrArg TokLine.buf heq⟩
    · rw [renderFields, hline, Cut.line]
      cases hquoted : f.quoted with
      | true =>
        have hend := atTokHasmore_behind (done ++ f.lead ++ f.value ++ nul :: f.stray)
          (List.not_mem_nil (a := nul))
        simpa [Field.cut, hquoted] using hend
      | false => simp [Field.cut, hquoted, atTokHasmore]
    · apply k.returns (hok f List.mem_cons_self) hs
      rw [renderFields, hline]
      exact htext
  | cons g gs ih =>
    obtain ⟨k, ks, rfl⟩ := List.exists_cons_of_length_eq_add_one hlen
    obtain ⟨hvalue, hrest⟩ := Field.nul_not_mem_renderThen hs
    have hline := k.run_line done hs
    rw [renderFields, Field.cutField_renderThen (hok f List.mem_cons_self)] at hline
    have hbehind : (f.cut (some (renderFields g gs))).line done =
        .behind (done ++ f.lead ++ f.value ++ f.sep) (renderFields g gs) := rfl
    obtain ⟨outs, last, hrun, ⟨tail, htail⟩, hmore, hreturned⟩ :=
      ih (done ++ f.lead ++ f.value ++ f.sep) (fun g' hg' => hok g' (List.mem_cons_of_mem f hg'))
        (Nat.succ.inj hlen) hrest
    refine ⟨(_, k.run (.behind done (renderFields f (g :: gs)))) :: outs, last, ?_,
      ⟨f.lead ++ f.value ++ f.sep ++ tail, by simp [htail]⟩, hmore,
      atTokHasmore_behind done hs, k.returns (hok f List.mem_cons_self) hs ?_, hreturned⟩
    · rw [runCalls, renderFields, hline, hbehind, hrun]
    · rw [← Field.text_value hvalue done tail, TokLine.text, TokLine.text, htail]
      rfl

/-! ## A response line -/

/-- A line of the grammar gives the values of its fields, and `at_tok_hasmore` says of every field
    whether there is text left. -/
theorem runCalls_line {pre : CString} {f : Field} {fs : List Field} {ks : List FieldCall}
    (hpre : ':' ∉ pre) (hok : ∀ g ∈ f :: fs, g.Ok) (hlen : ks.length = (f :: fs).length)
    (hs : nul ∉ pre ++ ':' :: renderFields f fs) :
    ∃ l outs last, atTokStart (.ofString (pre ++ ':' :: renderFields f fs)) = (0, l) ∧
      runCalls ks l = (outs, last) ∧ Returned last (f :: fs) ks outs ∧
      atTokHasmore last = false := by
  have hstart := atTokStart_ofString hs
  rw [cutAt_append hpre] at hstart
  have hfields : nul ∉ renderFields f fs :=
    fun hmem => hs (List.mem_append_right pre (List.mem_cons_of_mem ':' hmem))
  obtain ⟨outs, last, hrun, -, hmore, hreturned⟩ :=
    returned_runCalls (pre ++ [':']) hok hlen hfields
  exact ⟨_, outs, last, hstart, hrun, hreturned, hmore⟩

/-- A line with quotes, white space, stray text and an empty field. -/
theorem runCalls_cgdcont : ∃ l outs last,
    atTokStart (.ofString "+CGDCONT: 1, \"IP\"x,,-7") = (0, l) ∧
      runCalls [.nextint, .nextstr, .nextstr, .nextint] l = (outs, last) ∧
      Returned last [⟨" ", false, "1", []⟩, ⟨" ", true, "IP", "x"⟩, ⟨[], false, [], []⟩,
        ⟨[], false, "-7", []⟩] [.nextint, .nextstr, .nextstr, .nextint] outs ∧
      atTokHasmore last = false :=
  @runCalls_line "+CGDCONT" ⟨" ", false, "1", []⟩
    [⟨" ", true, "IP", "x"⟩, ⟨[], false, [], []⟩, ⟨[], false, "-7", []⟩]
    [.nextint, .nextstr, .nextstr, .nextint] (by decide) (by decide) rfl (by decide)

/-- A number that an `int` cannot hold is not what `at_tok_nexthexint` stores. -/
theorem nexthexint_ffffffff : ¬ ∀ n : Nat, DigitsOf 16 "FFFFFFFF" n → n < 0x100000000 →
    (atTokNexthexint (atTokStart (.ofString "+CREG:FFFFFFFF")).2).out = some (n : Int) := by
  intro h
  have hdigit : digitVal 16 'F' = some 15 := by decide
  have hstored := h 0xffffffff (.snoc (.snoc (.snoc (.snoc (.snoc (.snoc (.snoc (.one hdigit) hdigit)
    hdigit) hdigit) hdigit) hdigit) hdigit) hdigit) (by decide)
  revert hstored
  decide

end AndroidPatch.Ril
