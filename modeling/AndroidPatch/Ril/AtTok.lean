import AndroidPatch.Misc.CString

/-!
# The AT tokenizer

`hardware/ril/reference-ril/at_tok.c`, which both RILs link. The functions work on the line in
place: `strsep` stores a `NUL` behind each token, and a token is a pointer into the line. A line
is therefore a buffer with a cursor; `*p_cur == NULL` is a missing cursor. `int` and `long` have
32 bits, as on the devices that the two RILs are built for.
-/

namespace AndroidPatch.Ril

/-- A line that is being tokenized. `buf` are its characters without the terminator; a read at or
    past its end sees the terminator. -/
structure TokLine where
  buf : CString
  cur : Option Nat
  deriving DecidableEq, Repr

def TokLine.ofString (s : CString) : TokLine := ⟨s, some 0⟩

def TokLine.char (l : TokLine) (i : Nat) : Char := l.buf.getD i nul

/-- The string that a pointer to index `i` stands for. -/
def TokLine.text (l : TokLine) (i : Nat) : CString := (l.buf.drop i).takeWhile (· != nul)

/-- `*(buf + i) = c`, inside the line. -/
def TokLine.store (l : TokLine) (i : Nat) (c : Char) : TokLine := { l with buf := l.buf.set i c }

/-- `sprintf(buf + i, "%s", s)`. A text that is too long goes on behind the line. -/
def TokLine.sprintf (l : TokLine) (i : Nat) (s : CString) : TokLine :=
  let rest := if i + s.length < l.buf.length then nul :: l.buf.drop (i + s.length + 1) else []
  { l with buf := l.buf.take i ++ s ++ rest }

/-- The number of characters from index `i` on before one that satisfies `p` or the terminator. -/
def TokLine.span (l : TokLine) (p : Char → Bool) (i : Nat) : Nat :=
  ((l.text i).takeWhile fun c => !p c).length

/-- `isspace`. -/
def isSpace (c : Char) : Bool :=
  c == ' ' || c == '\t' || c == '\n' || c == '\x0b' || c == '\x0c' || c == '\r'

/-- `strchr` from index `i` on. -/
def TokLine.strchr (l : TokLine) (c : Char) (i : Nat) : Option Nat :=
  let j := i + l.span (· == c) i
  if l.char j = c ∧ c ≠ nul then some j else none

/-- `at_tok_start` (`at_tok.c:51-70`). -/
def atTokStart (l : TokLine) : Int × TokLine :=
  match l.cur with
  | none => (-1, l)
  | some i =>
      match l.strchr ':' i with
      | none => (-1, { l with cur := none })
      | some j => (0, { l with cur := some (j + 1) })

/-- `skipWhiteSpace` (`at_tok.c:72-79`). -/
def skipWhiteSpace (l : TokLine) : TokLine :=
  { l with cur := l.cur.map fun i => i + l.span (fun c => !isSpace c) i }

/-- `skipNextComma` (`at_tok.c:81-92`). -/
def skipNextComma (l : TokLine) : TokLine :=
  { l with cur := l.cur.map fun i =>
      let j := i + l.span (· == ',') i
      if l.char j = ',' then j + 1 else j }

/-- `strsep(p_cur, d)` with the cursor at `i`: the delimiter is overwritten and the cursor moves
    behind it; without one the cursor becomes `NULL`. -/
def strsep (l : TokLine) (d : Char) (i : Nat) : TokLine :=
  match l.strchr d i with
  | none => { l with cur := none }
  | some j => { l.store j nul with cur := some (j + 1) }

/-- `nextTok` (`at_tok.c:94-112`). -/
def nextTok (l : TokLine) : Option Nat × TokLine :=
  let l := skipWhiteSpace l
  match l.cur with
  | none => (none, l)
  | some i =>
      if l.char i = '"' then (some (i + 1), skipNextComma (strsep l '"' (i + 1)))
      else (some i, strsep l ',' i)

/-! ## Numbers -/

/-- The value of a digit in a base up to 16. -/
def digitVal (base : Nat) (c : Char) : Option Nat :=
  let v :=
    if '0' ≤ c ∧ c ≤ '9' then c.toNat - '0'.toNat
    else if 'a' ≤ c ∧ c ≤ 'f' then c.toNat - 'a'.toNat + 10
    else if 'A' ≤ c ∧ c ≤ 'F' then c.toNat - 'A'.toNat + 10
    else base
  if v < base then some v else none

/-- The digits at the front of a string, and whether there is one. -/
def digits (base : Nat) : CString → Nat → Nat
  | [], acc => acc
  | c :: cs, acc =>
      match digitVal base c with
      | none => acc
      | some v => digits base cs (acc * base + v)

def startsWithDigitOf (base : Nat) (s : CString) : Bool := (s.head?.bind (digitVal base)).isSome

/-- The sign and the magnitude that `strtol` and `strtoul` see after white space, and whether a
    number was found. In base 16 a `0x` in front of a digit is skipped. -/
def scanNumber (base : Nat) (s : CString) : Bool × Nat × Bool :=
  let s := s.dropWhile isSpace
  let (neg, s) : Bool × CString := match s with
    | '-' :: s => (true, s)
    | '+' :: s => (false, s)
    | s => (false, s)
  let s : CString := match s with
    | '0' :: x :: rest =>
        if base = 16 ∧ (x = 'x' ∨ x = 'X') ∧ startsWithDigitOf base rest then rest else s
    | s => s
  (neg, digits base s 0, startsWithDigitOf base s)

/-- What is left behind a decimal number. -/
def afterNumber (s : CString) : CString :=
  let s := s.dropWhile isSpace
  let s : CString := match s with
    | '-' :: s => s
    | '+' :: s => s
    | s => s
  s.dropWhile fun c => (digitVal 10 c).isSome

/-- The conversion of an unsigned 32-bit value to `int`. -/
def toInt32 (n : Nat) : Int :=
  let n : Nat := n % 0x100000000
  if n < 0x80000000 then (n : Int) else (n : Int) - 0x100000000

/-- `(int)strtol(s, &end, base)` and `end != s`. -/
def strtol (base : Nat) (s : CString) : Int × Bool :=
  let (neg, n, found) := scanNumber base s
  (if neg then max (-(n : Int)) (-0x80000000) else min (n : Int) (0x80000000 - 1), found)

/-- `(int)strtoul(s, &end, base)` and `end != s`. -/
def strtoul (base : Nat) (s : CString) : Int × Bool :=
  let (neg, n, found) := scanNumber base s
  (if 0x100000000 ≤ n then toInt32 (0x100000000 - 1) else toInt32 (if neg then 0x100000000 - n else n), found)

/-- `atoi`. -/
def atoi (s : CString) : Int := (strtol 10 s).1

/-- The results of a tokenizer call that stores through `p_out`: the return value, what was
    stored (nothing when the call returns before the store) and the line. -/
structure TokOut (α : Type) where
  err : Int
  out : Option α
  line : TokLine
  deriving DecidableEq, Repr

/-- `at_tok_nextint_base` (`at_tok.c:122-150`). The value is stored before the test for a
    number. -/
def atTokNextintBase (l : TokLine) (base : Nat) (uns : Bool) : TokOut Int :=
  match l.cur with
  | none => ⟨-1, none, l⟩
  | some _ =>
      match nextTok l with
      | (none, l) => ⟨-1, none, l⟩
      | (some p, l) =>
          let (v, found) := if uns then strtoul base (l.text p) else strtol base (l.text p)
          ⟨if found then 0 else -1, some v, l⟩

/-- `at_tok_nextint` (`at_tok.c:158-161`). -/
def atTokNextint (l : TokLine) : TokOut Int := atTokNextintBase l 10 false

/-- `at_tok_nexthexint` (`at_tok.c:169-172`). -/
def atTokNexthexint (l : TokLine) : TokOut Int := atTokNextintBase l 16 true

/-- `at_tok_nextbool` (`at_tok.c:174-194`), called with a `p_out` that is not `NULL`. -/
def atTokNextbool (l : TokLine) : TokOut Int :=
  let r := atTokNextint l
  if r.err < 0 then { r with err := -1, out := none }
  else if r.out = some 0 ∨ r.out = some 1 then r
  else { r with err := -1, out := none }

/-- `at_tok_nextstr` (`at_tok.c:196-205`). What is stored is a pointer into the line. -/
def atTokNextstr (l : TokLine) : TokOut Nat :=
  match l.cur with
  | none => ⟨-1, none, l⟩
  | some _ =>
      let (p, l) := nextTok l
      ⟨0, p, l⟩

/-- `at_tok_hasmore` (`at_tok.c:208-211`). -/
def atTokHasmore (l : TokLine) : Bool :=
  match l.cur with
  | none => false
  | some i => l.char i != nul

/-! ## The cursor moves forward -/

/-- `l'` is `l` some calls later: the buffer is the same piece of memory, and the cursor has not
    moved back. -/
def TokLine.Before (l l' : TokLine) : Prop :=
  l'.buf.length = l.buf.length ∧ ∀ i' ∈ l'.cur, ∃ i ∈ l.cur, i ≤ i'

namespace TokLine.Before

theorem refl (l : TokLine) : l.Before l := ⟨rfl, fun i hi => ⟨i, hi, Nat.le_refl i⟩⟩

theorem trans {l l' l'' : TokLine} (h : l.Before l') (h' : l'.Before l'') : l.Before l'' := by
  refine ⟨h'.1.trans h.1, fun i'' hi'' => ?_⟩
  obtain ⟨i', hi', hle'⟩ := h'.2 i'' hi''
  obtain ⟨i, hi, hle⟩ := h.2 i' hi'
  exact ⟨i, hi, Nat.le_trans hle hle'⟩

/-- A cursor that is given up, or moved forward. -/
theorem of_cur {l l' : TokLine} {i : Nat} (hbuf : l'.buf.length = l.buf.length)
    (hi : l.cur = some i) (h : ∀ i' ∈ l'.cur, i ≤ i') : l.Before l' :=
  ⟨hbuf, fun i' hi' => ⟨i, hi, h i' hi'⟩⟩

end TokLine.Before

theorem TokLine.strchr_bounds {l : TokLine} {c : Char} {i j : Nat} (h : l.strchr c i = some j) :
    i ≤ j ∧ j < l.buf.length := by
  unfold TokLine.strchr at h
  dsimp only at h
  split at h
  · rename_i hc
    obtain rfl : i + l.span (· == c) i = j := by simpa using h
    refine ⟨Nat.le_add_right _ _, Nat.lt_of_not_le fun hle => hc.2 ?_⟩
    rw [← hc.1, TokLine.char, List.getD_eq_getElem?_getD, List.getElem?_eq_none hle]
    rfl
  · cases h

theorem strsep_before {l : TokLine} {i : Nat} (d : Char) {j : Nat} (hi : l.cur = some i)
    (hij : i ≤ j) : l.Before (strsep l d j) := by
  unfold strsep
  cases hj : l.strchr d j with
  | none => exact .of_cur rfl hi fun i' hi' => by cases hi'
  | some k =>
    refine .of_cur (by simp [TokLine.store]) hi fun i' hi' => ?_
    obtain rfl : k + 1 = i' := by simpa using hi'
    have := (TokLine.strchr_bounds hj).1
    omega

theorem skipWhiteSpace_before (l : TokLine) : l.Before (skipWhiteSpace l) := by
  cases hi : l.cur with
  | none => exact ⟨rfl, fun i' hi' => by simp [skipWhiteSpace, hi] at hi'⟩
  | some i =>
    refine .of_cur rfl hi fun i' hi' => ?_
    have : i + l.span (fun c => !isSpace c) i = i' := by simpa [skipWhiteSpace, hi] using hi'
    omega

theorem skipNextComma_before (l : TokLine) : l.Before (skipNextComma l) := by
  cases hi : l.cur with
  | none => exact ⟨rfl, fun i' hi' => by simp [skipNextComma, hi] at hi'⟩
  | some i =>
    refine .of_cur rfl hi fun i' hi' => ?_
    simp only [skipNextComma, hi, Option.map_some, Option.mem_def, Option.some.injEq] at hi'
    split at hi' <;> omega

theorem nextTok_before (l : TokLine) : l.Before (nextTok l).2 := by
  unfold nextTok
  dsimp only
  refine (skipWhiteSpace_before l).trans ?_
  cases hi : (skipWhiteSpace l).cur with
  | none => exact .refl _
  | some i =>
    dsimp only
    split
    · exact (strsep_before '"' hi (Nat.le_succ i)).trans (skipNextComma_before _)
    · exact strsep_before ',' hi (Nat.le_refl i)

theorem atTokNextint_before (l : TokLine) : l.Before (atTokNextint l).line := by
  unfold atTokNextint atTokNextintBase
  have h := nextTok_before l
  cases hi : l.cur with
  | none => exact .refl _
  | some i =>
    dsimp only
    revert h
    cases nextTok l with
    | mk p l' =>
      intro h
      cases p with
      | none => exact h
      | some p => exact h

theorem atTokNextstr_before (l : TokLine) : l.Before (atTokNextstr l).line := by
  unfold atTokNextstr
  cases hi : l.cur with
  | none => exact .refl _
  | some i => exact nextTok_before l

end AndroidPatch.Ril
