import Mathlib.Data.List.TakeWhile
import AndroidPatch.Ril.AtTok

/-!
# The fields of a line

What the tokenizer makes of the text ahead of its cursor. A line is written as `done ++ ahead`; a
call of `nextTok` cuts a field off `ahead`, which then stands in `done` with a terminator behind
it. `cutField` says where the cut is. A `Field` is a field as a modem writes it.
-/

namespace AndroidPatch.Ril

/-! ## Searching -/

/-- What stands in front of the first `c`, and what stands behind it if there is one. -/
def cutAt (c : Char) (s : CString) : CString × Option CString :=
  match s.dropWhile (· != c) with
  | [] => (s, none)
  | _ :: rest => (s.takeWhile (· != c), some rest)

section CutAt

variable {c : Char} {s a b : CString}

theorem bne_of_not_mem (h : c ∉ a) : ∀ x ∈ a, (x != c) = true := by
  intro x hx
  simpa using fun heq : x = c => h (heq ▸ hx)

@[simp] theorem cutAt_of_not_mem (h : c ∉ s) : cutAt c s = (s, none) := by
  rw [cutAt, List.dropWhile_eq_nil_iff.mpr (bne_of_not_mem h)]

@[simp] theorem cutAt_append (h : c ∉ a) : cutAt c (a ++ c :: b) = (a, some b) := by
  have hstop : (c != c) = false := by simp
  rw [cutAt, List.dropWhile_append_of_pos (bne_of_not_mem h),
    List.takeWhile_append_of_pos (bne_of_not_mem h), List.dropWhile_cons_of_neg (by simp),
    List.takeWhile_cons_of_neg (by simp), List.append_nil]

/-- A string has the character, at a first place, or not. -/
theorem cutAt_cases (c : Char) (s : CString) :
    (c ∉ s ∧ cutAt c s = (s, none)) ∨
      ∃ a b, s = a ++ c :: b ∧ c ∉ a ∧ cutAt c s = (a, some b) := by
  by_cases h : c ∈ s
  · obtain ⟨a, b, rfl, ha⟩ := List.eq_append_cons_of_mem h
    exact .inr ⟨a, b, rfl, ha, cutAt_append ha⟩
  · exact .inl ⟨h, cutAt_of_not_mem h⟩

end CutAt

/-! ## A line and its cursor -/

namespace TokLine

/-- The line `done ++ ahead` with its cursor behind `done`. -/
def behind (done ahead : CString) : TokLine := ⟨done ++ ahead, some done.length⟩

section Text

variable {done s a b : CString} {cur : Option Nat} {c : Char}

theorem text_of_end (hs : nul ∉ s) : text ⟨done ++ s, cur⟩ done.length = s := by
  rw [text, List.drop_left, List.takeWhile_eq_self_iff.mpr (bne_of_not_mem hs)]

theorem text_of_nul (hs : nul ∉ s) : text ⟨done ++ (s ++ nul :: b), cur⟩ done.length = s := by
  rw [text, List.drop_left, List.takeWhile_append_of_pos (bne_of_not_mem hs),
    List.takeWhile_cons_of_neg (by simp), List.append_nil]

/-- A terminator that is overwritten joins two strings. -/
theorem text_store_nul (hs : nul ∉ s) (hc : c ≠ nul) :
    text (store ⟨done ++ (s ++ nul :: b), cur⟩ (done.length + s.length) c) done.length =
      s ++ c :: text ⟨done ++ (s ++ nul :: b), cur⟩ (done ++ (s ++ [nul])).length := by
  have hbuf : done ++ (s ++ nul :: b) = done ++ (s ++ [nul]) ++ b := by simp
  have hset : (done ++ (s ++ nul :: b)).set (done.length + s.length) c =
      done ++ (s ++ c :: b) := by simp
  rw [text, text, store]
  simp only [hset, List.drop_left]
  rw [hbuf, List.drop_left, List.takeWhile_append_of_pos (bne_of_not_mem hs),
    List.takeWhile_cons_of_pos (by simpa using hc)]

/-- A string does not see what is stored behind its terminator. -/
theorem text_store_behind (hs : nul ∉ s) (i : Nat) :
    text (store ⟨done ++ (s ++ nul :: b), cur⟩ ((done ++ (s ++ [nul])).length + i) c) done.length =
      s := by
  have hset : (done ++ (s ++ nul :: b)).set ((done ++ (s ++ [nul])).length + i) c =
      done ++ (s ++ nul :: b.set i c) := by
    have hbuf : done ++ (s ++ nul :: b) = done ++ (s ++ [nul]) ++ b := by simp
    rw [hbuf, List.set_append_right _ _ (Nat.le_add_right _ i), Nat.add_sub_cancel_left]
    simp
  rw [store]
  simp only [hset]
  exact text_of_nul hs

theorem char_append (i : Nat) : char ⟨done ++ s, cur⟩ (done.length + i) = s.getD i nul := by
  rw [char, List.getD_eq_getElem?_getD, List.getD_eq_getElem?_getD,
    List.getElem?_append_right (Nat.le_add_right _ _), Nat.add_sub_cancel_left]

theorem getD_length (s : CString) : s.getD s.length nul = nul := by
  rw [List.getD_eq_getElem?_getD, List.getElem?_eq_none (Nat.le_refl _), Option.getD_none]

theorem span_eq (p : Char → Bool) (hs : nul ∉ s) :
    span ⟨done ++ s, cur⟩ p done.length = (s.takeWhile fun x => !p x).length := by
  rw [span, text_of_end hs]

/-- The characters up to the first `c`. -/
theorem span_char (hs : nul ∉ a ++ c :: b) (hc : c ∉ a) :
    span ⟨done ++ (a ++ c :: b), cur⟩ (· == c) done.length = a.length := by
  rw [span_eq _ hs, List.takeWhile_append_of_pos, List.takeWhile_cons_of_neg (by simp),
    List.append_nil]
  intro x hx
  simpa using fun heq : x = c => hc (heq ▸ hx)

theorem span_char_none (hs : nul ∉ s) (hc : c ∉ s) :
    span ⟨done ++ s, cur⟩ (· == c) done.length = s.length := by
  rw [span_eq _ hs, List.takeWhile_eq_self_iff.mpr]
  intro x hx
  simpa using fun heq : x = c => hc (heq ▸ hx)

theorem strchr_of_mem (done : CString) (cur : Option Nat) (hs : nul ∉ a ++ c :: b) (hc : c ∉ a) :
    strchr ⟨done ++ (a ++ c :: b), cur⟩ c done.length = some (done.length + a.length) := by
  have hne : c ≠ nul := by
    rintro rfl
    exact hs (List.mem_append_right a List.mem_cons_self)
  rw [strchr, span_char hs hc, char_append]
  simp [hne]

theorem strchr_of_not_mem (done : CString) (cur : Option Nat) (hs : nul ∉ s) (hc : c ∉ s) :
    strchr ⟨done ++ s, cur⟩ c done.length = none := by
  rw [strchr, span_char_none hs hc, char_append, getD_length]
  exact if_neg fun h => h.2 h.1.symm

theorem strsep_of_mem (hs : nul ∉ a ++ c :: b) (hc : c ∉ a) :
    strsep ⟨done ++ (a ++ c :: b), cur⟩ c done.length = behind (done ++ a ++ [nul]) b := by
  rw [strsep, strchr_of_mem _ _ hs hc]
  dsimp only
  rw [store, behind]
  simp [Nat.add_assoc]

theorem strsep_of_not_mem (hs : nul ∉ s) (hc : c ∉ s) :
    strsep ⟨done ++ s, cur⟩ c done.length = ⟨done ++ s, none⟩ := by
  rw [strsep, strchr_of_not_mem _ _ hs hc]

theorem skipWhiteSpace_behind (hs : nul ∉ s) :
    skipWhiteSpace (behind done s) =
      behind (done ++ s.takeWhile isSpace) (s.dropWhile isSpace) := by
  rw [skipWhiteSpace, behind, behind, List.append_assoc, List.takeWhile_append_dropWhile,
    List.length_append]
  simp only [Option.map_some, span_eq _ hs, Bool.not_not]

theorem skipNextComma_of_mem (hs : nul ∉ a ++ ',' :: b) (hc : ',' ∉ a) :
    skipNextComma (behind done (a ++ ',' :: b)) = behind (done ++ a ++ [',']) b := by
  rw [skipNextComma, behind, behind]
  simp only [Option.map_some, span_char hs hc, char_append]
  simp
  omega

theorem skipNextComma_of_not_mem (hs : nul ∉ s) (hc : ',' ∉ s) :
    skipNextComma (behind done s) = behind (done ++ s) [] := by
  rw [skipNextComma, behind, behind]
  simp only [Option.map_some, span_char_none hs hc, char_append, getD_length]
  simp [nul]

end Text

end TokLine

/-! ## Cutting off a field -/

/-- A field that is cut off: what is skipped in front of the token, the token, and, unless the line
    ends with it, the terminator with what is skipped behind it, and the text ahead then. -/
structure Cut where
  skipped : CString
  token : CString
  next : Option (CString × CString)
  deriving DecidableEq, Repr

/-- The cut that `nextTok` makes. -/
def cutField (s : CString) : Cut :=
  match s.dropWhile isSpace with
  | '"' :: r =>
      match cutAt '"' r with
      | (token, none) => ⟨s.takeWhile isSpace ++ ['"'], token, none⟩
      | (token, some r) =>
          match cutAt ',' r with
          | (stray, none) => ⟨s.takeWhile isSpace ++ ['"'], token, some (nul :: stray, [])⟩
          | (stray, some rest) =>
              ⟨s.takeWhile isSpace ++ ['"'], token, some (nul :: stray ++ [','], rest)⟩
  | r =>
      match cutAt ',' r with
      | (token, none) => ⟨s.takeWhile isSpace, token, none⟩
      | (token, some rest) => ⟨s.takeWhile isSpace, token, some ([nul], rest)⟩

/-- The line after a cut. -/
def Cut.line (c : Cut) (done : CString) : TokLine :=
  match c.next with
  | none => ⟨done ++ c.skipped ++ c.token, none⟩
  | some (sep, rest) => .behind (done ++ c.skipped ++ c.token ++ sep) rest

/-- The index of the token of a cut. -/
def Cut.index (c : Cut) (done : CString) : Nat := (done ++ c.skipped).length

theorem Cut.line_eq (c : Cut) (done : CString) :
    ∃ b cur, c.line done = ⟨done ++ (c.skipped ++ b), cur⟩ := by
  unfold Cut.line
  cases c.next with
  | none => exact ⟨c.token, none, by simp⟩
  | some next =>
    refine ⟨c.token ++ (next.1 ++ next.2), some (done ++ c.skipped ++ c.token ++ next.1).length, ?_⟩
    simp [TokLine.behind]

/-- The forms of a text ahead, with their cuts: a quoted token that is not closed, one with the
    last comma behind it and one with another, and the same for tokens without quotes. -/
inductive Cuts : CString → Cut → Prop
  | unclosed {space q : CString} (hspace : ∀ c ∈ space, isSpace c = true) (hq : '"' ∉ q) :
      Cuts (space ++ '"' :: q) ⟨space ++ ['"'], q, none⟩
  | quotedLast {space a b : CString} (hspace : ∀ c ∈ space, isSpace c = true) (ha : '"' ∉ a)
      (hb : ',' ∉ b) :
      Cuts (space ++ '"' :: (a ++ '"' :: b)) ⟨space ++ ['"'], a, some (nul :: b, [])⟩
  | quoted {space a b rest : CString} (hspace : ∀ c ∈ space, isSpace c = true) (ha : '"' ∉ a)
      (hb : ',' ∉ b) :
      Cuts (space ++ '"' :: (a ++ '"' :: (b ++ ',' :: rest)))
        ⟨space ++ ['"'], a, some (nul :: b ++ [','], rest)⟩
  | last {space a : CString} (hspace : ∀ c ∈ space, isSpace c = true)
      (hhead : ∀ c ∈ a.head?, c ≠ '"' ∧ isSpace c = false) (ha : ',' ∉ a) :
      Cuts (space ++ a) ⟨space, a, none⟩
  | unquoted {space a rest : CString} (hspace : ∀ c ∈ space, isSpace c = true)
      (hhead : ∀ c ∈ a.head?, c ≠ '"' ∧ isSpace c = false) (ha : ',' ∉ a) :
      Cuts (space ++ (a ++ ',' :: rest)) ⟨space, a, some ([nul], rest)⟩

theorem takeWhile_space {space r : CString} (hspace : ∀ c ∈ space, isSpace c = true)
    (hr : ∀ c ∈ r.head?, isSpace c = false) :
    (space ++ r).takeWhile isSpace = space ∧ (space ++ r).dropWhile isSpace = r := by
  rw [List.takeWhile_append_of_pos hspace, List.dropWhile_append_of_pos hspace]
  cases r with
  | nil => simp
  | cons c r =>
    have hc : isSpace c = false := hr c rfl
    simp [hc]

theorem head_quote (q : CString) : ∀ c ∈ ('"' :: q).head?, isSpace c = false := by
  rintro c ⟨⟩
  decide

/-- The head of a token with a comma behind it. -/
theorem head_append_comma {a rest : CString} (hhead : ∀ c ∈ a.head?, c ≠ '"' ∧ isSpace c = false) :
    ∀ c ∈ (a ++ ',' :: rest).head?, c ≠ '"' ∧ isSpace c = false := by
  cases a with
  | nil =>
    rintro c ⟨⟩
    decide
  | cons c a => exact hhead

namespace Cuts

variable {s : CString} {c : Cut}

theorem cutField_eq (h : Cuts s c) : cutField s = c := by
  have hplain : ∀ {space r : CString}, (∀ c ∈ space, isSpace c = true) →
      (∀ c ∈ r.head?, c ≠ '"' ∧ isSpace c = false) →
      cutField (space ++ r) = ⟨space, (cutAt ',' r).1, (cutAt ',' r).2.map fun rest => ([nul], rest)⟩ := by
    intro space r hspace hr
    obtain ⟨htake, hdrop⟩ := takeWhile_space hspace fun c hc => (hr c hc).2
    unfold cutField
    rw [htake, hdrop]
    split
    · exact absurd rfl (hr '"' rfl).1
    · rcases cutAt ',' r with ⟨token, _ | rest⟩ <;> rfl
  cases h with
  | @unclosed space q hspace hq =>
    obtain ⟨htake, hdrop⟩ := takeWhile_space hspace (head_quote q)
    simp only [cutField, htake, hdrop, cutAt_of_not_mem hq]
  | @quotedLast space a b hspace ha hb =>
    obtain ⟨htake, hdrop⟩ := takeWhile_space hspace (head_quote (a ++ '"' :: b))
    simp only [cutField, htake, hdrop, cutAt_append ha, cutAt_of_not_mem hb]
  | @quoted space a b rest hspace ha hb =>
    obtain ⟨htake, hdrop⟩ := takeWhile_space hspace (head_quote (a ++ '"' :: (b ++ ',' :: rest)))
    simp only [cutField, htake, hdrop, cutAt_append ha, cutAt_append hb]
  | last hspace hhead ha =>
    rw [hplain hspace hhead, cutAt_of_not_mem ha]
    rfl
  | unquoted hspace hhead ha =>
    rw [hplain hspace (head_append_comma hhead), cutAt_append ha]
    rfl

end Cuts

/-- Every text has one of the forms. -/
theorem cuts_cutField (s : CString) : Cuts s (cutField s) := by
  suffices h : ∃ c, Cuts s c by
    obtain ⟨c, hc⟩ := h
    rwa [hc.cutField_eq]
  have hspace : ∀ c ∈ s.takeWhile isSpace, isSpace c = true := fun c hc => List.mem_takeWhile_imp hc
  have hhead : ∀ c ∈ (s.dropWhile isSpace).head?, isSpace c = false := by
    intro c hc
    have hstop := List.head?_dropWhile_not isSpace s
    rw [hc] at hstop
    simpa using hstop
  rw [← List.takeWhile_append_dropWhile (p := isSpace) (l := s)]
  generalize s.takeWhile isSpace = space at hspace ⊢
  generalize s.dropWhile isSpace = r at hhead ⊢
  by_cases hquote : r.head? = some '"'
  · obtain ⟨q, rfl⟩ := List.head?_eq_some_iff.mp hquote
    rcases cutAt_cases '"' q with ⟨hq, -⟩ | ⟨a, b, rfl, ha, -⟩
    · exact ⟨_, .unclosed hspace hq⟩
    · rcases cutAt_cases ',' b with ⟨hb, -⟩ | ⟨b, rest, rfl, hb, -⟩
      · exact ⟨_, .quotedLast hspace ha hb⟩
      · exact ⟨_, .quoted hspace ha hb⟩
  · have hplain : ∀ c ∈ r.head?, c ≠ '"' ∧ isSpace c = false := by
      intro c hc
      refine ⟨?_, hhead c hc⟩
      rintro rfl
      exact hquote hc
    rcases cutAt_cases ',' r with ⟨hr, -⟩ | ⟨a, rest, rfl, ha, -⟩
    · exact ⟨_, .last hspace hplain hr⟩
    · refine ⟨_, .unquoted hspace ?_ ha⟩
      cases a with
      | nil => nofun
      | cons c a => exact hplain

/-! ## The tokenizer -/

/-- The search for a token: behind the white space, and behind a quote. -/
theorem nextTok_quote {done space q : CString} (hspace : ∀ c ∈ space, isSpace c = true)
    (hs : nul ∉ space ++ '"' :: q) :
    nextTok (.behind done (space ++ '"' :: q)) = (some (done ++ (space ++ ['"'])).length,
      skipNextComma (strsep ⟨done ++ (space ++ ['"']) ++ q, some (done ++ space).length⟩ '"'
        (done ++ (space ++ ['"'])).length)) := by
  obtain ⟨htake, hdrop⟩ := takeWhile_space hspace (head_quote q)
  have hchar : (TokLine.behind (done ++ space) ('"' :: q)).char (done ++ space).length = '"' :=
    TokLine.char_append 0
  have hbuf : done ++ space ++ '"' :: q = done ++ (space ++ ['"']) ++ q := by simp
  have hindex : (done ++ space).length + 1 = (done ++ (space ++ ['"'])).length := by
    simp [Nat.add_assoc]
  rw [nextTok, TokLine.skipWhiteSpace_behind hs, htake, hdrop]
  simp only [show (TokLine.behind (done ++ space) ('"' :: q)).cur = some (done ++ space).length from rfl,
    hchar, if_true, hindex]
  rw [TokLine.behind, hbuf]

theorem nextTok_plain {done space r : CString} (hspace : ∀ c ∈ space, isSpace c = true)
    (hr : ∀ c ∈ r.head?, c ≠ '"' ∧ isSpace c = false) (hs : nul ∉ space ++ r) :
    nextTok (.behind done (space ++ r)) = (some (done ++ space).length,
      strsep (.behind (done ++ space) r) ',' (done ++ space).length) := by
  obtain ⟨htake, hdrop⟩ := takeWhile_space hspace fun c hc => (hr c hc).2
  have hchar : (TokLine.behind (done ++ space) r).char (done ++ space).length ≠ '"' := by
    have hget : (TokLine.behind (done ++ space) r).char (done ++ space).length = r.getD 0 nul :=
      TokLine.char_append 0
    rw [hget]
    cases r with
    | nil => decide
    | cons c r => exact (hr c rfl).1
  rw [nextTok, TokLine.skipWhiteSpace_behind hs, htake, hdrop]
  simp only [show (TokLine.behind (done ++ space) r).cur = some (done ++ space).length from rfl,
    if_neg hchar]

/-- A call of `nextTok` cuts off the field ahead. -/
theorem nextTok_behind {done s : CString} (hs : nul ∉ s) :
    nextTok (.behind done s) = (some ((cutField s).index done), (cutField s).line done) := by
  generalize hcut : cutField s = c
  have hcuts : Cuts s c := hcut ▸ cuts_cutField s
  cases hcuts with
  | @unclosed space q hspace hq =>
    have hq' : nul ∉ q := by simp_all
    rw [nextTok_quote hspace hs, TokLine.strsep_of_not_mem hq' hq, Cut.index, Cut.line,
      List.append_assoc]
    rfl
  | @quotedLast space a b hspace ha hb =>
    have hab : nul ∉ a ++ '"' :: b := by simp_all
    have hb' : nul ∉ b := by simp_all
    rw [nextTok_quote hspace hs, TokLine.strsep_of_mem hab ha, TokLine.skipNextComma_of_not_mem hb' hb]
    simp [Cut.index, Cut.line]
  | @quoted space a b rest hspace ha hb =>
    have hab : nul ∉ a ++ '"' :: (b ++ ',' :: rest) := by simp_all
    have hb' : nul ∉ b ++ ',' :: rest := by simp_all
    rw [nextTok_quote hspace hs, TokLine.strsep_of_mem hab ha, TokLine.skipNextComma_of_mem hb' hb]
    simp [Cut.index, Cut.line]
  | @last space a hspace hhead ha =>
    have ha' : nul ∉ a := by simp_all
    rw [nextTok_plain hspace hhead hs, TokLine.behind, TokLine.strsep_of_not_mem ha' ha]
    rfl
  | @unquoted space a rest hspace hhead ha =>
    have ha' : nul ∉ a ++ ',' :: rest := by simp_all
    rw [nextTok_plain hspace (head_append_comma hhead) hs, TokLine.behind,
      TokLine.strsep_of_mem ha' ha]
    rfl

/-- The token stands at its index, with a terminator behind it. -/
theorem text_index (done : CString) {s : CString} (hs : nul ∉ s) :
    ((cutField s).line done).text ((cutField s).index done) = (cutField s).token := by
  generalize hcut : cutField s = c
  have hcuts : Cuts s c := hcut ▸ cuts_cutField s
  have htoken : nul ∉ c.token := by cases hcuts <;> simp_all
  have hnext : c.next = none ∨ ∃ b rest, c.next = some (nul :: b, rest) := by
    cases hcuts <;> simp
  rcases hnext with hnext | ⟨b, rest, hnext⟩
  · rw [Cut.line, hnext]
    exact TokLine.text_of_end htoken
  · rw [Cut.line, hnext]
    dsimp only
    rw [TokLine.behind, List.append_assoc _ (nul :: b), List.append_assoc _ c.token, List.cons_append]
    exact TokLine.text_of_nul htoken

/-- What is ahead after a cut is a part of what was ahead. -/
theorem nul_not_mem_rest {s : CString} (hs : nul ∉ s) {sep rest : CString}
    (h : (cutField s).next = some (sep, rest)) : nul ∉ rest := by
  generalize hcut : cutField s = c at h
  have hcuts : Cuts s c := hcut ▸ cuts_cutField s
  cases hcuts <;> simp_all

theorem atTokNextstr_behind (done : CString) {s : CString} (hs : nul ∉ s) :
    atTokNextstr (.behind done s) =
      ⟨0, some ((cutField s).index done), (cutField s).line done⟩ := by
  unfold atTokNextstr
  rw [show (TokLine.behind done s).cur = some done.length from rfl, nextTok_behind hs]

theorem atTokNextintBase_behind {done s : CString} (hs : nul ∉ s) (base : Nat) (uns : Bool) :
    atTokNextintBase (.behind done s) base uns =
      let (v, found) :=
        if uns then strtoul base (cutField s).token else strtol base (cutField s).token
      ⟨if found then 0 else -1, some v, (cutField s).line done⟩ := by
  rw [atTokNextintBase]
  simp only [show (TokLine.behind done s).cur = some done.length from rfl, nextTok_behind hs,
    text_index _ hs]

theorem atTokHasmore_behind (done : CString) {s : CString} (hs : nul ∉ s) :
    atTokHasmore (.behind done s) = true ↔ s ≠ [] := by
  have hchar : (TokLine.behind done s).char done.length = s.getD 0 nul := TokLine.char_append 0
  rw [atTokHasmore]
  simp only [show (TokLine.behind done s).cur = some done.length from rfl, hchar]
  cases s with
  | nil => simp
  | cons c s => simpa using fun heq : c = nul => hs (heq ▸ List.mem_cons_self)

/-- `at_tok_start` moves behind the colon. -/
theorem atTokStart_ofString {s : CString} (hs : nul ∉ s) :
    atTokStart (.ofString s) = match cutAt ':' s with
      | (_, none) => (-1, ⟨s, none⟩)
      | (pre, some rest) => (0, .behind (pre ++ [':']) rest) := by
  rcases cutAt_cases ':' s with ⟨hc, hcut⟩ | ⟨a, b, rfl, ha, hcut⟩
  · have hstr := TokLine.strchr_of_not_mem [] (some 0) hs hc
    rw [hcut, atTokStart]
    simp only [TokLine.ofString, show TokLine.strchr ⟨s, some 0⟩ ':' 0 = none from hstr]
  · have hstr := TokLine.strchr_of_mem [] (some 0) hs ha
    rw [hcut, atTokStart]
    simp only [TokLine.ofString,
      show TokLine.strchr ⟨a ++ ':' :: b, some 0⟩ ':' 0 = some (0 + a.length) from hstr]
    simp [TokLine.behind]

/-! ## Numbers -/

theorem ne_of_digit {base : Nat} {c d : Char} (h : (digitVal base c).isSome = true)
    (hd : digitVal base d = none) : c ≠ d := by
  rintro rfl
  rw [hd] at h
  cases h

theorem isSpace_of_digit {base : Nat} {c : Char} (h : (digitVal base c).isSome = true) :
    isSpace c = false := by
  have hne : ∀ d, isSpace d = true → digitVal base d = none := by
    intro d hd
    simp only [isSpace, Bool.or_eq_true, beq_iff_eq] at hd
    rcases hd with ((((rfl | rfl) | rfl) | rfl) | rfl) | rfl <;> simp [digitVal]
  cases hspace : isSpace c with
  | false => rfl
  | true => exact absurd rfl (ne_of_digit h (hne c hspace))

/-- A digit is enough for a number. -/
theorem strtol_of_digit {c : Char} (h : (digitVal 10 c).isSome = true) (s : CString) :
    (strtol 10 (c :: s)).2 = true := by
  have hspace : (c :: s).dropWhile isSpace = c :: s :=
    List.dropWhile_cons_of_neg (by simp [isSpace_of_digit h])
  have hstart : startsWithDigitOf 10 (c :: s) = true := h
  have hminus : c ≠ '-' := ne_of_digit h rfl
  have hplus : c ≠ '+' := ne_of_digit h rfl
  show (scanNumber 10 (c :: s)).2.2 = true
  unfold scanNumber
  simp only [hspace]
  split <;> simp_all

theorem digits_of_not_startsWith {base : Nat} {s : CString} (h : startsWithDigitOf base s = false)
    (n : Nat) : digits base s n = n := by
  cases s with
  | nil => rfl
  | cons c s =>
    cases hc : digitVal base c with
    | none => rw [digits, hc]
    | some v => simp [startsWithDigitOf, hc] at h

/-- Without a number the value is 0. -/
theorem strtol_of_not_found {base : Nat} {s : CString} (h : (strtol base s).2 = false) :
    (strtol base s).1 = 0 := by
  have hdigits : (scanNumber base s).2.1 = 0 := by
    have hfound : (scanNumber base s).2.2 = false := h
    unfold scanNumber at hfound ⊢
    exact digits_of_not_startsWith hfound 0
  unfold strtol
  simp only [hdigits]
  split <;> rfl

theorem cutField_of_digit {c : Char} (h : (digitVal 10 c).isSome = true) (s : CString) :
    ∃ token, (cutField (c :: s)).token = c :: token := by
  have hhead : ∀ d ∈ (some c), d ≠ '"' ∧ isSpace d = false := by
    rintro d ⟨⟩
    exact ⟨ne_of_digit h rfl, isSpace_of_digit h⟩
  rcases cutAt_cases ',' (c :: s) with ⟨hs, -⟩ | ⟨a, b, hab, ha, -⟩
  · have hcuts := @Cuts.last [] (c :: s) (List.forall_mem_nil _) hhead hs
    exact ⟨s, congrArg Cut.token hcuts.cutField_eq⟩
  · cases a with
    | nil => exact absurd (List.cons.inj hab).1 (ne_of_digit h rfl)
    | cons d a =>
      obtain ⟨rfl, rfl⟩ := List.cons.inj hab
      have hcuts := @Cuts.unquoted [] (c :: a) b (List.forall_mem_nil _) hhead ha
      exact ⟨a, congrArg Cut.token hcuts.cutField_eq⟩

/-- A call on a digit finds a number. -/
theorem atTokNextint_of_digit {c : Char} (h : (digitVal 10 c).isSome = true) (done : CString)
    {s : CString} (hs : nul ∉ c :: s) :
    ∃ v, atTokNextint (.behind done (c :: s)) =
      ⟨0, some v, (cutField (c :: s)).line done⟩ := by
  obtain ⟨token, htoken⟩ := cutField_of_digit h s
  have hfound := strtol_of_digit h token
  rw [atTokNextint, atTokNextintBase_behind hs, htoken]
  generalize strtol 10 (c :: token) = number at hfound
  obtain ⟨v, found⟩ := number
  obtain rfl : found = true := hfound
  exact ⟨v, rfl⟩

/-! ## Fields as they are written -/

/-- A field of a line: its value, with or without quotes, the white space in front and, behind a
    closing quote, whatever stands there up to the comma. -/
structure Field where
  space : CString
  quoted : Bool
  value : CString
  stray : CString
  deriving DecidableEq, Repr

namespace Field

def render (f : Field) : CString :=
  f.space ++ if f.quoted then '"' :: (f.value ++ '"' :: f.stray) else f.value

/-- Nothing in the field ends it too early. -/
structure Ok (f : Field) : Prop where
  space : ∀ c ∈ f.space, isSpace c = true
  value : if f.quoted then '"' ∉ f.value
    else (∀ c ∈ f.value.head?, c ≠ '"' ∧ isSpace c = false) ∧ ',' ∉ f.value
  stray : ',' ∉ f.stray

theorem ok_iff (f : Field) : f.Ok ↔ f.space.all isSpace = true ∧
    (if f.quoted then '"' ∉ f.value
      else f.value.head?.all (fun c => c != '"' && !isSpace c) = true ∧ ',' ∉ f.value) ∧
    ',' ∉ f.stray := by
  have hvalue : f.value.head?.all (fun c => c != '"' && !isSpace c) = true ↔
      ∀ c ∈ f.value.head?, c ≠ '"' ∧ isSpace c = false := by
    cases f.value.head? <;> simp
  rw [List.all_eq_true, hvalue]
  exact ⟨fun h => ⟨h.space, h.value, h.stray⟩, fun h => ⟨h.1, h.2.1, h.2.2⟩⟩

instance (f : Field) : Decidable f.Ok := decidable_of_iff _ f.ok_iff.symm

/-- The field and what follows its comma. -/
def renderThen (f : Field) : Option CString → CString
  | none => f.render
  | some rest => f.render ++ ',' :: rest

theorem nul_not_mem_renderThen {f : Field} {rest : CString} (h : nul ∉ f.renderThen (some rest)) :
    nul ∉ f.value ∧ nul ∉ rest := by
  unfold renderThen render at h
  cases hq : f.quoted <;> simp_all

theorem mem_render {f : Field} {c : Char} (h : c ∈ f.value) : c ∈ f.render := by
  unfold render
  cases f.quoted <;> simp [h]

theorem Ok.comma_not_mem_render {f : Field} (hf : f.Ok) (hvalue : ',' ∉ f.value) : ',' ∉ f.render := by
  have hspace : ',' ∉ f.space := fun hmem => nomatch hf.space ',' hmem
  unfold render
  cases f.quoted <;> simp [hspace, hvalue, hf.stray]

/-- What stands in front of the value. -/
def lead (f : Field) : CString := if f.quoted then f.space ++ ['"'] else f.space

/-- What stands between the value and the next field, after the cut. -/
def sep (f : Field) : CString := if f.quoted then nul :: f.stray ++ [','] else [nul]

/-- The cut behind a field that is followed by `rest`. -/
def cut (f : Field) (rest : Option CString) : Cut where
  skipped := f.lead
  token := f.value
  next := match rest with
    | none => if f.quoted then some (nul :: f.stray, []) else none
    | some rest => some (f.sep, rest)

theorem cutField_renderThen {f : Field} (hf : f.Ok) (rest : Option CString) :
    cutField (f.renderThen rest) = f.cut rest := by
  obtain ⟨hspace, hvalue, hstray⟩ := hf
  obtain ⟨space, quoted, value, stray⟩ := f
  apply Cuts.cutField_eq
  cases quoted with
  | true =>
    cases rest with
    | none => exact .quotedLast hspace hvalue hstray
    | some rest =>
      have hcuts := @Cuts.quoted space value stray rest hspace hvalue hstray
      simpa [renderThen, render, cut, lead, sep] using hcuts
  | false =>
    cases rest with
    | none => exact .last hspace hvalue.1 hvalue.2
    | some rest =>
      have hcuts := @Cuts.unquoted space value rest hspace hvalue.1 hvalue.2
      simpa [renderThen, render, cut, lead, sep] using hcuts

theorem sep_eq (f : Field) : ∃ sep, f.sep = nul :: sep := by
  unfold sep
  split
  · exact ⟨f.stray ++ [','], rfl⟩
  · exact ⟨[], rfl⟩

/-- The value of a field that has been cut off. -/
theorem text_value {f : Field} (hvalue : nul ∉ f.value) (done rest : CString) :
    (TokLine.behind (done ++ f.lead ++ f.value ++ f.sep) rest).text (done ++ f.lead).length =
      f.value := by
  obtain ⟨sep, hsep⟩ := f.sep_eq
  have hbuf : done ++ f.lead ++ f.value ++ f.sep ++ rest =
      done ++ f.lead ++ (f.value ++ nul :: (sep ++ rest)) := by
    rw [hsep]
    simp
  rw [TokLine.behind, hbuf]
  exact TokLine.text_of_nul hvalue

/-- A call on a field with another behind it. -/
theorem atTokNextstr_field {f : Field} (hf : f.Ok) (done : CString) {rest : CString}
    (hnul : nul ∉ f.renderThen (some rest)) :
    atTokNextstr (.behind done (f.renderThen (some rest))) =
      ⟨0, some (done ++ f.lead).length, .behind (done ++ f.lead ++ f.value ++ f.sep) rest⟩ := by
  rw [atTokNextstr_behind _ hnul, cutField_renderThen hf]
  rfl

end Field

end AndroidPatch.Ril
