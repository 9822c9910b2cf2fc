import AndroidPatch.Misc.FirstOfEach
import AndroidPatch.Ril.Reference.Network
import AndroidPatch.Ril.Reference.Proofs.TokStrings

/-!
# The rounds of the network scan

`requestQueryAvailableNetworks` cuts an element from the first opening parenthesis to the first closing one
behind it in each round, reads four fields of it, and stores them when their code is new.
-/

namespace AndroidPatch.Ril.Reference

open AtChannel
open Altair (Undefined Sees decimal readField)

/-! ## The elements of a line -/

theorem strstrFrom_char {c : Char} {s : CString} :
    strstrFrom s [c] = (cutAt c s).2.map fun rest => c :: rest := by
  induction s with
  | nil => rfl
  | cons d s ih =>
    by_cases hd : d = c
    · subst hd
      have hcut : cutAt d (d :: s) = ([], some s) := @cutAt_append d [] s List.not_mem_nil
      have hyes : strStartsWith (d :: s) [d] = true := (strStartsWith_iff _ _).mpr ⟨s, rfl⟩
      rw [strstrFrom, if_pos hyes, hcut]
      rfl
    · have hno : ¬ strStartsWith (d :: s) [c] = true := by
        rw [strStartsWith_iff, List.cons_prefix_cons]
        exact fun h => hd h.1.symm
      have hcut : (cutAt c (d :: s)).2 = (cutAt c s).2 := by
        rw [cutAt, cutAt, List.dropWhile_cons_of_pos (by simpa using hd)]
        cases s.dropWhile (· != c) <;> rfl
      rw [strstrFrom, if_neg hno, ih, hcut]

/-- What stands between the first opening parenthesis and the first closing one behind it, and what
    follows. -/
theorem getFirstElementValue_parens (s : CString) :
    getFirstElementValue s "(" ")" =
      (cutAt '(' s).2.bind fun r => (cutAt ')' r).2.map fun rest => ((cutAt ')' r).1, rest) := by
  have hopen : strstrFrom s "(" = (cutAt '(' s).2.map fun rest => '(' :: rest := strstrFrom_char
  unfold getFirstElementValue
  simp only [hopen]
  cases (cutAt '(' s).2 with
  | none => rfl
  | some r =>
    have hclose : strstrFrom ('(' :: r) ")" = (cutAt ')' r).2.map fun rest => ')' :: rest := by
      have hno : ¬ strStartsWith ('(' :: r) ")" = true := by
        rw [strStartsWith_iff]
        rintro ⟨t, ht⟩
        cases ht
      rw [strstrFrom, if_neg hno]
      exact strstrFrom_char
    simp only [Option.map_some, Option.bind_eq_bind, Option.bind_some, hclose]
    rcases cutAt_cases ')' r with ⟨-, hcut⟩ | ⟨a, b, rfl, -, hcut⟩
    · rw [hcut]
      rfl
    · rw [hcut]
      simp

theorem getFirstElementValue_eq_some_iff {s value rest : CString} :
    getFirstElementValue s "(" ")" = some (value, rest) ↔
      ∃ gap : CString, s = gap ++ '(' :: (value ++ ')' :: rest) ∧ '(' ∉ gap ∧ ')' ∉ value := by
  rw [getFirstElementValue_parens]
  constructor
  · intro h
    rcases cutAt_cases '(' s with ⟨-, hcut⟩ | ⟨gap, r, rfl, hgap, hcut⟩
    · rw [hcut] at h
      cases h
    · rw [hcut] at h
      rcases cutAt_cases ')' r with ⟨-, hcut⟩ | ⟨value', rest', rfl, hvalue, hcut⟩
      · simp only [Option.bind_some, hcut] at h
        cases h
      · simp only [Option.bind_some, hcut] at h
        cases h
        exact ⟨gap, rfl, hgap, hvalue⟩
  · rintro ⟨gap, rfl, hgap, hvalue⟩
    rw [cutAt_append hgap]
    simp only [Option.bind_some, cutAt_append hvalue, Option.map_some]

theorem getFirstElementValue_of_not_mem {s : CString} (h : '(' ∉ s) :
    getFirstElementValue s "(" ")" = none := by
  rw [getFirstElementValue_parens, cutAt_of_not_mem h]
  rfl

/-- What the searches find one after the other. -/
inductive Elements : CString → List CString → Prop
  | nil {s : CString} (h : getFirstElementValue s "(" ")" = none) : Elements s []
  | cons {s value rest : CString} {values : List CString}
      (h : getFirstElementValue s "(" ")" = some (value, rest)) (hrest : Elements rest values) :
      Elements s (value :: values)

theorem Elements.isNone_iff {s : CString} {values : List CString} (h : Elements s values) :
    (getFirstElementValue s "(" ")").isNone = true ↔ values = [] := by
  cases h with
  | nil h =>
    rw [h]
    simp
  | cons h hrest =>
    rw [h]
    simp

theorem Elements.exists (s : CString) : ∃ values, Elements s values := by
  induction hn : s.length using Nat.strongRecOn generalizing s with
  | ind n ih =>
    cases h : getFirstElementValue s "(" ")" with
    | none => exact ⟨[], .nil h⟩
    | some element =>
      obtain ⟨value, rest⟩ := element
      obtain ⟨gap, rfl, -, -⟩ := getFirstElementValue_eq_some_iff.mp h
      obtain ⟨values, hvalues⟩ := ih rest.length
        (by simp only [List.length_append, List.length_cons] at hn; omega) rest rfl
      exact ⟨value :: values, .cons h hvalues⟩

/-! ## What an element says -/

/-- The four fields that are read of an element. -/
structure Entry where
  status : Int
  long : CString
  short : CString
  numeric : CString
  deriving DecidableEq, Repr

def readEntry (s : CString) : Option Entry := do
  let (status, ahead) ← readField decimal (some s)
  let (long, short, numeric) ← readStrings ahead
  return ⟨status, long, short, numeric⟩

/-- The four calls read the entry of an element. -/
theorem tokEntry_bind {α : Type} {b : CString} (hb : nul ∉ b) (f : Entry → Body α) :
    (do
      let (status, l) ← tokNextint (.ofString b)
      let (long, l) ← tokNextstr l
      let (short, l) ← tokNextstr l
      let (numeric, l) ← tokNextstr l
      f ⟨status, l.text long, l.text short, l.text numeric⟩) =
      match readEntry b with
      | none => gotoError
      | some e => f e := by
  have hsees : Sees (.ofString b) (some b) := ⟨hb, [], rfl⟩
  unfold readEntry
  rcases reads_nextint.cases hsees with ⟨hfield, hread⟩ | ⟨status, l, ahead, hfield, hsees, hread⟩
  · rw [hfield, hread]
    rfl
  · rw [hfield, hread]
    simp only [pure_bind, Option.bind_eq_bind, Option.bind_some]
    rw [tokStrings_bind hsees fun long short numeric => f ⟨status, long, short, numeric⟩]
    cases readStrings ahead <;> rfl

/-! ## The loop -/

/-- What a status stands for. -/
def statusOf (env : Env) (status : Int) : CString :=
  if status < 0 then env.garbageStr 0
  else (["unknown", "available", "current", "forbidden"] : List CString).getD status.toNat
    (env.garbageStr 0)

def Entry.network (env : Env) (e : Entry) : Network := ⟨e.long, e.short, e.numeric, statusOf env e.status⟩

/-- The status is in the table. -/
def Entry.Known (e : Entry) : Prop := 0 ≤ e.status ∧ e.status < 4

theorem exec_statusText (status : Int) (env : Env) (w : World Store Event) :
    (statusText status).exec env w = (.ok (statusOf env status), { w with
      trace := w.trace ++ if status < 0 ∨ 4 ≤ status then [.undefined .outOfBounds] else [] }) := by
  unfold statusText
  rw [Traced.exec_bind_of_ok (Traced.exec_read env w),
    Traced.exec_bind_of_ok (exec_undefinedIf _ _ env w)]
  unfold statusOf
  split <;> rfl

/-- The entries that the rounds store for the elements ahead. -/
def visit : Nat → List CString → List Entry → Option (List Entry)
  | 0, _, found => some found
  | _ + 1, [], _ => none
  | n + 1, value :: values, found =>
      (readEntry value).bind fun e =>
        if e.numeric ∈ found.map Entry.numeric then visit n values found
        else if values = [] then some (found ++ [e])
        else visit n values (found ++ [e])

theorem visit_cons (n : Nat) (value : CString) (values : List CString) (found : List Entry) :
    visit (n + 1) (value :: values) found = (readEntry value).bind fun e =>
      if e.numeric ∈ found.map Entry.numeric then visit n values found
      else if values = [] then some (found ++ [e])
      else visit n values (found ++ [e]) := rfl

theorem visit_subset {n : Nat} {values : List CString} {found found' : List Entry}
    (h : visit n values found = some found') : found ⊆ found' := by
  induction n generalizing values found with
  | zero =>
    cases h
    exact List.Subset.refl _
  | succ n ih =>
    cases values with
    | nil => cases h
    | cons value values =>
      obtain ⟨e, -, h⟩ := Option.bind_eq_some_iff.mp h
      split at h
      · exact ih h
      · split at h
        · cases h
          exact List.subset_append_left _ _
        · exact List.Subset.trans (List.subset_append_left _ _) (ih h)

/-- A round of the loop behind the entry of its element. -/
def networkRound (size n : Nat) (rest : CString) (found : List Network) (e : Entry) :
    Body (List Network) :=
  if found.any (·.numeric == e.numeric) then networkLoop size n rest found
  else do
    undefinedIf (size ≤ found.length) .outOfBounds
    let stat ← statusText e.status
    let found := found ++ [⟨e.long, e.short, e.numeric, stat⟩]
    if (getFirstElementValue rest "(" ")").isNone then return found
    else networkLoop size n rest found

theorem networkLoop_succ {s value rest : CString} (h : getFirstElementValue s "(" ")" = some (value, rest))
    (hvalue : nul ∉ value) (size n : Nat) (found : List Network) :
    networkLoop size (n + 1) s found = match readEntry value with
      | none => gotoError
      | some e => networkRound size n rest found e := by
  rw [networkLoop, h]
  exact tokEntry_bind hvalue (networkRound size n rest found)

theorem any_numeric_iff {env : Env} {found : List Entry} {numeric : CString} :
    (found.map (Entry.network env)).any (·.numeric == numeric) = true ↔
      numeric ∈ found.map Entry.numeric := by
  simp only [List.any_eq_true, List.mem_map, beq_iff_eq]
  constructor
  · rintro ⟨_, ⟨e, hmem, rfl⟩, rfl⟩
    exact ⟨e, hmem, rfl⟩
  · rintro ⟨e, hmem, rfl⟩
    exact ⟨_, ⟨e, hmem, rfl⟩, rfl⟩

/-- The loop never stores behind the array, and has no undefined behavior as long as the status of each
    operator that it stores is in the table. -/
theorem exec_networkLoop {s : CString} {values : List CString} (h : Elements s values) (hs : nul ∉ s)
    {size n : Nat} {found : List Entry} (hsize : found.length + n ≤ size) (env : Env)
    (w : World Store Event) :
    ∃ l, (networkLoop size n s (found.map (Entry.network env))).exec env w =
        (.ok ((visit n values found).map (List.map (Entry.network env))), ⟨w.store, w.trace ++ l⟩) ∧
      ∀ found', visit n values found = some found' → (∀ e ∈ found', e.Known) → l = [] := by
  induction n generalizing s values found w with
  | zero =>
    refine ⟨[], ?_, fun _ _ _ => rfl⟩
    rw [networkLoop, List.append_nil]
    rfl
  | succ n ih =>
    cases h with
    | nil h =>
      refine ⟨[], ?_, fun _ _ _ => rfl⟩
      rw [networkLoop, h, List.append_nil]
      rfl
    | @cons _ value rest values h hrest =>
      obtain ⟨gap, rfl, -, -⟩ := getFirstElementValue_eq_some_iff.mp h
      have hvalue : nul ∉ value := fun hmem => hs (by simp [hmem])
      have hs' : nul ∉ rest := fun hmem => hs (by simp [hmem])
      rw [networkLoop_succ h hvalue]
      cases hentry : readEntry value with
      | none =>
        refine ⟨[], ?_, fun _ _ _ => rfl⟩
        rw [visit_cons, hentry, List.append_nil]
        rfl
      | some e =>
        simp only [visit_cons, hentry, Option.bind_some, networkRound]
        by_cases hold : e.numeric ∈ found.map Entry.numeric
        · rw [if_pos (any_numeric_iff.mpr hold), if_pos hold]
          exact ih hrest hs' (by omega) w
        · rw [if_neg fun hany => hold (any_numeric_iff.mp hany), if_neg hold]
          have hroom : ¬ size ≤ (found.map (Entry.network env)).length := by
            rw [List.length_map]
            omega
          have hfound : found.map (Entry.network env) ++
              [⟨e.long, e.short, e.numeric, statusOf env e.status⟩] =
              (found ++ [e]).map (Entry.network env) := by
            rw [List.map_append]
            rfl
          rw [Block.exec_lift_bind_of_ok (exec_undefinedIf _ _ env w), if_neg hroom, List.append_nil,
            Block.exec_lift_bind_of_ok (exec_statusText e.status env w)]
          rw [hfound]
          generalize hevents : (if e.status < 0 ∨ 4 ≤ e.status then [Event.undefined .outOfBounds]
            else []) = events
          have hnone : e.Known → events = [] := by
            rintro ⟨hlo, hhi⟩
            rw [← hevents, if_neg (by omega)]
          by_cases hlast : values = []
          · rw [if_pos (hrest.isNone_iff.mpr hlast), if_pos hlast]
            refine ⟨events, rfl, fun found' hvisit hknown => ?_⟩
            cases hvisit
            exact hnone (hknown e (by simp))
          · rw [if_neg fun hnone => hlast (hrest.isNone_iff.mp hnone), if_neg hlast]
            obtain ⟨l, hexec, hnil⟩ := @ih _ _ hrest hs' (found ++ [e])
              (by rw [List.length_append, List.length_singleton]; omega)
              { w with trace := w.trace ++ events }
            refine ⟨events ++ l, ?_, fun found' hvisit hknown => ?_⟩
            · rw [← List.append_assoc]
              exact hexec
            · rw [hnone (hknown e (visit_subset hvisit (by simp))), hnil found' hvisit hknown]
              rfl

/-! ## The rounds -/

section Visit

variable {n : Nat} {values : List CString} {found found' : List Entry}

theorem mem_of_visit (h : visit n values found = some found') :
    ∀ e ∈ found', e ∈ found ∨ ∃ value ∈ values, readEntry value = some e := by
  induction n generalizing values found with
  | zero =>
    cases h
    exact fun e he => .inl he
  | succ n ih =>
    cases values with
    | nil => cases h
    | cons value values =>
      obtain ⟨e, hentry, h⟩ := Option.bind_eq_some_iff.mp h
      have hnew : ∀ e' ∈ found ++ [e], e' ∈ found ∨ ∃ v ∈ value :: values, readEntry v = some e' := by
        intro e' he'
        rcases List.mem_append.mp he' with he' | he'
        · exact .inl he'
        · rw [List.mem_singleton.mp he']
          exact .inr ⟨value, List.mem_cons_self, hentry⟩
      split at h
      · intro e' he'
        exact (ih h e' he').imp_right fun ⟨v, hv, hread⟩ => ⟨v, List.mem_cons_of_mem _ hv, hread⟩
      · split at h
        · cases h
          exact hnew
        · intro e' he'
          rcases ih h e' he' with hmem | ⟨v, hv, hread⟩
          · exact hnew e' hmem
          · exact .inr ⟨v, List.mem_cons_of_mem _ hv, hread⟩

/-- The rounds for elements with an entry each. -/
theorem visit_append {as : List CString} {es : List Entry} (has : as.map readEntry = es.map some)
    (hmore : values ≠ [] ∨ n = 0) :
    visit (n + as.length) (as ++ values) found =
      visit n values (addNew Entry.numeric found es) := by
  induction as generalizing es found with
  | nil =>
    cases es with
    | nil => rfl
    | cons e es => cases has
  | cons a as ih =>
    cases es with
    | nil => cases has
    | cons e es =>
      obtain ⟨hentry, has⟩ := List.cons.inj has
      rw [List.cons_append, List.length_cons, ← Nat.add_assoc, visit_cons, hentry, addNew]
      simp only [Option.bind_some]
      split
      · exact ih has
      · split
        · rename_i hempty
          obtain ⟨rfl, rfl⟩ := List.append_eq_nil_iff.mp hempty
          obtain rfl : n = 0 := hmore.resolve_left fun hne => hne rfl
          obtain rfl : es = [] := List.map_eq_nil_iff.mp has.symm
          rfl
        · exact ih has

/-- Rounds that find only what is there. -/
theorem visit_old (hlen : n ≤ values.length)
    (hold : ∀ value ∈ values.take n, ∃ e, readEntry value = some e ∧ e.numeric ∈ found.map Entry.numeric) :
    visit n values found = some found := by
  induction n generalizing values with
  | zero => rfl
  | succ n ih =>
    cases values with
    | nil => cases hlen
    | cons value values =>
      obtain ⟨e, hentry, hmem⟩ := hold value List.mem_cons_self
      rw [visit_cons, hentry, Option.bind_some, if_pos hmem]
      exact ih (Nat.le_of_succ_le_succ hlen) fun v hv => hold v (List.mem_cons_of_mem _ hv)

/-- Rounds that store nothing have found only what is there. -/
theorem old_of_visit (h : visit n values found = some found')
    (hsame : found'.map Entry.numeric = found.map Entry.numeric) :
    n ≤ values.length ∧ ∀ value ∈ values.take n,
      ∃ e, readEntry value = some e ∧ e.numeric ∈ found.map Entry.numeric := by
  induction n generalizing values with
  | zero => simp
  | succ n ih =>
    cases values with
    | nil => cases h
    | cons value values =>
      obtain ⟨e, hentry, h⟩ := Option.bind_eq_some_iff.mp h
      by_cases hmem : e.numeric ∈ found.map Entry.numeric
      · rw [if_pos hmem] at h
        obtain ⟨hlen, hold⟩ := ih h
        refine ⟨Nat.succ_le_succ hlen, ?_⟩
        rw [List.take_succ_cons, List.forall_mem_cons]
        exact ⟨⟨e, hentry, hmem⟩, hold⟩
      · -- the new entry stays
        rw [if_neg hmem] at h
        have hstored : e ∈ found' := by
          split at h
          · cases h
            simp
          · exact visit_subset h (by simp)
        exact absurd (hsame ▸ List.mem_map_of_mem hstored) hmem

end Visit

end AndroidPatch.Ril.Reference
