import AndroidPatch.Ril.Proofs.AtTokFields
import AndroidPatch.Ril.Altair.Proofs.Statements
import AndroidPatch.Ril.Altair.Data

/-!
# Addresses with masks

How `requestOrSendDataCallList` rewrites an address and a mask in the line: eight is added for each
octet of the mask up to the first that starts with a zero, and the sum is printed over the mask.
-/

namespace AndroidPatch.Ril.Altair

theorem dec_natCast (n : Nat) : dec n = Nat.toDigits 10 n := by
  rw [dec, if_neg (by omega), Int.natAbs_natCast]

/-- A number is made of digits. -/
theorem not_mem_dec {c : Char} (hc : c.isDigit = false) (n : Nat) : c ∉ dec n := by
  rw [dec_natCast]
  intro hmem
  have hdigit := Nat.isDigit_of_mem_toDigits (by decide) (by decide) hmem
  rw [hc] at hdigit
  cases hdigit

/-! ## The scan -/

/-- Octets with dots between them. -/
def dotted : List CString → CString
  | [] => []
  | [o] => o
  | o :: os => o ++ '.' :: dotted os

/-- The octets of a mask that count: those in front of the first that starts with a zero. -/
def countedOctets (octets : List CString) : Nat :=
  (octets.takeWhile fun o => o.head? != some '0').length

section Scan

variable {p dots n : Nat} {mask : Option Nat}

/-- Characters between the dots. -/
theorem scanMask_skip {a : CString} (ha : '.' ∉ a) (rest : CString) :
    scanMask (a ++ rest) p dots mask n = scanMask rest (p + a.length) dots mask n := by
  induction a generalizing p with
  | nil => rfl
  | cons c a ih =>
    rw [List.mem_cons, not_or] at ha
    rw [List.cons_append, scanMask, if_neg (Ne.symm ha.1), ih ha.2, List.length_cons]
    congr 1
    omega

/-- In front of the fourth dot there is no mask. -/
theorem scanMask_address {a : CString} (hdots : dots + a.count '.' < 4) (rest : CString) :
    scanMask (a ++ rest) p dots none n =
      scanMask rest (p + a.length) (dots + a.count '.') none n := by
  induction a generalizing p dots with
  | nil => rfl
  | cons c a ih =>
    rw [List.cons_append, scanMask, List.length_cons]
    by_cases hc : c = '.'
    · subst hc
      rw [List.count_cons_self] at hdots ⊢
      have hfew : dots + 1 ≠ 4 := by omega
      simp only [if_true, if_neg hfew, Option.isSome_none, Bool.false_eq_true, if_false]
      rw [ih (by omega)]
      congr 1 <;> omega
    · rw [if_neg hc, ih (by rwa [List.count_cons_of_ne hc] at hdots), List.count_cons_of_ne hc]
      congr 1
      omega

/-- A dot with the mask behind it. -/
theorem scanMask_dot {q : Nat} (rest : CString)
    (hmask : (dots = 3 ∧ mask = none ∧ q = p + 1) ∨ (3 < dots ∧ mask = some q)) :
    scanMask ('.' :: rest) p dots mask n =
      if rest.head? = some '0' then (some q, n)
      else scanMask rest (p + 1) (dots + 1) (some q) (n + 8) := by
  rw [scanMask, if_pos rfl]
  rcases hmask with ⟨rfl, rfl, rfl⟩ | ⟨hdots, rfl⟩
  · simp
  · have hlater : dots + 1 ≠ 4 := by omega
    simp [hlater]

theorem dotted_cons (o : CString) (os : List CString) :
    dotted (o :: os) = o ++ if os = [] then [] else '.' :: dotted os := by
  cases os with
  | nil => simp [dotted]
  | cons o' os => simp [dotted]

theorem head_dotted (o : CString) (os : List CString) :
    (dotted (o :: os)).head? = some '0' ↔ o.head? = some '0' := by
  rw [dotted_cons]
  cases o with
  | nil => split <;> simp
  | cons c o => simp

/-- The octets of the mask, from the dot in front of them on. -/
theorem scanMask_octets {q : Nat} {octets : List CString} (hne : octets ≠ [])
    (hoctets : ∀ o ∈ octets, '.' ∉ o)
    (hmask : (dots = 3 ∧ mask = none ∧ q = p + 1) ∨ (3 < dots ∧ mask = some q)) :
    scanMask ('.' :: dotted octets) p dots mask n = (some q, n + 8 * countedOctets octets) := by
  induction octets generalizing p dots mask n with
  | nil => exact absurd rfl hne
  | cons o os ih =>
    have ho : '.' ∉ o := hoctets o List.mem_cons_self
    rw [scanMask_dot (dotted (o :: os)) hmask, countedOctets]
    by_cases hzero : o.head? = some '0'
    · rw [if_pos ((head_dotted o os).mpr hzero), List.takeWhile_cons_of_neg (by simp [hzero])]
      rfl
    · rw [if_neg (mt (head_dotted o os).mp hzero), List.takeWhile_cons_of_pos (by simpa using hzero),
        dotted_cons, scanMask_skip ho, List.length_cons]
      by_cases hos : os = []
      · subst hos
        rfl
      · have hlater : 3 < dots + 1 := by
          rcases hmask with ⟨h, -⟩ | ⟨h, -⟩ <;> omega
        rw [if_neg hos, ih hos (fun o' ho' => hoctets o' (List.mem_cons_of_mem o ho'))
          (.inr ⟨hlater, rfl⟩), countedOctets]
        congr 1
        omega

theorem countedOctets_le (octets : List CString) : countedOctets octets ≤ octets.length :=
  (List.takeWhile_prefix _).length_le

/-- The number of the bits is shorter than a mask of four octets. -/
theorem length_dec_countedOctets {octets : List CString} (hfour : octets.length = 4) :
    (dec (8 * countedOctets octets : Nat)).length < (dotted octets).length := by
  have hle := countedOctets_le octets
  have hdec : (dec (8 * countedOctets octets : Nat)).length ≤ 2 := by
    rw [dec_natCast, Nat.length_toDigits_le_iff (by decide) (by decide)]
    omega
  have hdotted : 3 ≤ (dotted octets).length := by
    match octets, hfour with
    | [o1, o2, o3, o4], _ =>
      simp only [dotted, List.length_append, List.length_cons]
      omega
  omega

/-- An address and the octets of a mask. -/
theorem scanMask_eq {address : CString} {octets : List CString} (haddress : address.count '.' = 3)
    (hne : octets ≠ []) (hoctets : ∀ o ∈ octets, '.' ∉ o) :
    scanMask (address ++ '.' :: dotted octets) p 0 none 0 =
      (some (p + address.length + 1), 8 * countedOctets octets) := by
  rw [scanMask_address (by omega), scanMask_octets hne hoctets (.inl ⟨by omega, rfl, rfl⟩),
    Nat.zero_add]

/-- Once there is a mask it is not forgotten. -/
theorem scanMask_isSome (s : CString) (hmask : mask.isSome = true) :
    (scanMask s p dots mask n).1.isSome = true := by
  induction s generalizing p dots mask n with
  | nil => exact hmask
  | cons c s ih =>
    have hnext : (if dots + 1 = 4 then some (p + 1) else mask).isSome = true := by
      split
      · rfl
      · exact hmask
    rw [scanMask]
    by_cases hc : c = '.'
    · simp only [if_pos hc, hnext, if_true]
      split
      · exact hnext
      · exact ih hnext
    · rw [if_neg hc]
      exact ih hmask

/-- The mask is found if and only if there is a fourth dot. -/
theorem scanMask_isSome_iff (s : CString) (hdots : dots < 4) :
    (scanMask s p dots none n).1.isSome = true ↔ 4 ≤ dots + s.count '.' := by
  induction s generalizing p dots n with
  | nil =>
    rw [scanMask, List.count_nil]
    simp only [Option.isSome_none, Bool.false_eq_true, false_iff]
    omega
  | cons c s ih =>
    by_cases hc : c = '.'
    · subst hc
      rw [List.count_cons_self]
      by_cases hfourth : dots = 3
      · subst hfourth
        rw [scanMask_dot s (.inl ⟨rfl, rfl, rfl⟩)]
        refine iff_of_true ?_ (by omega)
        split
        · rfl
        · exact scanMask_isSome s rfl
      · have hfew : dots + 1 ≠ 4 := by omega
        rw [scanMask, if_pos rfl]
        simp only [if_neg hfew, Option.isSome_none, Bool.false_eq_true, if_false]
        rw [ih (by omega)]
        omega
    · rw [scanMask, if_neg hc, List.count_cons_of_ne hc, ih hdots]

end Scan

/-! ## The line -/

/-- A text that is printed over a longer one. -/
theorem sprintf_eq {done text s rest : CString} {cur : Option Nat} (hfits : s.length < text.length) :
    TokLine.sprintf ⟨done ++ (text ++ rest), cur⟩ done.length s =
      ⟨done ++ s ++ nul :: (text ++ rest).drop (s.length + 1), cur⟩ := by
  have hroom : done.length + s.length < (done ++ (text ++ rest)).length := by
    simp only [List.length_append]
    omega
  rw [TokLine.sprintf]
  simp only [if_pos hroom, List.take_left, Nat.add_assoc, List.drop_length_add_append]

/-- The mask is printed over its text, with a terminator that leaves the rest of the line where it
    was. -/
theorem convertMask_eq {done address rest : CString} {octets : List CString} {cur : Option Nat}
    (htext : TokLine.text ⟨done ++ ((address ++ '.' :: dotted octets) ++ rest), cur⟩ done.length =
      address ++ '.' :: dotted octets)
    (haddress : address.count '.' = 3) (hne : octets ≠ []) (hoctets : ∀ o ∈ octets, '.' ∉ o)
    (hfits : (dec (8 * countedOctets octets : Nat)).length < (dotted octets).length) :
    convertMask ⟨done ++ ((address ++ '.' :: dotted octets) ++ rest), cur⟩ done.length =
      pure ⟨done ++ (address ++ '/' :: dec (8 * countedOctets octets : Nat)) ++
        nul :: (dotted octets ++ rest).drop ((dec (8 * countedOctets octets : Nat)).length + 1),
        cur⟩ := by
  have hscan : scanMask (TokLine.text
      ⟨done ++ ((address ++ '.' :: dotted octets) ++ rest), cur⟩ done.length) done.length 0
      none 0 = (some (done.length + address.length + 1), 8 * countedOctets octets) := by
    rw [htext, scanMask_eq haddress hne hoctets]
  generalize 8 * countedOctets octets = prefixlen at hfits hscan ⊢
  have hroom : ¬ (done ++ ((address ++ '.' :: dotted octets) ++ rest)).length <
      done.length + address.length + 1 + (dec prefixlen).length := by
    simp only [List.length_append, List.length_cons]
    omega
  have hstore : (TokLine.mk (done ++ ((address ++ '.' :: dotted octets) ++ rest)) cur).store
      (done.length + address.length + 1 - 1) '/' =
      ⟨(done ++ (address ++ ['/'])) ++ (dotted octets ++ rest), cur⟩ := by
    rw [TokLine.store, Nat.add_sub_cancel]
    simp
  have hplace : done.length + address.length + 1 = (done ++ (address ++ ['/'])).length := by
    simp [Nat.add_assoc]
  rw [convertMask, hscan]
  simp only [hroom, undefinedIf, onlyIf, if_false, pure_bind, hstore]
  rw [hplace, sprintf_eq hfits]
  simp

end AndroidPatch.Ril.Altair
