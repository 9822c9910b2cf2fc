import AndroidPatch.Misc.CString

/-!
# `misc.c`

The string functions of `hardware/ril/reference-ril/misc.c`: the test that the AT channel and the
unsolicited handlers share, and the search for elements. The Altair RIL links the same file
(`altair-ril/Android.mk`).
-/

namespace AndroidPatch.Ril

/-- `strStartsWith` (`misc.c:87-97`): the loop stops at the first difference or at the end of
    either string, and then asks whether the prefix is used up. -/
def strStartsWith : (line : CString) → (pre : CString) → Bool
  | _, [] => true
  | [], _ :: _ => false
  | c :: line, p :: pre => if c = p then strStartsWith line pre else false

/-- `strstr`: what follows from the first occurrence on. -/
def strstrFrom : (s : CString) → (word : CString) → Option CString
  | [], word => if strStartsWith [] word then some [] else none
  | c :: s, word => if strStartsWith (c :: s) word then some (c :: s) else strstrFrom s word

/-- `getFirstElementValue` (`misc.c:55-84`): what stands between the tags, and what remains of the
    document. -/
def getFirstElementValue (document elementBeginTag elementEndTag : CString) :
    Option (CString × CString) := do
  let start ← strstrFrom document elementBeginTag
  let rest ← strstrFrom start elementEndTag
  let value := start.drop elementBeginTag.length
  return (value.take (value.length - rest.length), rest.drop elementEndTag.length)

theorem strStartsWith_iff (line pre : CString) :
    strStartsWith line pre = true ↔ pre <+: line := by
  fun_induction strStartsWith line pre with
  | case1 line => simp
  | case2 p pre => simp
  | case3 line p pre ih => simpa [List.cons_prefix_cons] using ih
  | case4 c line p pre hne => simp [List.cons_prefix_cons, Ne.symm hne]

end AndroidPatch.Ril
