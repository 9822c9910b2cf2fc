/-!
# C strings

A C string is the list of its characters, without the terminating NUL; a `char` is a Lean
`Char` (only the codes below 256 occur in a program). A `char *` that may be `NULL` is an
`Option CString`.
-/

namespace AndroidPatch

/-- A C string without its terminating NUL. -/
abbrev CString := List Char

instance : Coe String CString := ⟨String.toList⟩

/-- The terminator `'\0'`. -/
def nul : Char := '\x00'

end AndroidPatch
