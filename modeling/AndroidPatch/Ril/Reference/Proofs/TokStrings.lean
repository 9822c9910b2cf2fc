import AndroidPatch.Ril.Altair.Proofs.NetworkScan
import AndroidPatch.Ril.Reference.Proofs.Runs

/-!
# Three strings of a line

The handlers read the strings of a line one after the other and look at all of them behind the last call:
each is still where it was found.
-/

namespace AndroidPatch.Ril.Reference

open Altair (Sees readField)

/-- The three strings ahead. -/
def readStrings (ahead : Option CString) : Option (CString × CString × CString) := do
  let (a, ahead) ← readField some ahead
  let (b, ahead) ← readField some ahead
  let (c, _) ← readField some ahead
  return (a, b, c)

/-- Every field is a string. -/
theorem readField_string (s : CString) :
    readField some (some s) = some ((cutField s).token, (cutField s).next.map Prod.snd) := rfl

theorem tokNextstr_of_none {l : TokLine} (h : l.cur = none) : tokNextstr l = gotoError := by
  obtain ⟨buf, cur⟩ := l
  obtain rfl : cur = none := h
  rfl

/-- A token with another field behind it stays where it is. -/
theorem pointsTo_index (done : CString) {s sep rest : CString} (hs : nul ∉ s)
    (hnext : (cutField s).next = some (sep, rest)) :
    ∃ more, (cutField s).line done = .behind (done ++ more) rest ∧
      Altair.PointsTo (done ++ more) ((cutField s).index done) (cutField s).token := by
  have htext := text_index done hs
  refine ⟨(cutField s).skipped ++ (cutField s).token ++ sep, ?_, ?_⟩
  · rw [Cut.line, hnext]
    simp only [List.append_assoc]
  · intro ahead
    generalize hcut : cutField s = c at *
    have hcuts : Cuts s c := hcut ▸ cuts_cutField s
    have htoken : nul ∉ c.token := by cases hcuts <;> simp_all
    obtain ⟨b, rfl⟩ : ∃ b, sep = nul :: b := by
      cases hcuts <;> simp_all <;> exact ⟨_, hnext.1.symm⟩
    have hbuf : done ++ (c.skipped ++ c.token ++ nul :: b) ++ ahead =
        done ++ c.skipped ++ (c.token ++ nul :: (b ++ ahead)) := by simp
    rw [TokLine.behind, hbuf]
    exact TokLine.text_of_nul htoken

theorem text_line {done t : CString} {p : Nat} (h : Altair.PointsTo done p t) (c : Cut) :
    (c.line done).text p = t := by
  obtain ⟨b, cur, heq⟩ := c.line_eq done
  rw [heq]
  exact h (c.skipped ++ b)

theorem tokStrings_bind {α : Type} {l : TokLine} {ahead : Option CString} (hsees : Sees l ahead)
    (f : CString → CString → CString → Body α) :
    (do
      let (a, l) ← tokNextstr l
      let (b, l) ← tokNextstr l
      let (c, l) ← tokNextstr l
      f (l.text a) (l.text b) (l.text c)) =
      match readStrings ahead with
      | none => gotoError
      | some (a, b, c) => f a b c := by
  unfold readStrings
  cases ahead with
  | none =>
    rw [tokNextstr_of_none hsees]
    rfl
  | some s1 =>
    obtain ⟨hs1, d1, rfl⟩ := hsees
    rw [tokNextstr_behind hs1, readField_string]
    cases hnext1 : (cutField s1).next with
    | none =>
      rw [Cut.line, hnext1]
      simp only [pure_bind]
      rw [tokNextstr_of_none rfl]
      rfl
    | some next1 =>
      obtain ⟨sep1, s2⟩ := next1
      have hs2 := nul_not_mem_rest hs1 hnext1
      obtain ⟨more1, hline1, ha⟩ := pointsTo_index d1 hs1 hnext1
      simp only [pure_bind, hline1, tokNextstr_behind hs2, Option.map_some, Option.bind_eq_bind,
        Option.bind_some, readField_string]
      cases hnext2 : (cutField s2).next with
      | none =>
        rw [Cut.line, hnext2]
        dsimp only
        rw [tokNextstr_of_none rfl]
        rfl
      | some next2 =>
        obtain ⟨sep2, s3⟩ := next2
        have hs3 := nul_not_mem_rest hs2 hnext2
        obtain ⟨more2, hline2, hb⟩ := pointsTo_index (d1 ++ more1) hs2 hnext2
        simp only [hline2, pure_bind, tokNextstr_behind hs3, Option.map_some, Option.bind_some,
          readField_string]
        rw [text_line (ha.append more2), text_line hb, text_index _ hs3]
        rfl

end AndroidPatch.Ril.Reference
