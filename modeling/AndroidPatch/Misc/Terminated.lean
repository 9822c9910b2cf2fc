import Mathlib.Data.List.Basic

/-!
# Texts with terminators

A stream that several writers fill with texts, each one followed by a terminator unless it was broken off,
and a reader that takes what stands before each terminator. The reader sees `glue` of what was written: a
text that was broken off stands before the next one (`pieces_flatMap`), so it sees what the writers meant
exactly when nothing of a broken text went out before a whole one (`glue_nil_eq_whole_iff`).
-/

namespace AndroidPatch

universe u

variable {α : Type u}

/-- What stands before each terminator, with the terminator; `acc` has been read before. -/
def pieces (isEnd : α → Bool) : List α → List α → List (List α × α)
  | _, [] => []
  | acc, c :: cs =>
      if isEnd c then (acc, c) :: pieces isEnd [] cs else pieces isEnd (acc ++ [c]) cs

/-- The bytes of a text that has its terminator, or has been broken off. -/
def written (w : List α × Option α) : List α := w.1 ++ w.2.toList

/-- The texts with their terminators, each one behind what was broken off before it. -/
def glue : List α → List (List α × Option α) → List (List α × α)
  | _, [] => []
  | acc, (text, none) :: ws => glue (acc ++ text) ws
  | acc, (text, some c) :: ws => (acc ++ text, c) :: glue [] ws

/-- The texts that have their terminators. -/
def whole : List (List α × Option α) → List (List α × α)
  | [] => []
  | (_, none) :: ws => whole ws
  | (text, some c) :: ws => (text, c) :: whole ws

/-- No text has a terminator inside. -/
def Plain (isEnd : α → Bool) (w : List α × Option α) : Prop :=
  (∀ c ∈ w.1, isEnd c = false) ∧ ∀ c ∈ w.2, isEnd c = true

theorem pieces_append {isEnd : α → Bool} {text : List α} (htext : ∀ c ∈ text, isEnd c = false)
    (acc rest : List α) : pieces isEnd acc (text ++ rest) = pieces isEnd (acc ++ text) rest := by
  induction text generalizing acc with
  | nil => rw [List.nil_append, List.append_nil]
  | cons c text ih =>
    have hc : isEnd c = false := htext c List.mem_cons_self
    rw [List.cons_append, pieces, hc, if_neg Bool.false_ne_true,
      ih fun x hx => htext x (List.mem_cons_of_mem c hx), List.append_assoc, List.singleton_append]

theorem pieces_flatMap {isEnd : α → Bool} {ws : List (List α × Option α)}
    (hws : ∀ w ∈ ws, Plain isEnd w) (acc : List α) :
    pieces isEnd acc (ws.flatMap written) = glue acc ws := by
  induction ws generalizing acc with
  | nil => rfl
  | cons w ws ih =>
    obtain ⟨text, c⟩ := w
    obtain ⟨htext, hc⟩ := hws _ List.mem_cons_self
    have hrest := fun acc => ih (fun x hx => hws x (List.mem_cons_of_mem _ hx)) acc
    rw [List.flatMap_cons, written, List.append_assoc, pieces_append htext]
    cases c with
    | none =>
      rw [Option.toList_none, List.nil_append, hrest, glue]
    | some c =>
      rw [Option.toList_some, List.singleton_append, pieces, hc c rfl, if_pos rfl, hrest, glue]

/-- What was read before stays before the first text that has a terminator. -/
theorem glue_eq_whole {acc : List α} {ws : List (List α × Option α)} (h : glue acc ws = whole ws) :
    whole ws = [] ∨ acc = [] := by
  induction ws generalizing acc with
  | nil => exact .inl rfl
  | cons w ws ih =>
    obtain ⟨text, c⟩ := w
    cases c with
    | none =>
      rw [glue, whole] at h
      rcases ih h with hnone | hnil
      · exact .inl hnone
      · exact .inr (List.append_eq_nil_iff.mp hnil).1
    | some c =>
      rw [glue, whole] at h
      have htext : acc ++ text = text := congrArg Prod.fst (List.cons.inj h).1
      exact .inr (List.append_left_eq_self.mp htext)

theorem glue_of_whole_nil {ws : List (List α × Option α)} (h : whole ws = []) (acc : List α) :
    glue acc ws = [] := by
  induction ws generalizing acc with
  | nil => rfl
  | cons w ws ih =>
    obtain ⟨text, c⟩ := w
    cases c with
    | none => exact ih h _
    | some c => cases h

theorem glue_nil_eq_whole_iff (ws : List (List α × Option α)) :
    glue [] ws = whole ws ↔
      ∀ before text after, ws = before ++ (text, none) :: after → text = [] ∨ whole after = [] := by
  induction ws with
  | nil =>
    refine iff_of_true rfl fun before text after hsplit => ?_
    simp at hsplit
  | cons w ws ih =>
    obtain ⟨text, c⟩ := w
    constructor
    · intro h before text' after hsplit
      have hrest : glue [] ws = whole ws ∨ whole ws = [] := by
        cases c with
        | none =>
          rw [glue, whole, List.nil_append] at h
          rcases glue_eq_whole h with hnone | rfl
          · exact .inr hnone
          · exact .inl h
        | some c =>
          rw [glue, whole] at h
          exact .inl (List.cons.inj h).2
      cases before with
      | nil =>
        obtain ⟨heq, rfl⟩ := List.cons.inj hsplit
        cases heq
        rw [glue, whole, List.nil_append] at h
        exact (glue_eq_whole h).symm
      | cons w' before =>
        obtain ⟨-, htail⟩ := List.cons.inj hsplit
        have hws : glue [] ws = whole ws := by
          rcases hrest with hrest | hrest
          · exact hrest
          · rw [hrest, glue_of_whole_nil hrest]
        exact ih.mp hws before text' after htail
    · intro h
      have hws : glue [] ws = whole ws :=
        ih.mpr fun before text' after hsplit => h ((text, c) :: before) text' after (by rw [hsplit]; rfl)
      cases c with
      | none =>
        rw [glue, whole, List.nil_append]
        rcases h [] text ws rfl with rfl | hnone
        · exact hws
        · rw [hnone, glue_of_whole_nil hnone]
      | some c => rw [glue, whole, List.nil_append, hws]

end AndroidPatch
