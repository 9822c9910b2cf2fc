import Mathlib.Data.Finset.Card
import Mathlib.Data.List.Nodup

/-!
# Tables of slots

A table is a list of entries with keys, some of which are live. Two live entries with one key would make
a search for the key ambiguous: `UniqueLive` excludes them, and is kept by the ways of changing a table.
There are as many live keys as entries exactly in a table that is full.
-/

namespace AndroidPatch

universe u v

variable {α : Type u} {κ : Type v}

/-- No two live entries have one key. -/
def UniqueLive (key : α → κ) (live : α → Bool) (slots : List α) : Prop :=
  ∀ (i j : Nat) (a b : α), slots[i]? = some a → slots[j]? = some b → live a = true → live b = true →
    key a = key b → i = j

/-- A search finds an entry that it looks for. -/
theorem findIdx?_getElem? {p : α → Bool} {slots : List α} {i : Nat} (h : slots.findIdx? p = some i) :
    ∃ a, slots[i]? = some a ∧ p a = true := by
  obtain ⟨hi, hp, -⟩ := List.findIdx?_eq_some_iff_getElem.mp h
  exact ⟨slots[i], List.getElem?_eq_getElem hi, hp⟩

namespace UniqueLive

variable {key : α → κ} {live : α → Bool} {slots : List α} {i : Nat} {a : α}

theorem of_dead (h : ∀ a ∈ slots, live a = false) : UniqueLive key live slots := by
  intro i j a b hi hj ha
  rw [h a (List.mem_of_getElem? hi)] at ha
  cases ha

/-- The entry at a place of a table in which another one is stored. -/
theorem getElem?_set_cases {j : Nat} {b : α} (h : (slots.set i a)[j]? = some b) :
    (i = j ∧ b = a) ∨ (i ≠ j ∧ slots[j]? = some b) := by
  by_cases hij : i = j
  · rw [List.getElem?_set, if_pos hij] at h
    split at h
    · exact .inl ⟨hij, (Option.some.inj h).symm⟩
    · cases h
  · rw [List.getElem?_set_ne hij] at h
    exact .inr ⟨hij, h⟩

/-- An entry is stored where its key is live, if it is live anywhere. -/
theorem set (h : UniqueLive key live slots)
    (hplace : ∀ j b, slots[j]? = some b → live b = true → key b = key a → j = i) :
    UniqueLive key live (slots.set i a) := by
  intro j k b d hj hk hb hd hkey
  rcases getElem?_set_cases hj with ⟨hij, rfl⟩ | ⟨hij, hold⟩
  · rcases getElem?_set_cases hk with ⟨hik, -⟩ | ⟨hik, hold⟩
    · exact hij.symm.trans hik
    · exact absurd (hplace k d hold hd hkey.symm).symm hik
  · rcases getElem?_set_cases hk with ⟨hik, rfl⟩ | ⟨hik, hold'⟩
    · exact absurd (hplace j b hold hb hkey).symm hij
    · exact h j k b d hold hold' hb hd hkey

/-- Entries may be released. -/
theorem map {f : α → α} (h : UniqueLive key live slots) (hkey : ∀ a, key (f a) = key a)
    (hlive : ∀ a, live (f a) = true → live a = true) : UniqueLive key live (slots.map f) := by
  intro i j a b hi hj ha hb hab
  rw [List.getElem?_map] at hi hj
  obtain ⟨a', hi', rfl⟩ := Option.map_eq_some_iff.mp hi
  obtain ⟨b', hj', rfl⟩ := Option.map_eq_some_iff.mp hj
  rw [hkey, hkey] at hab
  exact h i j a' b' hi' hj' (hlive a' ha) (hlive b' hb) hab

/-- The search for the key of a live entry finds that entry. -/
theorem findIdx? [DecidableEq κ] (h : UniqueLive key live slots) (hi : slots[i]? = some a)
    (ha : live a = true) : slots.findIdx? (fun b => key b == key a && live b) = some i := by
  cases hfind : slots.findIdx? (fun b => key b == key a && live b) with
  | none =>
    have hnot := List.findIdx?_eq_none_iff.mp hfind a (List.mem_of_getElem? hi)
    simp [ha] at hnot
  | some j =>
    obtain ⟨b, hj, hb⟩ := findIdx?_getElem? hfind
    simp only [Bool.and_eq_true, beq_iff_eq] at hb
    rw [h j i b a hj hi hb.2 ha hb.1]

end UniqueLive

/-! ## Live keys -/

section

variable [DecidableEq κ] (key : α → κ) (live : α → Bool)

/-- The keys of the live entries. -/
def liveKeys (slots : List α) : Finset κ := ((slots.filter live).map key).toFinset

variable {key live} {slots : List α} {k : κ}

@[simp] theorem mem_liveKeys :
    k ∈ liveKeys key live slots ↔ ∃ a ∈ slots, live a = true ∧ key a = k := by
  simp [liveKeys, and_assoc]

theorem liveKeys_append (slots slots' : List α) :
    liveKeys key live (slots ++ slots') = liveKeys key live slots ∪ liveKeys key live slots' := by
  simp [liveKeys]

theorem card_liveKeys_le : (liveKeys key live slots).card ≤ slots.length := by
  calc (liveKeys key live slots).card
      ≤ ((slots.filter live).map key).length := List.toFinset_card_le _
    _ = (slots.filter live).length := List.length_map _
    _ ≤ slots.length := List.length_filter_le _ _

/-- A full table has as many keys as entries. -/
theorem UniqueLive.card_liveKeys (h : UniqueLive key live slots) (hfull : ∀ a ∈ slots, live a = true) :
    (liveKeys key live slots).card = slots.length := by
  have hnodup : (slots.map key).Nodup := by
    rw [List.nodup_iff_getElem?_ne_getElem?]
    intro i j hij hj heq
    rw [List.length_map] at hj
    have hi : i < slots.length := Nat.lt_trans hij hj
    rw [List.getElem?_map, List.getElem?_map, List.getElem?_eq_getElem hi, List.getElem?_eq_getElem hj] at heq
    have hsame := h i j _ _ (List.getElem?_eq_getElem hi) (List.getElem?_eq_getElem hj)
      (hfull _ (List.getElem_mem hi)) (hfull _ (List.getElem_mem hj)) (Option.some.inj heq)
    omega
  rw [liveKeys, List.filter_eq_self.mpr hfull, List.toFinset_card_of_nodup hnodup, List.length_map]

end

end AndroidPatch
