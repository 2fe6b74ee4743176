import SerialHub.Keyed
import Mathlib.Data.String.Basic

/-!
# Lookups in lists keyed by name

The registry, the device table and the pending reopenings are lists of pairs in increasing order
of their text key. Looking a key up after an insertion, an erasure or a change of value is described
here once; erasing hides a key only when it occurs once, which the increasing order guarantees.
-/

namespace SerialHub.Keyed

variable {β : Type}

/-- The keys of a list occur in strictly increasing order, so each key at most once. -/
def Sorted (xs : List (String × β)) : Prop :=
  xs.Pairwise (fun a b => a.1 < b.1)

@[simp] theorem sorted_nil : Sorted ([] : List (String × β)) := List.Pairwise.nil

/-- Looking a key up in a list with a pair in front, as a condition on the key. -/
theorem lookup_cons_ite (k j : String) (w : β) (rest : List (String × β)) :
    ((j, w) :: rest).lookup k = if k = j then some w else rest.lookup k := by
  by_cases h : k = j
  · simp [h]
  · have hk : (k == j) = false := by simpa using h
    simp [List.lookup_cons, hk, h]

/-- Looking a key up after inserting a key gives the inserted value for that key and the old
answer for every other key. -/
theorem lookup_insert (k k' : String) (v : β) (xs : List (String × β)) :
    (insert k v xs).lookup k' = if k' = k then some v else xs.lookup k' := by
  induction xs with
  | nil => simp [insert, lookup_cons_ite]
  | cons p rest ih =>
    obtain ⟨j, w⟩ := p
    by_cases hlt : k < j
    · simp only [insert, hlt, if_true, lookup_cons_ite]
    · by_cases hkj : k = j
      · subst hkj
        simp only [insert, hlt, beq_self_eq_true, if_false, if_true, lookup_cons_ite]
        by_cases h : k' = k <;> simp [h]
      · have hk : (k == j) = false := by simpa using hkj
        simp only [insert, hlt, hk, if_false, Bool.false_eq_true, lookup_cons_ite, ih]
        by_cases h : k' = k
        · simp [h, hkj]
        · simp [h]

@[simp] theorem lookup_insert_self (k : String) (v : β) (xs : List (String × β)) :
    (insert k v xs).lookup k = some v := by
  simp [lookup_insert]

/-- Erasing a key leaves the lookups of every other key as they were. -/
theorem lookup_erase_of_ne {k k' : String} (h : k' ≠ k) (xs : List (String × β)) :
    (erase k xs).lookup k' = xs.lookup k' := by
  induction xs with
  | nil => rfl
  | cons p rest ih =>
    obtain ⟨j, w⟩ := p
    by_cases hkj : k = j
    · subst hkj
      simp [erase, lookup_cons_ite, h]
    · have hk : (k == j) = false := by simpa using hkj
      simp only [erase, hk, Bool.false_eq_true, if_false, lookup_cons_ite, ih]

/-- A key that does not occur has no value. -/
theorem lookup_eq_none_of_forall_ne {k : String} {xs : List (String × β)}
    (h : ∀ p ∈ xs, p.1 ≠ k) : xs.lookup k = none := by
  induction xs with
  | nil => rfl
  | cons p rest ih =>
    obtain ⟨j, w⟩ := p
    have hj : k ≠ j := fun e => h (j, w) (by simp) e.symm
    rw [lookup_cons_ite, if_neg hj]
    exact ih (fun q hq => h q (by simp [hq]))

/-- In a sorted list, erasing a key removes it. -/
theorem lookup_erase_self (k : String) {xs : List (String × β)} (hs : Sorted xs) :
    (erase k xs).lookup k = none := by
  induction xs with
  | nil => rfl
  | cons p rest ih =>
    obtain ⟨j, w⟩ := p
    have hrest : ∀ q ∈ rest, j < q.1 := fun q hq => List.rel_of_pairwise_cons hs hq
    by_cases hkj : k = j
    · subst hkj
      simp only [erase, beq_self_eq_true, if_true]
      exact lookup_eq_none_of_forall_ne (fun q hq => (ne_of_lt (hrest q hq)).symm)
    · have hk : (k == j) = false := by simpa using hkj
      simp only [erase, hk, Bool.false_eq_true, if_false, lookup_cons_ite, hkj]
      exact ih hs.of_cons

/-- Changing the value of a key changes its lookup by the same function and no other lookup. -/
theorem lookup_modify (k k' : String) (f : β → β) (xs : List (String × β)) :
    (modify k f xs).lookup k' = if k' = k then (xs.lookup k).map f else xs.lookup k' := by
  induction xs with
  | nil => by_cases h : k' = k <;> simp [modify, h]
  | cons p rest ih =>
    obtain ⟨j, w⟩ := p
    simp only [modify, List.map_cons] at ih ⊢
    by_cases hjk : j = k
    · subst hjk
      simp only [beq_self_eq_true, if_true, lookup_cons_ite, ih]
      by_cases h : k' = j <;> simp [h]
    · have hj : (j == k) = false := by simpa using hjk
      simp only [hj, Bool.false_eq_true, if_false, lookup_cons_ite, ih]
      by_cases h : k' = k
      · simp [h, Ne.symm hjk]
      · simp [h]

/-- Changing values keeps the keys. -/
@[simp] theorem map_fst_modify (k : String) (f : β → β) (xs : List (String × β)) :
    (modify k f xs).map Prod.fst = xs.map Prod.fst := by
  induction xs with
  | nil => rfl
  | cons p rest ih =>
    obtain ⟨j, w⟩ := p
    by_cases hjk : j = k <;> simp_all [modify]

/-- Every pair of an insertion is the inserted one or was there before. -/
theorem mem_insert {k : String} {v : β} {xs : List (String × β)} {p : String × β}
    (h : p ∈ insert k v xs) : p = (k, v) ∨ p ∈ xs := by
  induction xs with
  | nil => simpa [insert] using h
  | cons q rest ih =>
    obtain ⟨j, w⟩ := q
    simp only [insert] at h
    split_ifs at h with hlt hkj
    · simpa using h
    · simp only [List.mem_cons] at h
      rcases h with h | h
      · exact .inl h
      · exact .inr (by simp [h])
    · simp only [List.mem_cons] at h
      rcases h with h | h
      · exact .inr (by simp [h])
      · rcases ih h with h' | h'
        · exact .inl h'
        · exact .inr (by simp [h'])

/-- Inserting keeps the keys in increasing order. -/
theorem sorted_insert (k : String) (v : β) {xs : List (String × β)} (hs : Sorted xs) :
    Sorted (insert k v xs) := by
  induction xs with
  | nil => simp [insert, Sorted]
  | cons q rest ih =>
    obtain ⟨j, w⟩ := q
    have hrest : ∀ p ∈ rest, j < p.1 := fun p hp => List.rel_of_pairwise_cons hs hp
    simp only [insert]
    split_ifs with hlt hkj
    · refine List.Pairwise.cons ?_ hs
      intro p hp
      rcases List.mem_cons.mp hp with rfl | hp
      · exact hlt
      · exact lt_trans hlt (hrest p hp)
    · have hkj : k = j := by simpa using hkj
      subst hkj
      exact List.Pairwise.cons (fun p hp => hrest p hp) hs.of_cons
    · have hjk : j < k := by
        have hne : k ≠ j := by simpa using hkj
        exact lt_of_le_of_ne (not_lt.mp hlt) hne.symm
      refine List.Pairwise.cons ?_ (ih hs.of_cons)
      intro p hp
      rcases mem_insert hp with rfl | hp
      · exact hjk
      · exact hrest p hp

/-- Every pair left by an erasure was there before. -/
theorem mem_of_mem_erase {k : String} {xs : List (String × β)} {p : String × β}
    (h : p ∈ erase k xs) : p ∈ xs := by
  induction xs with
  | nil => simp [erase] at h
  | cons q rest ih =>
    simp only [erase] at h
    split_ifs at h
    · exact List.mem_cons_of_mem _ h
    · rcases List.mem_cons.mp h with rfl | h
      · simp
      · exact List.mem_cons_of_mem _ (ih h)

/-- Erasing keeps the keys in increasing order. -/
theorem sorted_erase (k : String) {xs : List (String × β)} (hs : Sorted xs) :
    Sorted (erase k xs) := by
  induction xs with
  | nil => simp [erase, Sorted]
  | cons q rest ih =>
    simp only [erase]
    split_ifs
    · exact hs.of_cons
    · refine List.Pairwise.cons ?_ (ih hs.of_cons)
      intro p hp
      exact List.rel_of_pairwise_cons hs (mem_of_mem_erase hp)

/-- Sortedness is a property of the keys alone. -/
theorem sorted_iff_keys {xs : List (String × β)} :
    Sorted xs ↔ (xs.map Prod.fst).Pairwise (· < ·) :=
  List.pairwise_map.symm

/-- Changing values keeps the keys in increasing order. -/
theorem sorted_modify (k : String) (f : β → β) {xs : List (String × β)} (hs : Sorted xs) :
    Sorted (modify k f xs) := by
  rw [sorted_iff_keys, map_fst_modify, ← sorted_iff_keys]
  exact hs

/-- A pair of a sorted list is what looking its key up gives. -/
theorem lookup_of_mem {k : String} {v : β} {xs : List (String × β)} (hs : Sorted xs)
    (h : (k, v) ∈ xs) : xs.lookup k = some v := by
  induction xs with
  | nil => simp at h
  | cons q rest ih =>
    obtain ⟨j, w⟩ := q
    rcases List.mem_cons.mp h with h | h
    · simp only [Prod.mk.injEq] at h
      obtain ⟨rfl, rfl⟩ := h
      simp
    · have hjk : j < k := List.rel_of_pairwise_cons hs h
      have hk : (k == j) = false := by simpa using (ne_of_lt hjk).symm
      simp only [List.lookup_cons, hk]
      exact ih hs.of_cons h

/-- Looking a key up in a list whose values are all mapped maps what the lookup finds. -/
theorem lookup_map_snd {γ : Type} (f : β → γ) (xs : List (String × β)) (k : String) :
    (xs.map (fun p => (p.1, f p.2))).lookup k = (xs.lookup k).map f := by
  induction xs with
  | nil => rfl
  | cons p rest ih =>
    obtain ⟨j, w⟩ := p
    simp only [List.map_cons, lookup_cons_ite, ih]
    split <;> rfl

/-- What a lookup finds is a pair of the list. -/
theorem mem_of_lookup {k : String} {v : β} {xs : List (String × β)}
    (h : xs.lookup k = some v) : (k, v) ∈ xs := by
  induction xs with
  | nil => simp at h
  | cons q rest ih =>
    obtain ⟨j, w⟩ := q
    simp only [List.lookup_cons] at h
    by_cases hkj : k = j
    · subst hkj
      simp only [beq_self_eq_true, Option.some.injEq] at h
      simp [h]
    · have hk : (k == j) = false := by simpa using hkj
      simp only [hk] at h
      exact List.mem_cons_of_mem _ (ih h)

end SerialHub.Keyed
