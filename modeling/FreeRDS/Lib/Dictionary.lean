import Mathlib.Data.List.Perm.Basic

/-! # Dictionaries as lists

A dictionary that is a list of entries finds the first entry that matches and removes the first entry that
matches. Both are the same entry, and the others stay.
-/

namespace FreeRDS.Lib

open List

variable {α : Type*} {p : α → Bool} {a : α} {l : List α}

theorem perm_eraseP_of_find? (h : l.find? p = some a) : l.Perm (a :: l.eraseP p) := by
  induction l with
  | nil => cases h
  | cons b l ih =>
    by_cases hb : p b
    · rw [find?_cons_of_pos hb] at h
      rw [eraseP_cons_of_pos hb]
      cases h
      exact .refl _
    · rw [find?_cons_of_neg hb] at h
      rw [eraseP_cons_of_neg hb]
      exact ((ih h).cons b).trans (.swap a b _)

theorem eraseP_of_find?_eq_none (h : l.find? p = none) : l.eraseP p = l :=
  eraseP_of_forall_not fun b hb => by simpa using find?_eq_none.mp h b hb

theorem mem_eraseP_or_find? (h : a ∈ l) : a ∈ l.eraseP p ∨ l.find? p = some a := by
  cases hfind : l.find? p with
  | none =>
    rw [eraseP_of_find?_eq_none hfind]
    exact .inl h
  | some b =>
    rcases mem_cons.mp ((perm_eraseP_of_find? hfind).mem_iff.mp h) with rfl | hkept
    · exact .inr rfl
    · exact .inl hkept

theorem filter_eq_cons_of_find? (h : l.find? p = some a) : l.filter p = a :: (l.eraseP p).filter p := by
  induction l with
  | nil => cases h
  | cons b l ih =>
    by_cases hb : p b
    · rw [find?_cons_of_pos hb] at h
      rw [eraseP_cons_of_pos hb, filter_cons_of_pos hb]
      cases h
      rfl
    · rw [find?_cons_of_neg hb] at h
      rw [eraseP_cons_of_neg hb, filter_cons_of_neg hb, filter_cons_of_neg hb]
      exact ih h

end FreeRDS.Lib
