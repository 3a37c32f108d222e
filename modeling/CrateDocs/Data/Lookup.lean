namespace CrateDocs

/-!
# Look-up in lists of pairs

A list of pairs gives for a key what is paired with it first.

* `lookup_filter_ne` — what is listed under one key does not matter to another;
* `lookup_filterMap` — a list made from keys gives back what it was made from.
-/

section Lookup

variable {ι κ ν : Type} [BEq κ] [LawfulBEq κ]

theorem lookup_filter_ne [DecidableEq κ] {a b : κ} (hne : a ≠ b) (entries : List (κ × ν)) :
    (entries.filter (·.1 ≠ b)).lookup a = entries.lookup a := by
  induction entries with
  | nil => rfl
  | cons entry rest ih =>
    obtain ⟨key, found⟩ := entry
    by_cases hkey : key = b
    · have hother : (a == key) = false := beq_false_of_ne (hkey ▸ hne)
      rw [List.filter_cons_of_neg (by simpa using hkey), ih, List.lookup_cons, hother]
    · rw [List.filter_cons_of_pos (by simpa using hkey), List.lookup_cons, List.lookup_cons, ih]

theorem lookup_filterMap [DecidableEq ι] {key : ι → κ} (hkey : ∀ i j, key i = key j → i = j)
    (value? : ι → Option ν) (i : ι) (keys : List ι) :
    (keys.filterMap fun j => (value? j).map (key j, ·)).lookup (key i) =
      if i ∈ keys then value? i else none := by
  induction keys with
  | nil => rfl
  | cons j rest ih =>
    rw [List.filterMap_cons]
    by_cases h : i = j
    · subst h
      rw [if_pos List.mem_cons_self]
      cases hvalue : value? i with
      | none => rw [Option.map_none, ih, hvalue, ite_self]
      | some v => exact List.lookup_cons_self
    · have hother : (key i == key j) = false := beq_false_of_ne fun hij => h (hkey i j hij)
      simp only [List.mem_cons, h, false_or]
      cases value? j with
      | none => rw [Option.map_none, ih]
      | some v => rw [Option.map_some, List.lookup_cons, hother, ih]

end Lookup

end CrateDocs
