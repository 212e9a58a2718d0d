import CallDispatch.Basic
import Mathlib.Data.List.Perm.Basic

namespace CallDispatch

namespace Table
variable {κ α β : Type} [Ord κ] [Std.TransOrd κ] [Std.LawfulEqOrd κ] [BEq κ] [LawfulBEq κ]

theorem getElem?_insertMany (table : Table κ α) (entries : List (κ × α)) (key : κ) :
    (table.insertMany entries)[key]? = (entries.reverse.lookup key).or table[key]? := by
  induction entries generalizing table with
  | nil => rfl
  | cons entry entries ih =>
    obtain ⟨other, a⟩ := entry
    have hi : (table.insert other a)[key]? = (List.lookup key [(other, a)]).or table[key]? := by
      rw [Std.ExtTreeMap.getElem?_insert, List.lookup_cons, List.lookup_nil]
      by_cases h : key = other
      · subst h
        simp
      · have hb : (key == other) = false := by simpa using h
        simp [Ne.symm h, hb]
    rw [Std.ExtTreeMap.insertMany_cons, ih, hi, List.reverse_cons, List.lookup_append,
      Option.or_assoc]

/-- A key is looked up in the last entry with that key. -/
theorem getElem?_ofList (entries : List (κ × α)) (key : κ) :
    (Std.ExtTreeMap.ofList entries : Table κ α)[key]? = entries.reverse.lookup key := by
  rw [Std.ExtTreeMap.ofList_eq_insertMany_empty, getElem?_insertMany,
    Std.ExtTreeMap.getElem?_empty, Option.or_none]

theorem getElem?_ofList_eq_some_iff {entries : List (κ × α)}
    (distinct : (entries.map Prod.fst).Nodup) (key : κ) (a : α) :
    (Std.ExtTreeMap.ofList entries : Table κ α)[key]? = some a ↔ (key, a) ∈ entries := by
  constructor
  · intro h
    rw [getElem?_ofList, List.lookup_eq_some_iff] at h
    obtain ⟨before, after, he, _⟩ := h
    rw [← List.mem_reverse, he]
    exact List.mem_append_right before List.mem_cons_self
  · intro h
    have hd : entries.Pairwise fun a b => ¬compare a.1 b.1 = .eq :=
      (List.pairwise_map.1 distinct).imp fun hne he =>
        hne (Std.LawfulEqCmp.eq_of_compare he)
    exact Std.ExtTreeMap.getElem?_ofList_of_mem Std.ReflCmp.compare_self hd h

omit [Ord κ] [Std.TransOrd κ] [Std.LawfulEqOrd κ] [LawfulBEq κ] in
theorem lookup_map (f : α → β) (entries : List (κ × α)) (key : κ) :
    (entries.map fun entry => (entry.1, f entry.2)).lookup key = (entries.lookup key).map f := by
  induction entries with
  | nil => rfl
  | cons entry entries ih =>
    obtain ⟨other, a⟩ := entry
    rw [List.map_cons, List.lookup_cons, List.lookup_cons, ih]
    cases key == other <;> rfl

/-- Any listing of a table makes up the table. -/
theorem ofList_of_perm {table : Table κ α} {entries : List (κ × α)}
    (h : entries.Perm table.toList) : Std.ExtTreeMap.ofList entries = table := by
  have hd : entries.Pairwise fun a b => ¬compare a.1 b.1 = .eq :=
    (h.pairwise_iff fun hne he => hne (Std.OrientedCmp.eq_symm he)).2
      Std.ExtTreeMap.distinct_keys_toList
  apply Std.ExtTreeMap.ext_getElem?
  intro key
  cases hk : table[key]? with
  | none =>
    apply Std.ExtTreeMap.getElem?_ofList_of_contains_eq_false
    rw [← Bool.not_eq_true, List.contains_iff_mem]
    intro hm
    obtain ⟨entry, he, rfl⟩ := List.mem_map.1 hm
    have ha := Std.ExtTreeMap.mem_toList_iff_getElem?_eq_some.1 (h.mem_iff.1 he)
    exact absurd (hk.symm.trans ha) (by simp)
  | some a =>
    have hm : (key, a) ∈ entries :=
      h.mem_iff.2 (Std.ExtTreeMap.mem_toList_iff_getElem?_eq_some.2 hk)
    exact Std.ExtTreeMap.getElem?_ofList_of_mem Std.ReflCmp.compare_self hd hm

end Table

namespace Roster
variable {κ : Type} [Ord κ] [Std.TransOrd κ] [Std.LawfulEqOrd κ] [BEq κ] [LawfulBEq κ]

theorem ofList_of_perm {roster : Roster κ} {values : List κ} (h : values.Perm roster.toList) :
    Std.ExtTreeSet.ofList values = roster := by
  apply Std.ExtTreeSet.ext_mem
  intro value
  rw [Std.ExtTreeSet.mem_ofList, List.contains_iff_mem, h.mem_iff, Std.ExtTreeSet.mem_toList]

end Roster
end CallDispatch
