import CallDispatch.Caller.Registry
import Mathlib.Data.List.DropRight
import Mathlib.Logic.ExistsUnique

namespace CallDispatch.Caller.Batch

variable {parts : List (List Char)}

theorem segments_eq_splitOn (cs : List Char) : segments cs = cs.splitOn separator := by
  -- The segments join up to the text and hold no separator, so that the text splits into them.
  have separate : ∀ segment ∈ segments cs, separator ∉ segment := fun _ h => separator_not_mem h
  have split := List.splitOn_intercalate separator separate (segments_ne_nil cs)
  rw [intercalate_segments] at split
  exact split.symm

theorem segments_intercalate (hne : parts ≠ []) (separate : ∀ part ∈ parts, separator ∉ part) :
    segments ([separator].intercalate parts) = parts := by
  rw [segments_eq_splitOn]
  exact List.splitOn_intercalate separator separate hne

theorem intercalate_concat (hne : parts ≠ []) (part : List Char) :
    [separator].intercalate (parts ++ [part]) =
      [separator].intercalate parts ++ separator :: part := by
  induction parts with
  | nil => exact absurd rfl hne
  | cons first others ih =>
    cases others with
    | nil => simp
    | cons other others =>
      have hi := ih (List.cons_ne_nil other others)
      simp only [List.cons_append] at hi
      simp only [List.cons_append, List.intercalate_cons_cons, hi, List.append_assoc]

theorem intercalate_append_empty (hne : parts ≠ []) (count : Nat) :
    [separator].intercalate (parts ++ List.replicate count []) =
      [separator].intercalate parts ++ List.replicate count separator := by
  induction count with
  | zero => simp
  | succ count ih =>
    have hne' : parts ++ List.replicate count [] ≠ [] := by simp [hne]
    rw [List.replicate_succ', List.replicate_succ', ← List.append_assoc,
      intercalate_concat hne', ih, List.append_assoc]

theorem intercalate_replicate_empty (count : Nat) :
    [separator].intercalate (List.replicate (count + 1) []) = List.replicate count separator := by
  have h := intercalate_append_empty (List.cons_ne_nil ([] : List Char) []) count
  rwa [List.singleton_append, ← List.replicate_succ, List.intercalate_singleton,
    List.nil_append] at h

theorem separator_not_mem_replicate_empty {count : Nat} {part : List Char}
    (h : part ∈ List.replicate count []) : separator ∉ part := by
  rw [(List.mem_replicate.1 h).2]
  exact List.not_mem_nil

theorem dropTrailing_eq_rdropWhile (parts : List (List Char)) :
    dropTrailing parts = parts.rdropWhile List.isEmpty :=
  rfl

theorem dropTrailing_append_empty (last : parts.getLast? ≠ some []) (count : Nat) :
    dropTrailing (parts ++ List.replicate count []) = parts := by
  rw [dropTrailing_eq_rdropWhile]
  induction count with
  | zero =>
    rw [List.replicate_zero, List.append_nil, List.rdropWhile_eq_self_iff]
    intro hne he
    exact last ((List.getLast_eq_iff_getLast?_eq_some hne).1 (List.isEmpty_iff.1 he))
  | succ count ih =>
    rw [List.replicate_succ', ← List.append_assoc, List.rdropWhile_concat_pos _ _ _ rfl]
    exact ih

theorem getLast?_dropTrailing (parts : List (List Char)) :
    (dropTrailing parts).getLast? ≠ some [] := by
  intro h
  have hne : dropTrailing parts ≠ [] := by
    intro he
    rw [he] at h
    cases h
  apply List.rdropWhile_last_not List.isEmpty parts hne
  exact List.isEmpty_iff.2 ((List.getLast_eq_iff_getLast?_eq_some hne).2 h)

theorem exists_eq_dropTrailing_append (parts : List (List Char)) :
    ∃ count, parts = dropTrailing parts ++ List.replicate count [] := by
  have empty : ∀ part ∈ parts.rtakeWhile List.isEmpty, part = [] := by
    intro part h
    exact List.isEmpty_iff.1 (List.mem_rtakeWhile_imp h)
  refine ⟨(parts.rtakeWhile List.isEmpty).length, ?_⟩
  rw [← List.eq_replicate_iff.2 ⟨rfl, empty⟩]
  exact (List.rdropWhile_append_rtakeWhile ..).symm

def separators (count : Nat) : String :=
  String.ofList (List.replicate count separator)

/-- No name holds a separator, and there is a last one that is not empty. -/
structure Joinable (names : List String) : Prop where
  separate : ∀ name ∈ names, separator ∉ name.toList
  last : ∃ name, names.getLast? = some name ∧ name ≠ ""

variable {names : List String} {batch : String}

theorem Joinable.ne_nil (h : Joinable names) : names ≠ [] := by
  intro he
  obtain ⟨name, hl, -⟩ := h.last
  rw [he] at hl
  cases hl

theorem Joinable.ne_empty (h : Joinable names) : names ≠ [""] := by
  intro he
  obtain ⟨name, hl, hne⟩ := h.last
  rw [he] at hl
  cases hl
  exact hne rfl

theorem toList_join (names : List String) :
    (join names).toList = [separator].intercalate (names.map String.toList) := by
  rw [join, String.toList_intercalate]
  rfl

theorem toList_join_separators (hne : names ≠ []) (count : Nat) :
    (join names ++ separators count).toList =
      [separator].intercalate (names.map String.toList ++ List.replicate count []) := by
  have hne' : names.map String.toList ≠ [] := by simp [hne]
  rw [String.toList_append, toList_join, separators, String.toList_ofList,
    intercalate_append_empty hne']

theorem split_of_ne_empty (h : batch ≠ "") :
    split batch = (dropTrailing (segments batch.toList)).map String.ofList :=
  if_neg h

theorem Joinable.segments_join (h : Joinable names) (count : Nat) :
    segments (join names ++ separators count).toList =
      names.map String.toList ++ List.replicate count [] := by
  have separate : ∀ part ∈ names.map String.toList ++ List.replicate count [],
      separator ∉ part := by
    intro part hp
    rcases List.mem_append.1 hp with hp | hp
    · obtain ⟨name, hn, rfl⟩ := List.mem_map.1 hp
      exact h.separate name hn
    · exact separator_not_mem_replicate_empty hp
  rw [toList_join_separators h.ne_nil]
  exact segments_intercalate (by simp [h.ne_nil]) separate

theorem Joinable.join_ne_empty (h : Joinable names) (count : Nat) :
    join names ++ separators count ≠ "" := by
  obtain ⟨name, hl, hname⟩ := h.last
  intro he
  have hm : name.toList ∈ segments (join names ++ separators count).toList := by
    rw [h.segments_join]
    exact List.mem_append_left _ (List.mem_map_of_mem (List.mem_of_getLast? hl))
  -- The only segment of the empty batch is empty, but the last name is not.
  rw [he] at hm
  exact hname (String.toList_eq_nil_iff.1 (List.mem_singleton.1 hm))

theorem Joinable.split_join (h : Joinable names) (count : Nat) :
    split (join names ++ separators count) = names := by
  have last : (names.map String.toList).getLast? ≠ some [] := by
    obtain ⟨name, hl, hname⟩ := h.last
    rw [List.getLast?_map, hl]
    simpa using hname
  rw [split_of_ne_empty (h.join_ne_empty count), h.segments_join, dropTrailing_append_empty last,
    List.map_map]
  simp [Function.comp_def]

theorem separators_ne_empty (count : Nat) : separators (count + 1) ≠ "" := by
  intro h
  have hl := String.toList_eq_nil_iff.2 h
  rw [separators, String.toList_ofList] at hl
  cases hl

theorem split_separators (count : Nat) : split (separators (count + 1)) = [] := by
  have hs : segments (separators (count + 1)).toList = List.replicate (count + 2) [] := by
    rw [separators, String.toList_ofList, ← intercalate_replicate_empty]
    exact segments_intercalate (List.cons_ne_nil _ _) fun _ => separator_not_mem_replicate_empty
  have last : ([] : List (List Char)).getLast? ≠ some [] := by simp
  have hd := dropTrailing_append_empty last (count + 2)
  rw [List.nil_append] at hd
  rw [split_of_ne_empty (separators_ne_empty count), hs, hd, List.map_nil]

theorem separator_not_mem_of_split {name : String} (h : name ∈ split batch) :
    separator ∉ name.toList := by
  by_cases he : batch = ""
  · subst he
    rw [List.mem_singleton.1 h]
    decide
  · rw [split_of_ne_empty he] at h
    obtain ⟨part, hp, rfl⟩ := List.mem_map.1 h
    obtain ⟨count, hs⟩ := exists_eq_dropTrailing_append (segments batch.toList)
    have hm : part ∈ segments batch.toList := by
      rw [hs]
      exact List.mem_append_left _ hp
    rw [String.toList_ofList]
    exact separator_not_mem hm

/-- A name of a batch is a batch of its own. -/
theorem split_of_mem {name : String} (h : name ∈ split batch) : split name = [name] := by
  by_cases he : name = ""
  · subst he
    rfl
  · have hj : Joinable [name] := by
      refine ⟨?_, name, rfl, he⟩
      intro other ho
      rw [List.mem_singleton.1 ho]
      exact separator_not_mem_of_split h
    simpa [join, separators] using hj.split_join 0

theorem mem_split_iff {name : String} :
    name ∈ split batch ↔ ∃ other ∈ split batch, name ∈ split other := by
  constructor
  · intro h
    refine ⟨name, h, ?_⟩
    rw [split_of_mem h]
    exact List.mem_singleton_self name
  · intro h
    obtain ⟨other, ho, h⟩ := h
    rw [split_of_mem ho] at h
    rwa [List.mem_singleton.1 h]

inductive Form
  | empty
  | separators
  | names

/-- What each form means for the names of a batch. -/
def Form.Fits (batch : String) : Form → Prop
  | .empty => batch = "" ∧ split batch = [""]
  | .separators => (∃ count, batch = Batch.separators (count + 1)) ∧ split batch = []
  | .names => ∀ names, Joinable names ∧ (∃ count, batch = join names ++ Batch.separators count) ↔
      names = split batch

def Form.ofNames (names : List String) : Form :=
  if names = [] then .separators else if names = [""] then .empty else .names

theorem Form.Fits.eq_ofNames {form : Form} (h : form.Fits batch) :
    form = .ofNames (split batch) := by
  cases form with
  | empty => rw [h.2]; rfl
  | separators => rw [h.2]; rfl
  | names =>
    have hj := ((h (split batch)).2 rfl).1
    rw [ofNames, if_neg hj.ne_nil, if_neg hj.ne_empty]

theorem exists_toList_eq (hne : batch ≠ "") : ∃ count, batch.toList =
    [separator].intercalate ((split batch).map String.toList ++ List.replicate count []) := by
  obtain ⟨count, hs⟩ := exists_eq_dropTrailing_append (segments batch.toList)
  have hp : (split batch).map String.toList = dropTrailing (segments batch.toList) := by
    rw [split_of_ne_empty hne, List.map_map]
    simp [Function.comp_def]
  refine ⟨count, ?_⟩
  rw [hp, ← hs, intercalate_segments]

/-- Without a name all segments are empty, and what joins them is separators. -/
theorem exists_eq_separators (hne : batch ≠ "") (hs : split batch = []) :
    ∃ count, batch = separators (count + 1) := by
  obtain ⟨count, hb⟩ := exists_toList_eq hne
  rw [hs, List.map_nil, List.nil_append] at hb
  cases count with
  | zero => exact absurd (String.toList_eq_nil_iff.1 hb) hne
  | succ count =>
    rw [intercalate_replicate_empty] at hb
    cases count with
    | zero => exact absurd (String.toList_eq_nil_iff.1 hb) hne
    | succ count =>
      refine ⟨count, String.toList_inj.1 ?_⟩
      rw [hb, separators, String.toList_ofList]

theorem joinable_split (hne : batch ≠ "") (hs : split batch ≠ []) : Joinable (split batch) := by
  refine ⟨fun _ => separator_not_mem_of_split, _, List.getLast?_eq_some_getLast hs, ?_⟩
  intro he
  have hl := List.getLast?_eq_some_getLast hs
  rw [he, split_of_ne_empty hne, List.getLast?_map, Option.map_eq_some_iff] at hl
  obtain ⟨part, hp, hpart⟩ := hl
  rw [String.ofList_eq_empty_iff.1 hpart] at hp
  exact getLast?_dropTrailing _ hp

theorem exists_eq_join_split (hne : batch ≠ "") (hs : split batch ≠ []) :
    ∃ count, batch = join (split batch) ++ separators count := by
  obtain ⟨count, hb⟩ := exists_toList_eq hne
  refine ⟨count, String.toList_inj.1 ?_⟩
  rw [toList_join_separators hs, hb]

theorem exists_fits (batch : String) : ∃ form : Form, form.Fits batch := by
  by_cases he : batch = ""
  · subst he
    exact ⟨.empty, rfl, rfl⟩
  · by_cases hs : split batch = []
    · exact ⟨.separators, exists_eq_separators he hs, hs⟩
    · refine ⟨.names, ?_⟩
      intro names
      constructor
      · intro h
        obtain ⟨hj, count, hb⟩ := h
        rw [hb, hj.split_join]
      · intro h
        subst h
        exact ⟨joinable_split he hs, exists_eq_join_split he hs⟩

/-- Splitting gives back the names of a batch, and every batch has exactly one of three forms. -/
theorem split_inverts_join :
    (∀ names count, Joinable names → split (join names ++ separators count) = names) ∧
    ∀ batch, ∃! form : Form, form.Fits batch := by
  constructor
  · intro names count h
    exact h.split_join count
  · intro batch
    obtain ⟨form, h⟩ := exists_fits batch
    refine ⟨form, h, ?_⟩
    intro other ho
    exact ho.eq_ofNames.trans h.eq_ofNames.symm

/-- Empty names stay where they are, except at the end. -/
theorem split_inverts_join_empties :
    Joinable ["", "foo", "", "bar"] ∧
      split (join ["", "foo", "", "bar"] ++ separators 2) = ["", "foo", "", "bar"] := by
  have joinable : Joinable ["", "foo", "", "bar"] := ⟨by decide, "bar", rfl, by decide⟩
  exact ⟨joinable, split_inverts_join.1 _ 2 joinable⟩

end CallDispatch.Caller.Batch
