import CallDispatch.Text
import Mathlib.Data.List.TakeWhile

namespace CallDispatch.Text

variable {p : Char → Bool} {s : List Char} {text core before after : String}

/-- What stands around a text is dropped as far as it satisfies `p`. -/
theorem strip_padded {a b : List Char} (ha : ∀ c ∈ a, p c = true) (hb : ∀ c ∈ b, p c = true)
    (s : List Char) : strip p (a ++ s ++ b) = strip p s := by
  have hb' : ∀ c ∈ b.reverse, p c = true := fun c hc => hb c (List.mem_reverse.1 hc)
  unfold strip
  rw [List.append_assoc, List.dropWhile_append_of_pos ha, List.dropWhile_append]
  by_cases h : s.dropWhile p = []
  · simp [h, List.dropWhile_eq_nil_iff.2 hb]
  · simp [h, List.dropWhile_append_of_pos hb']

theorem exists_eq_append_strip (p : Char → Bool) (s : List Char) :
    ∃ a b, (∀ c ∈ a, p c = true) ∧ (∀ c ∈ b, p c = true) ∧ s = a ++ strip p s ++ b := by
  refine ⟨s.takeWhile p, ((s.dropWhile p).reverse.takeWhile p).reverse, ?_, ?_, ?_⟩
  · intro c hc
    exact List.all_eq_true.1 List.all_takeWhile c hc
  · intro c hc
    exact List.all_eq_true.1 List.all_takeWhile c (List.mem_reverse.1 hc)
  · unfold strip
    rw [List.append_assoc, ← List.reverse_append, List.takeWhile_append_dropWhile,
      List.reverse_reverse, List.takeWhile_append_dropWhile]

theorem strip_eq_nil_iff : strip p s = [] ↔ ∀ c ∈ s, p c = true := by
  constructor
  · intro h
    obtain ⟨a, b, ha, hb, hs⟩ := exists_eq_append_strip p s
    rw [h, List.append_nil] at hs
    rw [hs]
    exact List.forall_mem_append.2 ⟨ha, hb⟩
  · intro h
    rw [strip, List.dropWhile_eq_nil_iff.2 h]
    rfl

/-- A text without such characters loses none. -/
theorem strip_eq_self (solid : ∀ c ∈ s, p c = false) : strip p s = s := by
  obtain ⟨a, b, ha, hb, hs⟩ := exists_eq_append_strip p s
  have none_left : ∀ t : List Char, (∀ c ∈ t, p c = true) → t ⊆ s → t = [] := by
    intro t ht hts
    apply List.eq_nil_iff_forall_not_mem.2
    intro c hc
    exact absurd (ht c hc) (by simp [solid c (hts hc)])
  have ha' : a = [] := none_left a ha (by rw [hs]; simp)
  have hb' : b = [] := none_left b hb (by rw [hs]; simp)
  rw [ha', hb', List.nil_append, List.append_nil] at hs
  exact hs.symm

theorem trim_eq_empty_iff : trim text = "" ↔ ∀ c ∈ text.toList, isBlank c = true := by
  rw [trim, String.ofList_eq_empty_iff, strip_eq_nil_iff]

def Blank (text : String) : Prop :=
  ∀ c ∈ text.toList, isBlank c = true

/-- A text with white space, or nothing, on either side. -/
def Padded (core text : String) : Prop :=
  ∃ before after, Blank before ∧ Blank after ∧ text = before ++ core ++ after

theorem blank_ofList {cs : List Char} (h : ∀ c ∈ cs, isBlank c = true) :
    Blank (String.ofList cs) := by
  intro c hc
  rw [String.toList_ofList] at hc
  exact h c hc

theorem padded_trim (text : String) : Padded (trim text) text := by
  obtain ⟨a, b, ha, hb, hs⟩ := exists_eq_append_strip isBlank text.toList
  refine ⟨String.ofList a, String.ofList b, blank_ofList ha, blank_ofList hb, ?_⟩
  rw [trim, ← String.ofList_append, ← String.ofList_append, ← hs, String.ofList_toList]

theorem trim_padded (hb : Blank before) (ha : Blank after) (core : String) :
    trim (before ++ core ++ after) = trim core := by
  rw [trim, String.toList_append, String.toList_append, strip_padded hb ha, trim]

theorem trim_eq_iff (solid : ∀ c ∈ core.toList, isBlank c = false) :
    trim text = core ↔ Padded core text := by
  constructor
  · intro h
    exact h ▸ padded_trim text
  · intro h
    obtain ⟨before, after, hb, ha, rfl⟩ := h
    rw [trim_padded hb ha, trim, strip_eq_self solid, String.ofList_toList]

end CallDispatch.Text
