import CallDispatch.Caller.Field
import CallDispatch.Proofs.Text.Padding
import CallDispatch.Text
import Mathlib.Data.List.Forall2

namespace CallDispatch.Text

variable {c d : Char} {text other : String}

/-- An ASCII letter, as a capital and as a small letter. -/
structure Capital (c d : Char) : Prop where
  first : 'A'.toNat ≤ c.toNat
  last : c.toNat ≤ 'Z'.toNat
  small : d.toNat = c.toNat + 32

/-- Two characters that differ at most in the case of an ASCII letter. -/
inductive SameLetter : Char → Char → Prop
  | same (c : Char) : SameLetter c c
  | raised {c d : Char} (h : Capital c d) : SameLetter c d
  | lowered {c d : Char} (h : Capital d c) : SameLetter c d

def SameLetters (text other : String) : Prop :=
  text.toList.Forall₂ SameLetter other.toList

theorem toNat_toLower (c : Char) : c.toLower.toNat =
    if 'A'.toNat ≤ c.toNat ∧ c.toNat ≤ 'Z'.toNat then c.toNat + 32 else c.toNat := by
  have hv : (c.val ≥ 'A'.val ∧ c.val ≤ 'Z'.val) ↔ 'A'.toNat ≤ c.toNat ∧ c.toNat ≤ 'Z'.toNat :=
    and_congr UInt32.le_iff_toNat_le UInt32.le_iff_toNat_le
  split
  · next h =>
    have hl : c.toLower.val = c.val + 32 := congrArg Char.val (dif_pos (hv.2 h))
    have hn : 'Z'.toNat < 2 ^ 32 - 32 := by decide
    rw [Char.toNat, hl]
    exact Nat.mod_eq_of_lt (by omega : c.toNat + 32 < 2 ^ 32)
  · next h =>
    have hl : c.toLower = c := dif_neg (mt hv.1 h)
    rw [hl]

theorem sameLetter_iff : SameLetter c d ↔ c.toLower = d.toLower := by
  rw [← Char.toNat_inj, toNat_toLower, toNat_toLower]
  have hA : 'A'.toNat = 65 := rfl
  have hZ : 'Z'.toNat = 90 := rfl
  constructor
  · intro h
    cases h with
    | same => rfl
    | raised h =>
      obtain ⟨first, last, small⟩ := h
      rw [if_pos ⟨first, last⟩, if_neg (by omega), small]
    | lowered h =>
      obtain ⟨first, last, small⟩ := h
      rw [if_neg (by omega), if_pos ⟨first, last⟩, small]
  · intro h
    -- One letter is a capital and the other is not, or they are the same character.
    split at h
    · next hc =>
      split at h
      · obtain rfl : c = d := Char.toNat_inj.1 (by omega)
        exact .same c
      · exact .raised ⟨hc.1, hc.2, h.symm⟩
    · split at h
      · next hd => exact .lowered ⟨hd.1, hd.2, h⟩
      · obtain rfl : c = d := Char.toNat_inj.1 h
        exact .same c

theorem toList_toLower (text : String) : text.toLower.toList = text.toList.map Char.toLower :=
  String.toList_map

theorem sameLetters_iff : SameLetters text other ↔ text.toLower = other.toLower := by
  rw [← String.toList_inj, toList_toLower, toList_toLower, ← List.forall₂_eq_eq_eq,
    List.forall₂_map_left_iff, List.forall₂_map_right_iff]
  simp only [← sameLetter_iff]
  rfl

def IsSmall (c : Char) : Prop :=
  'a'.toNat ≤ c.toNat ∧ c.toNat ≤ 'z'.toNat

def IsLetter (c : Char) : Prop :=
  ('A'.toNat ≤ c.toNat ∧ c.toNat ≤ 'Z'.toNat) ∨ IsSmall c

theorem SameLetter.isLetter (h : SameLetter c d) (hd : IsSmall d) : IsLetter c := by
  cases h with
  | same => exact .inr hd
  | raised h => exact .inl ⟨h.first, h.last⟩
  | lowered h =>
    have hn : 'Z'.toNat < 'a'.toNat := by decide
    have := h.last
    have := hd.1
    omega

theorem SameLetters.exists_sameLetter (h : SameLetters text other) (hc : c ∈ text.toList) :
    ∃ d ∈ other.toList, SameLetter c d := by
  have hl := congrArg String.toList (sameLetters_iff.1 h)
  rw [toList_toLower, toList_toLower] at hl
  have hm : c.toLower ∈ other.toList.map Char.toLower := hl ▸ List.mem_map_of_mem hc
  obtain ⟨d, hd, he⟩ := List.mem_map.1 hm
  exact ⟨d, hd, sameLetter_iff.2 he.symm⟩

theorem IsLetter.toNat_lt (h : IsLetter c) : c.toNat < 128 := by
  have hZ : 'Z'.toNat < 128 := by decide
  have hz : 'z'.toNat < 128 := by decide
  rcases h with h | h
  · omega
  · exact Nat.lt_of_le_of_lt h.2 hz

theorem IsLetter.isBlank_eq (h : IsLetter c) : isBlank c = false := by
  have hA : 'A'.toNat = 65 := rfl
  have ha : 'a'.toNat = 97 := rfl
  have hl : 65 ≤ c.toNat := by
    rcases h with h | h
    · omega
    · have := h.1
      omega
  have hu := h.toNat_lt
  rw [← Bool.not_eq_true]
  intro hb
  simp only [isBlank, Bool.or_eq_true, Bool.and_eq_true, decide_eq_true_eq, List.contains_iff_mem,
    List.mem_cons, List.not_mem_nil, or_false] at hb
  omega

end CallDispatch.Text

namespace CallDispatch.Caller.Field
open Text
variable {field other : Field} {text core : String} {c : Char} {error : Error}

/-- The name of the field in any ASCII case, with nothing but white space around it. -/
def Spells (field : Field) (text : String) : Prop :=
  ∃ core, SameLetters core field.name ∧ Padded core text

theorem isSmall_of_mem_name (h : c ∈ field.name.toList) : IsSmall c := by
  have hs : field.name.toList.all fun c => 'a'.toNat ≤ c.toNat && c.toNat ≤ 'z'.toNat := by
    cases field <;> decide
  simpa [IsSmall] using List.all_eq_true.1 hs c h

theorem toLower_name (field : Field) : field.name.toLower = field.name := by
  rw [← String.toList_inj, toList_toLower]
  cases field <;> decide

theorem ofName?_eq_some_iff : ofName? text = some field ↔ text = field.name := by
  constructor
  · intro h
    exact (name_of_ofName? h).symm
  · intro h
    rw [h, ofName?_name]

theorem isLetter_of_sameLetters (h : SameLetters core field.name) (hc : c ∈ core.toList) :
    IsLetter c := by
  obtain ⟨d, hd, hs⟩ := h.exists_sameLetter hc
  exact hs.isLetter (isSmall_of_mem_name hd)

theorem spells_iff : field.Spells text ↔ SameLetters (trim text) field.name := by
  constructor
  · intro h
    obtain ⟨core, hs, hp⟩ := h
    have ht : trim text = core :=
      (trim_eq_iff fun c hc => (isLetter_of_sameLetters hs hc).isBlank_eq).2 hp
    exact ht ▸ hs
  · intro h
    exact ⟨trim text, h, padded_trim text⟩

theorem Spells.isBlank_or_isLetter (h : field.Spells text) (hc : c ∈ text.toList) :
    isBlank c = true ∨ IsLetter c := by
  obtain ⟨core, hs, before, after, hb, ha, rfl⟩ := h
  rw [String.toList_append, String.toList_append] at hc
  rcases List.mem_append.1 hc with hc | hc
  · rcases List.mem_append.1 hc with hc | hc
    · exact .inl (hb c hc)
    · exact .inr (isLetter_of_sameLetters hs hc)
  · exact .inl (ha c hc)

theorem ofName?_eq_some_iff_spells :
    ofName? (trim text).toLower = some field ↔ field.Spells text := by
  rw [ofName?_eq_some_iff, spells_iff, sameLetters_iff, toLower_name]

theorem parse_eq_ok_iff : parse text = .ok field ↔ field.Spells text := by
  rw [← ofName?_eq_some_iff_spells, parse]
  cases ofName? (trim text).toLower <;> simp

theorem parse_of_not_spells (h : ∀ field : Field, ¬field.Spells text) :
    parse text = .error (.unknownField text) := by
  have hn : ofName? (trim text).toLower = none := by
    apply Option.eq_none_iff_forall_ne_some.2
    intro field hf
    exact h field (ofName?_eq_some_iff_spells.1 hf)
  rw [parse, hn]

theorem parse_eq_error_iff : parse text = .error error ↔
    error = .unknownField text ∧ ∀ field : Field, ¬field.Spells text := by
  constructor
  · intro h
    have hn : ∀ field : Field, ¬field.Spells text := by
      intro field hs
      rw [parse_eq_ok_iff.2 hs] at h
      cases h
    rw [parse_of_not_spells hn] at h
    cases h
    exact ⟨rfl, hn⟩
  · intro h
    obtain ⟨rfl, hn⟩ := h
    exact parse_of_not_spells hn

/-- A field is read from exactly the spellings of its name, and all else is refused as it stands. -/
theorem parse_exactly_spellings :
    (∀ text,
      (∀ field : Field, parse text = .ok field ↔ field.Spells text) ∧
      (∀ field other : Field, field.Spells text → other.Spells text → field = other) ∧
      (∀ error, parse text = .error error ↔
        error = .unknownField text ∧ ∀ field : Field, ¬field.Spells text) ∧
      ∀ c ∈ text.toList, isBlank c = false → 128 ≤ c.toNat →
        parse text = .error (.unknownField text)) ∧
    ∀ (field : Field) (before core after : String), Blank before → Blank after →
      SameLetters core field.name → parse (before ++ core ++ after) = .ok field := by
  constructor
  · intro text
    refine ⟨fun field => parse_eq_ok_iff, ?_, fun error => parse_eq_error_iff, ?_⟩
    · intro field other hf ho
      have h := (parse_eq_ok_iff.2 hf).symm.trans (parse_eq_ok_iff.2 ho)
      cases h
      rfl
    · intro c hc hb hn
      apply parse_of_not_spells
      intro field hs
      rcases hs.isBlank_or_isLetter hc with h | h
      · rw [h] at hb
        cases hb
      · exact absurd h.toNat_lt (Nat.not_lt.2 hn)
  · intro field before core after hb ha hs
    exact parse_eq_ok_iff.2 ⟨core, hs, before, after, hb, ha, rfl⟩

/-- Between an ideographic space and a tab, and with the sign of the kelvin for an ASCII letter. -/
theorem parse_exactly_spellings_kelvin :
    Blank "\u3000" ∧ Blank "\t" ∧ SameLetters "SeLf" selfValue.name ∧
    parse ("\u3000" ++ "SeLf" ++ "\t") = .ok selfValue ∧
    '\u212a' ∈ " BLOC\u212a".toList ∧ isBlank '\u212a' = false ∧ 128 ≤ '\u212a'.toNat ∧
    parse " BLOC\u212a" = .error (.unknownField " BLOC\u212a") := by
  have hb : Blank "\u3000" := by simp [Blank, isBlank]
  have ha : Blank "\t" := by simp [Blank, isBlank]
  have hs : SameLetters "SeLf" selfValue.name := by
    rw [sameLetters_iff, toLower_name, ← String.toList_inj, toList_toLower]
    decide
  have hm : '\u212a' ∈ " BLOC\u212a".toList := by simp
  have hk : isBlank '\u212a' = false := by decide
  have hn : 128 ≤ '\u212a'.toNat := by decide
  exact ⟨hb, ha, hs, parse_exactly_spellings.2 _ _ _ _ hb ha hs, hm, hk, hn,
    (parse_exactly_spellings.1 _).2.2.2 _ hm hk hn⟩

end CallDispatch.Caller.Field
