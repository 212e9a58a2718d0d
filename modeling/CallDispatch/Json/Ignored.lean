import CallDispatch.Json.Quotation
import CallDispatch.Json.Token

namespace CallDispatch.Json

inductive Bracket
  | list
  | object
deriving DecidableEq, Repr

namespace Bracket

def closing : Bracket → Char
  | list => ']'
  | object => '}'

def atEnd : Bracket → Cause
  | list => .endOfList
  | object => .endOfObject

def expectedEnd : Bracket → Cause
  | list => .expectedListEnd
  | object => .expectedObjectEnd

end Bracket

def skipName (s : List Char) : Except Failure (List Char) :=
  match skipBlanks s with
  | [] => .error (.next .endOfObject [])
  | '"' :: r => skipText r >>= colon
  | r => .error (.next .keyNotString r)

theorem length_skipName_lt {s r : List Char} (h : skipName s = .ok r) :
    r.length < s.length := by
  unfold skipName at h
  split at h
  · cases h
  · next hs =>
    obtain ⟨s₁, h₁, h⟩ := ok_of_bind h
    have := length_skipText_lt h₁
    have := length_colon_lt h
    have := length_lt_of_skipBlanks hs
    omega
  · cases h

def skipToValue : Bracket → List Char → Except Failure (List Char)
  | .list, s => .ok s
  | .object, s => skipName s

theorem length_skipToValue_le {bracket : Bracket} {s r : List Char}
    (h : skipToValue bracket s = .ok r) : r.length ≤ s.length := by
  cases bracket with
  | list => cases h; exact Nat.le_refl _
  | object => exact Nat.le_of_lt (length_skipName_lt h)

def skipScalar (s : List Char) : Except Failure (List Char) :=
  match s with
  | [] => .error (.next .endOfValue [])
  | 'n' :: r => word ['u', 'l', 'l'] r
  | 't' :: r => word ['r', 'u', 'e'] r
  | 'f' :: r => word ['a', 'l', 's', 'e'] r
  | '"' :: r => skipText r
  | c :: r =>
    if c = '-' ∨ c.isDigit then (numeral .invalidNumber (c :: r)).map (·.2)
    else .error (.next .expectedValue (c :: r))

theorem length_skipScalar_lt {s r : List Char} (h : skipScalar s = .ok r) :
    r.length < s.length := by
  unfold skipScalar at h
  split at h
  · cases h
  · exact Nat.lt_succ_of_le (length_word_le h)
  · exact Nat.lt_succ_of_le (length_word_le h)
  · exact Nat.lt_succ_of_le (length_word_le h)
  · exact Nat.lt_succ_of_lt (length_skipText_lt h)
  · split at h
    · obtain ⟨⟨n, s₁⟩, h₁, rfl⟩ := ok_of_map h
      exact length_numeral_lt h₁
    · cases h

/-- Passes over an opening bracket, and tells which it was unless it was closed at once. -/
def skipOpening (bracket : Bracket) (s : List Char) :
    Except Failure (Option Bracket × List Char) :=
  match skipBlanks s with
  | [] => .error (.next bracket.atEnd [])
  | c :: r =>
    if c = bracket.closing then .ok (none, r)
    else (skipToValue bracket (c :: r)).map (some bracket, ·)

theorem length_skipOpening_le {bracket : Bracket} {s r : List Char} {opened : Option Bracket}
    (h : skipOpening bracket s = .ok (opened, r)) : r.length ≤ s.length := by
  unfold skipOpening at h
  split at h
  · cases h
  · next c r' hs =>
    split at h
    · cases h
      exact Nat.le_of_lt (length_lt_of_skipBlanks hs)
    · obtain ⟨s₁, h₁, h⟩ := ok_of_map h
      cases h
      have := length_skipToValue_le h₁
      have := length_skipBlanks_le s
      rw [hs] at this
      omega

/-- Passes over a value, or only over an opening bracket behind which a value has to follow. -/
def skipStart (s : List Char) : Except Failure (Option Bracket × List Char) :=
  match skipBlanks s with
  | '[' :: r => skipOpening .list r
  | '{' :: r => skipOpening .object r
  | r => (skipScalar r).map (none, ·)

theorem length_skipStart_lt {s r : List Char} {opened : Option Bracket}
    (h : skipStart s = .ok (opened, r)) : r.length < s.length := by
  unfold skipStart at h
  split at h
  · next hs => exact Nat.lt_of_le_of_lt (length_skipOpening_le h) (length_lt_of_skipBlanks hs)
  · next hs => exact Nat.lt_of_le_of_lt (length_skipOpening_le h) (length_lt_of_skipBlanks hs)
  · obtain ⟨s₁, h₁, h⟩ := ok_of_map h
    cases h
    exact Nat.lt_of_lt_of_le (length_skipScalar_lt h₁) (length_skipBlanks_le s)

/-- Passes over what follows a value within open brackets, and gives those still open. -/
def skipEnd : List Bracket → List Char → Except Failure (List Bracket × List Char)
  | [], s => .ok ([], s)
  | bracket :: outer, s =>
    match skipBlanks s with
    | [] => .error (.next bracket.atEnd [])
    | c :: r =>
      if c = ',' then (skipToValue bracket r).map (bracket :: outer, ·)
      else if c = bracket.closing then skipEnd outer r
      else .error (.next bracket.expectedEnd (c :: r))

theorem length_skipEnd_le {brackets opened : List Bracket} {s r : List Char}
    (h : skipEnd brackets s = .ok (opened, r)) : r.length ≤ s.length := by
  induction brackets generalizing s with
  | nil => cases h; exact Nat.le_refl _
  | cons bracket outer ih =>
    unfold skipEnd at h
    split at h
    · cases h
    · next c r' hs =>
      have := length_lt_of_skipBlanks hs
      split at h
      · obtain ⟨s₁, h₁, h⟩ := ok_of_map h
        cases h
        have := length_skipToValue_le h₁
        omega
      · split at h
        · have := ih h
          omega
        · cases h

/-- Passes over a value and what follows it within open brackets, the innermost one first. -/
def skipWithin (brackets : List Bracket) (s : List Char) : Except Failure (List Char) :=
  match h : skipStart s with
  | .error failure => .error failure
  | .ok (some bracket, r) =>
    have := length_skipStart_lt h
    skipWithin (bracket :: brackets) r
  | .ok (none, r) =>
    match h' : skipEnd brackets r with
    | .error failure => .error failure
    | .ok ([], r') => .ok r'
    | .ok (bracket :: outer, r') =>
      have := length_skipStart_lt h
      have := length_skipEnd_le h'
      skipWithin (bracket :: outer) r'
termination_by s.length

theorem skipWithin_opened {brackets : List Bracket} {bracket : Bracket} {s r : List Char}
    (h : skipStart s = .ok (some bracket, r)) :
    skipWithin brackets s = skipWithin (bracket :: brackets) r := by
  rw [skipWithin]
  split
  · next h' => cases h.symm.trans h'
  · next h' => cases h.symm.trans h'; rfl
  · next h' => cases h.symm.trans h'

theorem skipWithin_complete {brackets : List Bracket} {s r : List Char}
    (h : skipStart s = .ok (none, r)) :
    skipWithin brackets s =
      match skipEnd brackets r with
      | .error failure => .error failure
      | .ok ([], r') => .ok r'
      | .ok (bracket :: outer, r') => skipWithin (bracket :: outer) r' := by
  rw [skipWithin]
  split
  · next h' => cases h.symm.trans h'
  · next h' => cases h.symm.trans h'
  · next h' =>
    cases h.symm.trans h'
    split <;> next h'' => simp only [h'']

def skipValue (s : List Char) : Except Failure (List Char) :=
  skipWithin [] s

theorem length_skipWithin_lt {brackets : List Bracket} {s r : List Char}
    (h : skipWithin brackets s = .ok r) : r.length < s.length := by
  fun_induction skipWithin brackets s with
  | case1 => cases h
  | case2 brackets s bracket r' h' this ih => exact Nat.lt_trans (ih h) this
  | case3 => cases h
  | case4 brackets s r' h₁ r'' h₂ =>
    cases h
    exact Nat.lt_of_le_of_lt (length_skipEnd_le h₂) (length_skipStart_lt h₁)
  | case5 brackets s r' h₁ bracket outer r'' h₂ this this' ih =>
    exact Nat.lt_trans (ih h) (Nat.lt_of_le_of_lt this' this)

theorem length_skipValue_lt {s r : List Char} (h : skipValue s = .ok r) :
    r.length < s.length :=
  length_skipWithin_lt h

end CallDispatch.Json
