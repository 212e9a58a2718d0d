import CallDispatch.Decimal
import CallDispatch.Json.Failure

namespace CallDispatch.Json

def isBlank (c : Char) : Bool :=
  c = ' ' || c = '\n' || c = '\t' || c = '\r'

def skipBlanks (s : List Char) : List Char :=
  s.dropWhile isBlank

theorem length_skipBlanks_le (s : List Char) : (skipBlanks s).length ≤ s.length :=
  (List.dropWhile_suffix isBlank).length_le

theorem length_lt_of_skipBlanks {s r : List Char} {c : Char} (h : skipBlanks s = c :: r) :
    r.length < s.length := by
  have := length_skipBlanks_le s
  simp only [h, List.length_cons] at this
  omega

theorem ok_of_bind {ε α β : Type} {x : Except ε α} {f : α → Except ε β} {b : β}
    (h : x >>= f = .ok b) : ∃ a, x = .ok a ∧ f a = .ok b := by
  cases x with
  | error e => cases h
  | ok a => exact ⟨a, rfl, h⟩

theorem ok_of_map {ε α β : Type} {x : Except ε α} {f : α → β} {b : β}
    (h : x.map f = .ok b) : ∃ a, x = .ok a ∧ f a = b := by
  cases x with
  | error e => cases h
  | ok a => exact ⟨a, rfl, Except.ok.inj h⟩

/-- Reads the letters of a word. What follows the word does not matter. -/
def word : List Char → List Char → Except Failure (List Char)
  | [], s => .ok s
  | _ :: _, [] => .error (.here .endOfValue [])
  | w :: ws, c :: s => if c = w then word ws s else .error (.next .expectedWord (c :: s))

theorem length_word_le {ws s r : List Char} (h : word ws s = .ok r) : r.length ≤ s.length := by
  induction ws generalizing s with
  | nil => cases h; exact Nat.le_refl _
  | cons w ws ih =>
    cases s with
    | nil => cases h
    | cons c s =>
      simp only [word] at h
      split at h
      · exact Nat.le_succ_of_le (ih h)
      · cases h

def colon (s : List Char) : Except Failure (List Char) :=
  match skipBlanks s with
  | [] => .error (.next .endOfObject [])
  | ':' :: r => .ok r
  | r => .error (.next .expectedColon r)

theorem length_colon_lt {s r : List Char} (h : colon s = .ok r) : r.length < s.length := by
  unfold colon at h
  split at h
  · cases h
  · next hs => cases h; exact length_lt_of_skipBlanks hs
  · cases h

/-- Reads the digits before the point. A zero stands alone. -/
def wholeDigits (atEnd : Cause) : List Char → Except Failure (List Char × List Char)
  | [] => .error (.here atEnd [])
  | '0' :: r =>
    if (r.takeWhile Char.isDigit).isEmpty then .ok (['0'], r)
    else .error (.next .invalidNumber r)
  | c :: r =>
    if c.isDigit then .ok (c :: r.takeWhile Char.isDigit, r.dropWhile Char.isDigit)
    else .error (.next .invalidNumber (c :: r))

theorem length_wholeDigits_lt {atEnd : Cause} {s ds r : List Char}
    (h : wholeDigits atEnd s = .ok (ds, r)) : r.length < s.length := by
  unfold wholeDigits at h
  split at h
  · cases h
  · split at h
    · cases h
      exact Nat.lt_succ_self _
    · cases h
  · split at h
    · cases h
      exact Nat.lt_succ_of_le (List.dropWhile_suffix _).length_le
    · cases h

def someDigits (atEnd : Cause) (s : List Char) : Except Failure (List Char × List Char) :=
  match s.takeWhile Char.isDigit with
  | [] => .error (.next (if s.isEmpty then atEnd else .invalidNumber) s)
  | d :: ds => .ok (d :: ds, s.dropWhile Char.isDigit)

theorem length_someDigits_le {atEnd : Cause} {s ds r : List Char}
    (h : someDigits atEnd s = .ok (ds, r)) : r.length ≤ s.length := by
  unfold someDigits at h
  split at h
  · cases h
  · cases h
    exact (List.dropWhile_suffix _).length_le

def fractionDigits (atEnd : Cause) : List Char → Except Failure (List Char × List Char)
  | '.' :: r => someDigits atEnd r
  | s => .ok ([], s)

theorem length_fractionDigits_le {atEnd : Cause} {s ds r : List Char}
    (h : fractionDigits atEnd s = .ok (ds, r)) : r.length ≤ s.length := by
  unfold fractionDigits at h
  split at h
  · exact Nat.le_succ_of_le (length_someDigits_le h)
  · cases h
    exact Nat.le_refl _

def exponentSign : List Char → Bool × List Char
  | '-' :: r => (true, r)
  | '+' :: r => (false, r)
  | s => (false, s)

theorem length_exponentSign_le (s : List Char) : (exponentSign s).2.length ≤ s.length := by
  unfold exponentSign
  split <;> simp

def exponentPart (atEnd : Cause) (s : List Char) :
    Except Failure (Option Decimal.Exponent × List Char) :=
  match s with
  | [] => .ok (none, [])
  | c :: r =>
    if c = 'e' ∨ c = 'E' then
      (someDigits atEnd (exponentSign r).2).map fun (digits, r') =>
        (some ⟨(exponentSign r).1, digits⟩, r')
    else .ok (none, c :: r)

theorem length_exponentPart_le {atEnd : Cause} {s r : List Char}
    {exponent : Option Decimal.Exponent} (h : exponentPart atEnd s = .ok (exponent, r)) :
    r.length ≤ s.length := by
  unfold exponentPart at h
  split at h
  · cases h
    exact Nat.le_refl _
  · split at h
    · obtain ⟨⟨digits, r'⟩, h₁, h⟩ := ok_of_map h
      cases h
      have := length_someDigits_le h₁
      exact Nat.le_succ_of_le (Nat.le_trans this (length_exponentSign_le _))
    · cases h
      exact Nat.le_refl _

def minusSign : List Char → Bool × List Char
  | '-' :: r => (true, r)
  | s => (false, s)

theorem length_minusSign_le (s : List Char) : (minusSign s).2.length ≤ s.length := by
  unfold minusSign
  split <;> simp

/-- The cause of failure where the text ends too early is up to the caller. -/
def numeral (atEnd : Cause) (s : List Char) :
    Except Failure (Decimal.Numeral × List Char) := do
  let (whole, r) ← wholeDigits atEnd (minusSign s).2
  let (fraction, r) ← fractionDigits atEnd r
  let (exponent, r) ← exponentPart atEnd r
  .ok (⟨(minusSign s).1, whole, fraction, exponent⟩, r)

theorem length_numeral_lt {atEnd : Cause} {s r : List Char} {n : Decimal.Numeral}
    (h : numeral atEnd s = .ok (n, r)) : r.length < s.length := by
  obtain ⟨⟨whole, s₁⟩, h₁, h⟩ := ok_of_bind h
  obtain ⟨⟨fraction, s₂⟩, h₂, h⟩ := ok_of_bind h
  obtain ⟨⟨exponent, s₃⟩, h₃, h⟩ := ok_of_bind h
  cases h
  have := length_minusSign_le s
  have := length_wholeDigits_lt h₁
  have := length_fractionDigits_le h₂
  have := length_exponentPart_le h₃
  omega

end CallDispatch.Json
