import CallDispatch.Json.Quotation
import CallDispatch.Json.Token

namespace CallDispatch.Json

def foundNumber (s : List Char) : Except Failure (Found × List Char) := do
  let (numeral, r) ← numeral .endOfValue s
  match numeral.integer?, numeral.float? with
  | some n, _ => .ok (.integer n, r)
  | none, some x => .ok (.float x, r)
  | none, none => .error (.here .numberOutOfRange (numeral.unread ++ r))

/-- The value that stands at the start of a text, read no further than an opening bracket. -/
def found (s : List Char) : Except Failure (Found × List Char) :=
  match s with
  | [] => .error (.next .endOfValue [])
  | 'n' :: r => (word ['u', 'l', 'l'] r).map (.null, ·)
  | 't' :: r => (word ['r', 'u', 'e'] r).map (.boolean true, ·)
  | 'f' :: r => (word ['a', 'l', 's', 'e'] r).map (.boolean false, ·)
  | '"' :: r => (text r).map fun (t, r') => (.string t, r')
  | '[' :: _ => .ok (.list, s)
  | '{' :: _ => .ok (.object, s)
  | c :: _ =>
    if c = '-' ∨ c.isDigit then foundNumber s else .error (.next .expectedValue s)

def mismatch (expected : Shape) (s : List Char) : Failure :=
  match found s with
  | .ok (found, r) => .here (.wrongType found expected) r
  | .error failure => failure

/-- Reads one value, and always leaves less text than it was given. -/
structure Reader (α : Type) where
  read : List Char → Except Failure (α × List Char)
  shorter : ∀ {s r : List Char} {a : α}, read s = .ok (a, r) → r.length < s.length

namespace Reader
variable {α β : Type}

def map (f : α → β) (reader : Reader α) : Reader β where
  read s := (reader.read s).map fun (a, r) => (f a, r)
  shorter h := by
    obtain ⟨⟨a, r⟩, h₁, h⟩ := ok_of_map h
    cases h
    exact reader.shorter h₁

def boolean : Reader Bool where
  read s :=
    match skipBlanks s with
    | [] => .error (.next .endOfValue [])
    | 't' :: r => (word ['r', 'u', 'e'] r).map (true, ·)
    | 'f' :: r => (word ['a', 'l', 's', 'e'] r).map (false, ·)
    | r => .error (mismatch .boolean r)
  shorter {s r a} h := by
    split at h
    · cases h
    · next hs =>
      obtain ⟨r', h₁, h⟩ := ok_of_map h
      cases h
      exact Nat.lt_of_le_of_lt (length_word_le h₁) (length_lt_of_skipBlanks hs)
    · next hs =>
      obtain ⟨r', h₁, h⟩ := ok_of_map h
      cases h
      exact Nat.lt_of_le_of_lt (length_word_le h₁) (length_lt_of_skipBlanks hs)
    · cases h

def null : Reader Unit where
  read s :=
    match skipBlanks s with
    | [] => .error (.next .endOfValue [])
    | 'n' :: r => (word ['u', 'l', 'l'] r).map ((), ·)
    | r => .error (mismatch .null r)
  shorter {s r a} h := by
    split at h
    · cases h
    · next hs =>
      obtain ⟨r', h₁, h⟩ := ok_of_map h
      cases h
      exact Nat.lt_of_le_of_lt (length_word_le h₁) (length_lt_of_skipBlanks hs)
    · cases h

def string : Reader String where
  read s :=
    match skipBlanks s with
    | [] => .error (.next .endOfValue [])
    | '"' :: r => text r
    | r => .error (mismatch .string r)
  shorter {s r a} h := by
    split at h
    · cases h
    · next hs => exact Nat.lt_trans (length_textFrom_lt h) (length_lt_of_skipBlanks hs)
    · cases h

end Reader

def Reader.document {α : Type} (reader : Reader α) (s : List Char) : Except Failure α := do
  let (a, r) ← reader.read s
  match skipBlanks r with
  | [] => .ok a
  | r => .error (.next .trailingCharacters r)

def Reader.parse {α : Type} (reader : Reader α) (source : String) : Except String α :=
  match reader.document source.toList with
  | .ok a => .ok a
  | .error failure => .error (failure.message source.toList)


/-- How a list or an object goes on: it is at its end, or something follows. -/
inductive Turn
  | done
  | more
deriving DecidableEq, Repr

/-- Reads up to the next element of a list, or over the closing bracket. -/
def nextElement (first : Bool) (s : List Char) : Except Failure (Turn × List Char) :=
  match skipBlanks s with
  | [] => .error (.next .endOfList [])
  | ']' :: r => .ok (.done, r)
  | c :: r =>
    if first then .ok (.more, c :: r)
    else if c = ',' then
      match skipBlanks r with
      | [] => .error (.next .endOfValue [])
      | ']' :: r' => .error (.next .trailingComma (']' :: r'))
      | r' => .ok (.more, r')
    else .error (.next .expectedListEnd (c :: r))

theorem length_nextElement_le {first : Bool} {s r : List Char} {turn : Turn}
    (h : nextElement first s = .ok (turn, r)) : r.length ≤ s.length := by
  unfold nextElement at h
  split at h
  · cases h
  · next hs => cases h; exact Nat.le_of_lt (length_lt_of_skipBlanks hs)
  · next c r' _ hs =>
    have := length_lt_of_skipBlanks hs
    split at h
    · cases h
      exact this
    · split at h
      · split at h
        · cases h
        · cases h
        · cases h
          exact Nat.le_trans (length_skipBlanks_le r') (Nat.le_of_lt this)
      · cases h

def elements {α : Type} (reader : Reader α) (read : List α) (first : Bool) (s : List Char) :
    Except Failure (List α × List Char) :=
  match h : nextElement first s with
  | .error failure => .error failure
  | .ok (.done, r) => .ok (read.reverse, r)
  | .ok (.more, r) =>
    match h' : reader.read r with
    | .error failure => .error failure
    | .ok (a, r') =>
      have := length_nextElement_le h
      have := reader.shorter h'
      elements reader (a :: read) false r'
termination_by s.length

theorem elements_done {α : Type} {reader : Reader α} {read : List α} {first : Bool}
    {s r : List Char} (h : nextElement first s = .ok (.done, r)) :
    elements reader read first s = .ok (read.reverse, r) := by
  rw [elements]
  split
  · next h' => cases h.symm.trans h'
  · next h' => cases h.symm.trans h'; rfl
  · next h' => cases h.symm.trans h'

theorem elements_more {α : Type} {reader : Reader α} {read : List α} {first : Bool} {a : α}
    {s r r' : List Char} (h : nextElement first s = .ok (.more, r))
    (ha : reader.read r = .ok (a, r')) :
    elements reader read first s = elements reader (a :: read) false r' := by
  rw [elements]
  split
  · next h' => cases h.symm.trans h'
  · next h' => cases h.symm.trans h'
  · next h' =>
    cases h.symm.trans h'
    split
    · next ha' => cases ha.symm.trans ha'
    · next ha' => cases ha.symm.trans ha'; rfl

theorem elements_error {α : Type} {reader : Reader α} {read : List α} {first : Bool}
    {failure : Failure} {s r : List Char} (h : nextElement first s = .ok (.more, r))
    (ha : reader.read r = .error failure) : elements reader read first s = .error failure := by
  rw [elements]
  split
  · next h' => cases h.symm.trans h'
  · next h' => cases h.symm.trans h'
  · next h' =>
    cases h.symm.trans h'
    split
    · next ha' => cases ha.symm.trans ha'; rfl
    · next ha' => cases ha.symm.trans ha'

theorem length_elements_le {α : Type} {reader : Reader α} {read as : List α} {first : Bool}
    {s r : List Char} (h : elements reader read first s = .ok (as, r)) :
    r.length ≤ s.length := by
  fun_induction elements reader read first s with
  | case1 => cases h
  | case2 read first s r' h₁ => cases h; exact length_nextElement_le h₁
  | case3 => cases h
  | case4 read first s r' h₁ a r'' h₂ this this' ih =>
    have := ih h
    omega

def Reader.listOf {α : Type} (reader : Reader α) : Reader (List α) where
  read s :=
    match skipBlanks s with
    | [] => .error (.next .endOfValue [])
    | '[' :: r => elements reader [] true r
    | r => .error (mismatch .list r)
  shorter {s r a} h := by
    split at h
    · cases h
    · next hs => exact Nat.lt_of_le_of_lt (length_elements_le h) (length_lt_of_skipBlanks hs)
    · cases h

end CallDispatch.Json
