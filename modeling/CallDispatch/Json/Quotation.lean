import CallDispatch.Json.Token

namespace CallDispatch.Json

def hexDigit? (c : Char) : Option Nat :=
  if '0' ≤ c ∧ c ≤ '9' then some (c.toNat - '0'.toNat)
  else if 'a' ≤ c ∧ c ≤ 'f' then some (c.toNat - 'a'.toNat + 10)
  else if 'A' ≤ c ∧ c ≤ 'F' then some (c.toNat - 'A'.toNat + 10)
  else none

/-- Reads four hexadecimal digits. Four bytes are taken whatever they are. -/
def hexUnit (s : List Char) : Except Failure (Nat × List Char) :=
  match s with
  | a :: b :: c :: d :: r =>
    match [a, b, c, d].mapM hexDigit? with
    | some digits => .ok (digits.foldl (fun n digit => 16 * n + digit) 0, r)
    | none => .error ⟨.invalidEscape, s, 4⟩
  | _ => .error ⟨if byteCount s < 4 then .endOfString else .invalidEscape, s, 4⟩

theorem length_hexUnit_lt {s r : List Char} {n : Nat} (h : hexUnit s = .ok (n, r)) :
    r.length < s.length := by
  unfold hexUnit at h
  split at h
  · split at h
    · cases h
      simp only [List.length_cons]
      omega
    · cases h
  · cases h

def isLeadingSurrogate (unit : Nat) : Bool := 0xd800 ≤ unit && unit < 0xdc00

def isTrailingSurrogate (unit : Nat) : Bool := 0xdc00 ≤ unit && unit < 0xe000

/-- The character that a pair of surrogates stands for. -/
def ofSurrogates (leading trailing : Nat) : Char :=
  .ofNat (0x10000 + (leading - 0xd800) * 0x400 + (trailing - 0xdc00))

def surrogateMark (mark : Char) : List Char → Except Failure (List Char)
  | [] => .error (.here .endOfString [])
  | c :: r => if c = mark then .ok r else .error (.next .unfinishedSurrogate (c :: r))

theorem length_surrogateMark_lt {mark : Char} {s r : List Char}
    (h : surrogateMark mark s = .ok r) : r.length < s.length := by
  cases s with
  | nil => cases h
  | cons c s =>
    simp only [surrogateMark] at h
    split at h
    · cases h
      exact Nat.lt_succ_self _
    · cases h

def surrogatePair (leading : Nat) (s : List Char) : Except Failure (Char × List Char) := do
  let s ← surrogateMark '\\' s
  let s ← surrogateMark 'u' s
  let (trailing, r) ← hexUnit s
  if isTrailingSurrogate trailing then .ok (ofSurrogates leading trailing, r)
  else .error (.here .loneSurrogate r)

theorem length_surrogatePair_lt {leading : Nat} {s r : List Char} {c : Char}
    (h : surrogatePair leading s = .ok (c, r)) : r.length < s.length := by
  obtain ⟨s₁, h₁, h⟩ := ok_of_bind h
  obtain ⟨s₂, h₂, h⟩ := ok_of_bind h
  obtain ⟨⟨trailing, s₃⟩, h₃, h⟩ := ok_of_bind h
  have := length_surrogateMark_lt h₁
  have := length_surrogateMark_lt h₂
  have := length_hexUnit_lt h₃
  dsimp only at h
  split at h
  · have rest : s₃ = r := congrArg Prod.snd (Except.ok.inj h)
    subst rest
    omega
  · cases h

/-- Reads a character by its number, which is split in two for one beyond 16 bits. -/
def numberedChar (s : List Char) : Except Failure (Char × List Char) := do
  let (unit, r) ← hexUnit s
  if isTrailingSurrogate unit then .error (.here .loneSurrogate r)
  else if isLeadingSurrogate unit then surrogatePair unit r
  else .ok (.ofNat unit, r)

theorem length_numberedChar_lt {s r : List Char} {c : Char} (h : numberedChar s = .ok (c, r)) :
    r.length < s.length := by
  obtain ⟨⟨unit, s₁⟩, h₁, h⟩ := ok_of_bind h
  have := length_hexUnit_lt h₁
  dsimp only at h
  split at h
  · cases h
  · split at h
    · exact Nat.lt_trans (length_surrogatePair_lt h) this
    · have rest : s₁ = r := congrArg Prod.snd (Except.ok.inj h)
      subst rest
      assumption

def escape? : Char → Option Char
  | '"' => some '"'
  | '\\' => some '\\'
  | '/' => some '/'
  | 'b' => some '\x08'
  | 'f' => some '\x0c'
  | 'n' => some '\n'
  | 'r' => some '\r'
  | 't' => some '\t'
  | _ => none

def escaped : List Char → Except Failure (Char × List Char)
  | [] => .error (.here .endOfString [])
  | 'u' :: r => numberedChar r
  | c :: r =>
    match escape? c with
    | some d => .ok (d, r)
    | none => .error (.next .invalidEscape (c :: r))

theorem length_escaped_lt {s r : List Char} {c : Char} (h : escaped s = .ok (c, r)) :
    r.length < s.length := by
  unfold escaped at h
  split at h
  · cases h
  · exact Nat.lt_succ_of_lt (length_numberedChar_lt h)
  · split at h
    · cases h
      exact Nat.lt_succ_self _
    · cases h

/-- Passes over what follows a backslash. A surrogate may stand alone here. -/
def skipEscaped : List Char → Except Failure (List Char)
  | [] => .error (.here .endOfString [])
  | 'u' :: r => (hexUnit r).map (·.2)
  | c :: r => if (escape? c).isSome then .ok r else .error (.next .invalidEscape (c :: r))

theorem length_skipEscaped_lt {s r : List Char} (h : skipEscaped s = .ok r) :
    r.length < s.length := by
  unfold skipEscaped at h
  split at h
  · cases h
  · obtain ⟨⟨unit, s₁⟩, h₁, rfl⟩ := ok_of_map h
    exact Nat.lt_succ_of_lt (length_hexUnit_lt h₁)
  · split at h
    · cases h
      exact Nat.lt_succ_self _
    · cases h

/-- Reads a string up to its closing quotation mark, behind the characters already read. -/
def textFrom (read : List Char) (s : List Char) : Except Failure (String × List Char) :=
  match s with
  | [] => .error (.here .endOfString [])
  | '"' :: r => .ok (String.ofList read.reverse, r)
  | '\\' :: r =>
    match h : escaped r with
    | .ok (c, r') =>
      have := length_escaped_lt h
      textFrom (c :: read) r'
    | .error failure => .error failure
  | c :: r =>
    if c.toNat < 0x20 then .error (.next .controlCharacter (c :: r)) else textFrom (c :: read) r
termination_by s.length

def text (s : List Char) : Except Failure (String × List Char) :=
  textFrom [] s

theorem textFrom_quotation (read r : List Char) :
    textFrom read ('"' :: r) = .ok (String.ofList read.reverse, r) := by
  rw [textFrom]

theorem textFrom_escaped {read r r' : List Char} {c : Char} (h : escaped r = .ok (c, r')) :
    textFrom read ('\\' :: r) = textFrom (c :: read) r' := by
  rw [textFrom]
  split
  · next h' => cases h.symm.trans h'; rfl
  · next h' => cases h.symm.trans h'

theorem textFrom_plain {c : Char} (hq : c ≠ '"') (hb : c ≠ '\\') (hc : ¬c.toNat < 0x20)
    (read r : List Char) : textFrom read (c :: r) = textFrom (c :: read) r := by
  rw [textFrom, if_neg hc]
  · exact hq
  · exact hb

theorem length_textFrom_lt {read s r : List Char} {t : String}
    (h : textFrom read s = .ok (t, r)) : r.length < s.length := by
  fun_induction textFrom read s with
  | case1 => cases h
  | case2 => cases h; exact Nat.lt_succ_self _
  | case3 read s c r' hc this ih => exact Nat.lt_succ_of_lt (Nat.lt_trans (ih h) this)
  | case4 => cases h
  | case5 => cases h
  | case6 read c s h₁ h₂ h₃ ih => exact Nat.lt_succ_of_lt (ih h)

def skipText (s : List Char) : Except Failure (List Char) :=
  match s with
  | [] => .error (.here .endOfString [])
  | '"' :: r => .ok r
  | '\\' :: r =>
    match h : skipEscaped r with
    | .ok r' =>
      have := length_skipEscaped_lt h
      skipText r'
    | .error failure => .error failure
  | c :: r =>
    if c.toNat < 0x20 then .error (.here .controlCharacter (c :: r)) else skipText r
termination_by s.length

theorem skipText_quotation (r : List Char) : skipText ('"' :: r) = .ok r := by
  rw [skipText]

theorem skipText_escaped {r r' : List Char} (h : skipEscaped r = .ok r') :
    skipText ('\\' :: r) = skipText r' := by
  rw [skipText]
  split
  · next h' => cases h.symm.trans h'; rfl
  · next h' => cases h.symm.trans h'

theorem skipText_plain {c : Char} (hq : c ≠ '"') (hb : c ≠ '\\') (hc : ¬c.toNat < 0x20)
    (r : List Char) : skipText (c :: r) = skipText r := by
  rw [skipText, if_neg hc]
  · exact hq
  · exact hb

theorem length_skipText_lt {s r : List Char} (h : skipText s = .ok r) :
    r.length < s.length := by
  fun_induction skipText s with
  | case1 => cases h
  | case2 => cases h; exact Nat.lt_succ_self _
  | case3 s r' hc this ih => exact Nat.lt_succ_of_lt (Nat.lt_trans (ih h) this)
  | case4 => cases h
  | case5 => cases h
  | case6 c s h₁ h₂ h₃ ih => exact Nat.lt_succ_of_lt (ih h)

end CallDispatch.Json

namespace CallDispatch.Json.Layout

def written (c : Char) : List Char :=
  match c with
  | '"' => ['\\', '"']
  | '\\' => ['\\', '\\']
  | '\x08' => ['\\', 'b']
  | '\x0c' => ['\\', 'f']
  | '\n' => ['\\', 'n']
  | '\r' => ['\\', 'r']
  | '\t' => ['\\', 't']
  | _ =>
    if c.toNat < 0x20 then
      ['\\', 'u', '0', '0', Nat.digitChar (c.toNat / 16), Nat.digitChar (c.toNat % 16)]
    else [c]

def quoted (text : String) : List Char :=
  '"' :: text.toList.flatMap written ++ ['"']

def newline (depth : Nat) : List Char :=
  '\n' :: List.replicate (2 * depth) ' '

/-- Elements between two brackets, which touch if there are none. -/
def block (opening closing : Char) (depth : Nat) : List (List Char) → List Char
  | [] => [opening, closing]
  | element :: elements =>
    opening :: newline (depth + 1) ++ element ++
      elements.flatMap (fun element => ',' :: newline (depth + 1) ++ element) ++
      newline depth ++ [closing]

def list (depth : Nat) (elements : List (List Char)) : List Char :=
  block '[' ']' depth elements

def member (name : String) (value : List Char) : List Char :=
  quoted name ++ ':' :: ' ' :: value

def object (depth : Nat) (members : List (String × List Char)) : List Char :=
  block '{' '}' depth (members.map fun (name, value) => member name value)

end CallDispatch.Json.Layout
