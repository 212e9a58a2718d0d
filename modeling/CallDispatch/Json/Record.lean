import CallDispatch.Basic
import CallDispatch.Json.Ignored
import CallDispatch.Json.Reader

namespace CallDispatch.Json

def nextMember (first : Bool) (s : List Char) : Except Failure (Turn × List Char) :=
  match skipBlanks s with
  | [] => .error (.next .endOfObject [])
  | '}' :: r => .ok (.done, r)
  | c :: r =>
    if first then opening (c :: r)
    else if c = ',' then
      match skipBlanks r with
      | [] => .error (.next .endOfValue [])
      | '}' :: r' => .error (.next .trailingComma ('}' :: r'))
      | r' => opening r'
    else .error (.next .expectedObjectEnd (c :: r))
where
  opening : List Char → Except Failure (Turn × List Char)
    | '"' :: r => .ok (.more, r)
    | r => .error (.next .keyNotString r)

theorem length_opening_lt {s r : List Char} {turn : Turn}
    (h : nextMember.opening s = .ok (turn, r)) : r.length < s.length := by
  unfold nextMember.opening at h
  split at h
  · cases h
    exact Nat.lt_succ_self _
  · cases h

theorem length_nextMember_lt {first : Bool} {s r : List Char} {turn : Turn}
    (h : nextMember first s = .ok (turn, r)) : r.length < s.length := by
  unfold nextMember at h
  split at h
  · cases h
  · next hs => cases h; exact length_lt_of_skipBlanks hs
  · next c r' _ hs =>
    have := length_lt_of_skipBlanks hs
    split at h
    · have := length_opening_lt h
      simp only [List.length_cons] at this
      omega
    · split at h
      · split at h
        · cases h
        · cases h
        · have := length_opening_lt h
          have := length_skipBlanks_le r'
          omega
      · cases h

/-- Reads what stands behind the name of a member, and never leaves more text than it was given. -/
structure MemberReader (σ : Type) where
  read : String → σ → List Char → Except Failure (σ × List Char)
  shorter : ∀ {name : String} {a b : σ} {s r : List Char},
    read name a s = .ok (b, r) → r.length ≤ s.length

def members {σ : Type} (reader : MemberReader σ) (a : σ) (first : Bool) (s : List Char) :
    Except Failure (σ × List Char) :=
  match h : nextMember first s with
  | .error failure => .error failure
  | .ok (.done, r) => .ok (a, r)
  | .ok (.more, r) =>
    match h₁ : text r with
    | .error failure => .error failure
    | .ok (name, r₁) =>
      match h₂ : reader.read name a r₁ with
      | .error failure => .error failure
      | .ok (b, r₂) =>
        have := length_nextMember_lt h
        have := length_textFrom_lt h₁
        have := reader.shorter h₂
        members reader b false r₂
termination_by s.length

theorem members_done {σ : Type} {reader : MemberReader σ} {a : σ} {first : Bool}
    {s r : List Char} (h : nextMember first s = .ok (.done, r)) :
    members reader a first s = .ok (a, r) := by
  rw [members]
  split
  · next h' => cases h.symm.trans h'
  · next h' => cases h.symm.trans h'; rfl
  · next h' => cases h.symm.trans h'

theorem members_more {σ : Type} {reader : MemberReader σ} {a b : σ} {first : Bool}
    {name : String} {s r r₁ r₂ : List Char} (h : nextMember first s = .ok (.more, r))
    (hn : text r = .ok (name, r₁)) (hb : reader.read name a r₁ = .ok (b, r₂)) :
    members reader a first s = members reader b false r₂ := by
  rw [members]
  split
  · next h' => cases h.symm.trans h'
  · next h' => cases h.symm.trans h'
  · next h' =>
    cases h.symm.trans h'
    split
    · next hn' => cases hn.symm.trans hn'
    · next hn' =>
      cases hn.symm.trans hn'
      split
      · next hb' => cases hb.symm.trans hb'
      · next hb' => cases hb.symm.trans hb'; rfl

theorem members_error {σ : Type} {reader : MemberReader σ} {a : σ} {first : Bool}
    {name : String} {failure : Failure} {s r r₁ : List Char}
    (h : nextMember first s = .ok (.more, r)) (hn : text r = .ok (name, r₁))
    (hb : reader.read name a r₁ = .error failure) :
    members reader a first s = .error failure := by
  rw [members]
  split
  · next h' => cases h.symm.trans h'
  · next h' => cases h.symm.trans h'
  · next h' =>
    cases h.symm.trans h'
    split
    · next hn' => cases hn.symm.trans hn'
    · next hn' =>
      cases hn.symm.trans hn'
      split
      · next hb' => cases hb.symm.trans hb'; rfl
      · next hb' => cases hb.symm.trans hb'

theorem length_members_le {σ : Type} {reader : MemberReader σ} {a b : σ} {first : Bool}
    {s r : List Char} (h : members reader a first s = .ok (b, r)) : r.length ≤ s.length := by
  fun_induction members reader a first s with
  | case1 => cases h
  | case2 a first s r' h₁ => cases h; exact Nat.le_of_lt (length_nextMember_lt h₁)
  | case3 => cases h
  | case4 => cases h
  | case5 a first s r' h₁ name r₁ h₂ b' r₂ h₃ this this' this'' ih =>
    have := ih h
    omega

/-- Of members with one name the last one counts. -/
def Reader.objectOf {α : Type} (reader : Reader α) : Reader (Table String α) where
  read s :=
    match skipBlanks s with
    | [] => .error (.next .endOfValue [])
    | '{' :: r => members entry ∅ true r
    | r => .error (mismatch .object r)
  shorter {s r a} h := by
    split at h
    · cases h
    · next hs => exact Nat.lt_of_le_of_lt (length_members_le h) (length_lt_of_skipBlanks hs)
    · cases h
where
  entry : MemberReader (Table String α) :=
    { read := fun name table s => do
        let r ← colon s
        let (a, r) ← reader.read r
        .ok (table.insert name a, r)
      shorter := fun h => by
        obtain ⟨r₁, h₁, h⟩ := ok_of_bind h
        obtain ⟨⟨a, r₂⟩, h₂, h⟩ := ok_of_bind h
        cases h
        have := length_colon_lt h₁
        have := reader.shorter h₂
        omega }

structure Member (σ : Type) where
  name : String
  isSet : σ → Bool
  reader : Reader (σ → σ)

/-- How to read a record by way of a draft. -/
structure Record (σ α : Type) where
  name : String
  members : List (Member σ)
  blank : σ
  /-- The record that a draft amounts to, or the name of the first member that it lacks. -/
  finish : σ → Except String α

/-- Where the failure of a repeated member stands: behind the closing bracket, if it comes next. -/
def leaveObject (s : List Char) : List Char :=
  match skipBlanks s with
  | '}' :: r => r
  | r => r

def closeList (s : List Char) : Except Failure (List Char) :=
  match skipBlanks s with
  | [] => .error (.next .endOfList [])
  | ']' :: r => .ok r
  | ',' :: r =>
    match skipBlanks r with
    | ']' :: r' => .error (.next .trailingComma (']' :: r'))
    | r' => .error (.next .trailingCharacters r')
  | r => .error (.next .trailingCharacters r)

theorem length_closeList_lt {s r : List Char} (h : closeList s = .ok r) :
    r.length < s.length := by
  unfold closeList at h
  split at h
  · cases h
  · next hs => cases h; exact length_lt_of_skipBlanks hs
  · split at h <;> cases h
  · cases h

def inOrder {σ : Type} (a : σ) (count : Nat) :
    List (Member σ) → List Char → Except Failure ((σ × Nat) × List Char)
  | [], s => (closeList s).map ((a, count), ·)
  | member :: members, s => do
    match ← nextElement (count = 0) s with
    | (.done, r) => .ok ((a, count), r)
    | (.more, r) =>
      let (f, r) ← member.reader.read r
      inOrder (f a) (count + 1) members r

theorem length_inOrder_le {σ : Type} {a : σ} {count : Nat} {members : List (Member σ)}
    {s r : List Char} {result : σ × Nat} (h : inOrder a count members s = .ok (result, r)) :
    r.length ≤ s.length := by
  induction members generalizing a count s with
  | nil =>
    obtain ⟨r', h₁, h⟩ := ok_of_map h
    cases h
    exact Nat.le_of_lt (length_closeList_lt h₁)
  | cons member members ih =>
    obtain ⟨⟨turn, s₁⟩, h₁, h⟩ := ok_of_bind h
    have := length_nextElement_le h₁
    cases turn with
    | done => cases h; exact this
    | more =>
      obtain ⟨⟨f, s₂⟩, h₂, h⟩ := ok_of_bind h
      have := member.reader.shorter h₂
      have := ih h
      omega

namespace Record
variable {σ α : Type}

def memberReader (record : Record σ α) : MemberReader σ where
  read name a s :=
    match record.members.find? (·.name = name) with
    | none => (colon s >>= skipValue).map (a, ·)
    | some member =>
      if member.isSet a then .error (.here (.duplicateMember name) (leaveObject s))
      else do
        let r ← colon s
        let (f, r) ← member.reader.read r
        .ok (f a, r)
  shorter {name a b s r} h := by
    split at h
    · obtain ⟨r', h₁, h⟩ := ok_of_map h
      cases h
      obtain ⟨r₁, h₁, h₂⟩ := ok_of_bind h₁
      have := length_colon_lt h₁
      have := length_skipValue_lt h₂
      omega
    · next member _ =>
      split at h
      · cases h
      · obtain ⟨r₁, h₁, h⟩ := ok_of_bind h
        obtain ⟨⟨f, r₂⟩, h₂, h⟩ := ok_of_bind h
        cases h
        have := length_colon_lt h₁
        have := member.reader.shorter h₂
        omega

def ofObject (record : Record σ α) (s : List Char) : Except Failure (α × List Char) := do
  let (a, r) ← Json.members record.memberReader record.blank true s
  match record.finish a with
  | .ok result => .ok (result, r)
  | .error name => .error (.here (.missingMember name) r)

theorem length_ofObject_le {record : Record σ α} {s r : List Char} {a : α}
    (h : record.ofObject s = .ok (a, r)) : r.length ≤ s.length := by
  obtain ⟨⟨draft, r'⟩, h₁, h⟩ := ok_of_bind h
  dsimp only at h
  split at h
  · cases h
    exact length_members_le h₁
  · cases h

def ofList (record : Record σ α) (s : List Char) : Except Failure (α × List Char) := do
  let ((a, count), r) ← inOrder record.blank 0 record.members s
  match record.finish a with
  | .ok result => .ok (result, r)
  | .error _ => .error (.here (.wrongLength count record.name record.members.length) r)

theorem length_ofList_le {record : Record σ α} {s r : List Char} {a : α}
    (h : record.ofList s = .ok (a, r)) : r.length ≤ s.length := by
  obtain ⟨⟨⟨draft, count⟩, r'⟩, h₁, h⟩ := ok_of_bind h
  dsimp only at h
  split at h
  · cases h
    exact length_inOrder_le h₁
  · cases h

def reader (record : Record σ α) : Reader α where
  read s :=
    match skipBlanks s with
    | [] => .error (.next .endOfValue [])
    | '{' :: r => record.ofObject r
    | '[' :: r => record.ofList r
    | r => .error (mismatch (.record record.name) r)
  shorter {s r a} h := by
    split at h
    · cases h
    · next hs => exact Nat.lt_of_le_of_lt (length_ofObject_le h) (length_lt_of_skipBlanks hs)
    · next hs => exact Nat.lt_of_le_of_lt (length_ofList_le h) (length_lt_of_skipBlanks hs)
    · cases h

end Record
end CallDispatch.Json
