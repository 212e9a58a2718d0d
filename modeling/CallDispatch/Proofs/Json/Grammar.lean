import CallDispatch.Json.Quotation
import CallDispatch.Json.Token

namespace CallDispatch.Json

/-- A JSON value. A string that is not Unicode has no text. -/
inductive Value
  | null
  | boolean (value : Bool)
  | number (numeral : Decimal.Numeral)
  | string (text : Option String)
  | list (elements : List Value)
  | object (members : List (Option String × Value))

inductive Blanks : List Char → List Char → Prop
  | none (r : List Char) : Blanks r r
  | blank {c : Char} {s r : List Char} : isBlank c = true → Blanks s r → Blanks (c :: s) r

def Digits (ds : List Char) : Prop :=
  ds ≠ [] ∧ ∀ d ∈ ds, d.isDigit = true

inductive Whole : List Char → Prop
  | zero : Whole ['0']
  | digits {d : Char} {ds : List Char} : d ≠ '0' → Digits (d :: ds) → Whole (d :: ds)

inductive Fraction : List Char → List Char → List Char → Prop
  | absent (r : List Char) : Fraction [] r r
  | present {ds : List Char} (r : List Char) : Digits ds → Fraction ds ('.' :: (ds ++ r)) r

inductive Sign : Bool → List Char → List Char → Prop
  | absent (r : List Char) : Sign false r r
  | plus (r : List Char) : Sign false ('+' :: r) r
  | minus (r : List Char) : Sign true ('-' :: r) r

inductive Power : Option Decimal.Exponent → List Char → List Char → Prop
  | absent (r : List Char) : Power none r r
  | present {e : Char} {negative : Bool} {s ds r : List Char} : e = 'e' ∨ e = 'E' →
      Sign negative s (ds ++ r) → Digits ds → Power (some ⟨negative, ds⟩) (e :: s) r

inductive Number : Decimal.Numeral → List Char → List Char → Prop
  | positive {ws fs s s' r : List Char} {power : Option Decimal.Exponent} : Whole ws →
      Fraction fs s s' → Power power s' r → Number ⟨false, ws, fs, power⟩ (ws ++ s) r
  | negative {ws fs s s' r : List Char} {power : Option Decimal.Exponent} : Whole ws →
      Fraction fs s s' → Power power s' r → Number ⟨true, ws, fs, power⟩ ('-' :: (ws ++ s)) r

inductive Piece
  | char (c : Char)
  | unit (n : Nat)

def hexNumber? (a b c d : Char) : Option Nat := do
  let h ← hexDigit? a
  let i ← hexDigit? b
  let j ← hexDigit? c
  let k ← hexDigit? d
  some (16 * (16 * (16 * h + i) + j) + k)

inductive Quoted : List Piece → List Char → List Char → Prop
  | done (r : List Char) : Quoted [] ('"' :: r) r
  | plain {c : Char} {pieces : List Piece} {s r : List Char} : c ≠ '"' → c ≠ '\\' →
      ¬c.toNat < 0x20 → Quoted pieces s r → Quoted (.char c :: pieces) (c :: s) r
  | escape {e c : Char} {pieces : List Piece} {s r : List Char} : escape? e = some c →
      Quoted pieces s r → Quoted (.char c :: pieces) ('\\' :: e :: s) r
  | unit {a b c d : Char} {n : Nat} {pieces : List Piece} {s r : List Char} :
      hexNumber? a b c d = some n → Quoted pieces s r →
      Quoted (.unit n :: pieces) ('\\' :: 'u' :: a :: b :: c :: d :: s) r

def isSurrogate (unit : Nat) : Bool := isLeadingSurrogate unit || isTrailingSurrogate unit

/-- The characters that pieces stand for, unless there is a surrogate without its other half. -/
def chars? : List Piece → Option (List Char)
  | [] => some []
  | .char c :: pieces => (chars? pieces).map (c :: ·)
  | .unit n :: pieces =>
    if isSurrogate n then
      match pieces with
      | .unit m :: pieces =>
        if isLeadingSurrogate n && isTrailingSurrogate m then
          (chars? pieces).map (ofSurrogates n m :: ·)
        else none
      | _ => none
    else (chars? pieces).map (.ofNat n :: ·)

def text? (pieces : List Piece) : Option String :=
  (chars? pieces).map String.ofList

/-- What stands before an element: blanks, and a comma among them unless it is the first. -/
def Separator : Bool → List Char → List Char → Prop
  | true, s, r => Blanks s r
  | false, s, r => ∃ s', Blanks s (',' :: s') ∧ Blanks s' r

mutual
/-- A text starts with a value, and leaves the rest. -/
inductive Spelled : Value → List Char → List Char → Prop
  | null (r : List Char) : Spelled .null ('n' :: 'u' :: 'l' :: 'l' :: r) r
  | true (r : List Char) : Spelled (.boolean true) ('t' :: 'r' :: 'u' :: 'e' :: r) r
  | false (r : List Char) : Spelled (.boolean false) ('f' :: 'a' :: 'l' :: 's' :: 'e' :: r) r
  | number {n : Decimal.Numeral} {s r : List Char} : Number n s r → Spelled (.number n) s r
  | string {pieces : List Piece} {s r : List Char} : Quoted pieces s r →
      Spelled (.string (text? pieces)) ('"' :: s) r
  | list {vs : List Value} {s r : List Char} : Elements Bool.true vs s r →
      Spelled (.list vs) ('[' :: s) r
  | object {ms : List (Option String × Value)} {s r : List Char} : Members Bool.true ms s r →
      Spelled (.object ms) ('{' :: s) r
inductive Elements : Bool → List Value → List Char → List Char → Prop
  | noElement {first : Bool} {s r : List Char} : Blanks s (']' :: r) → Elements first [] s r
  | element {first : Bool} {v : Value} {vs : List Value} {s s₁ s₂ r : List Char} :
      Separator first s s₁ → Spelled v s₁ s₂ → Elements Bool.false vs s₂ r →
      Elements first (v :: vs) s r
inductive Members : Bool → List (Option String × Value) → List Char → List Char → Prop
  | noMember {first : Bool} {s r : List Char} : Blanks s ('}' :: r) → Members first [] s r
  | member {first : Bool} {pieces : List Piece} {v : Value} {ms : List (Option String × Value)}
      {s s₁ s₂ s₃ s₄ s₅ r : List Char} :
      Separator first s ('"' :: s₁) → Quoted pieces s₁ s₂ → Blanks s₂ (':' :: s₃) →
      Blanks s₃ s₄ → Spelled v s₄ s₅ → Members Bool.false ms s₅ r →
      Members first ((text? pieces, v) :: ms) s r
end

/-- A text that holds a value and nothing else. -/
def Document (v : Value) (s : List Char) : Prop :=
  ∃ s₁ s₂, Blanks s s₁ ∧ Spelled v s₁ s₂ ∧ Blanks s₂ []

end CallDispatch.Json
