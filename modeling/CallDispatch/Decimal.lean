namespace CallDispatch.Decimal

/-- The finite number whose absolute value is `significand * 2 ^ exponent`. -/
structure Binary64 where
  negative : Bool
  significand : Nat
  exponent : Int
deriving DecidableEq, Repr

/-- The integer nearest to a quotient, and of two such the even one. -/
def roundDiv (num den : Nat) : Nat :=
  let quotient := num / den
  let excess := 2 * (num % den)
  if excess < den then quotient
  else if den < excess then quotient + 1
  else quotient + quotient % 2

def powerOfTen (exponent : Nat) : Nat :=
  Nat.pow 10 exponent

def digitCount (n : Nat) : Nat :=
  (Nat.toDigits 10 n).length

namespace Binary64

def leastExponent : Int := -1074

def greatestExponent : Int := 971

def significandBound : Nat := 1 <<< 53

def zero (negative : Bool) : Binary64 := ⟨negative, 0, leastExponent⟩

/-- The power of two that leaves a quotient with at most 53 bits before the point. -/
def exponentOf (num den : Nat) : Int :=
  let normal : Int := num.log2 - den.log2 - 53
  let guess := if normal < leastExponent then leastExponent else normal
  if (num <<< (-guess).toNat) / (den <<< guess.toNat) < significandBound then guess
  else guess + 1

def ofQuotient? (negative : Bool) (num den : Nat) : Option Binary64 :=
  if num = 0 then some (zero negative) else
  let exponent := exponentOf num den
  let significand := roundDiv (num <<< (-exponent).toNat) (den <<< exponent.toNat)
  let number : Binary64 :=
    if significand = significandBound then ⟨negative, significandBound / 2, exponent + 1⟩
    else ⟨negative, significand, exponent⟩
  if greatestExponent < number.exponent then none else some number

def ofNat? (negative : Bool) (n : Nat) : Option Binary64 :=
  ofQuotient? negative n 1

def mul? (x y : Binary64) : Option Binary64 :=
  let exponent := x.exponent + y.exponent
  ofQuotient? (x.negative != y.negative)
    ((x.significand * y.significand) <<< exponent.toNat) (1 <<< (-exponent).toNat)

def div? (x y : Binary64) : Option Binary64 :=
  let exponent := x.exponent - y.exponent
  ofQuotient? (x.negative != y.negative)
    (x.significand <<< exponent.toNat) (y.significand <<< (-exponent).toNat)

def greatestPower : Nat := 308

def tenTo? (power : Nat) : Option Binary64 :=
  ofNat? false (powerOfTen power)

def shrink? (x : Binary64) (power : Nat) : Option Binary64 :=
  if x.significand = 0 then some x
  else if power ≤ greatestPower then do x.div? (← tenTo? power)
  else do (← x.div? (← tenTo? greatestPower)).shrink? (power - greatestPower)
termination_by power
decreasing_by unfold greatestPower at *; omega

def scale? (x : Binary64) (power : Int) : Option Binary64 :=
  if x.significand = 0 then some x
  else if power < 0 then x.shrink? (-power).toNat
  else if greatestPower < power then none
  else do x.mul? (← tenTo? power.toNat)

end Binary64

namespace Binary64

/-- A positive number and the ends of the interval that rounds to it, over one denominator. -/
structure Interval where
  lower : Nat
  value : Nat
  upper : Nat
  den : Nat
  closed : Bool

/-- Below a power of two the numbers lie twice as close, so the lower end is half as far away. -/
def interval (x : Binary64) : Interval :=
  let unit := 1 <<< x.exponent.toNat
  let narrow := x.significand = significandBound / 2 ∧ x.exponent ≠ leastExponent
  { lower := (4 * x.significand - if narrow then 1 else 2) * unit
    value := 4 * x.significand * unit
    upper := (4 * x.significand + 2) * unit
    den := 4 * 1 <<< (-x.exponent).toNat
    closed := x.significand % 2 = 0 }

def Interval.contains (range : Interval) (n : Nat) (power : Int) : Bool :=
  let point := n * powerOfTen power.toNat * range.den
  let scale := powerOfTen (-power).toNat
  if range.closed then range.lower * scale ≤ point && point ≤ range.upper * scale
  else range.lower * scale < point && point < range.upper * scale

def Interval.leadingPower (range : Interval) : Int :=
  let digits : Int := (digitCount range.value : Int) - digitCount range.den
  if range.value * powerOfTen (-digits).toNat < range.den * powerOfTen digits.toNat then digits - 1
  else digits

def Interval.multiple? (range : Interval) (power : Int) : Option (Nat × Int) :=
  let num := range.value * powerOfTen (-power).toNat
  let den := range.den * powerOfTen power.toNat
  let below := num / den
  match range.contains below power, range.contains (below + 1) power with
  | true, true => some (roundDiv num den, power)
  | true, false => some (below, power)
  | false, true => some (below + 1, power)
  | false, false => none

/-- The fewest digits of a positive number, and the power of ten of the last one. -/
def shortest (x : Binary64) : Nat × Int :=
  let range := x.interval
  ((List.range 17).findSome? fun (count : Nat) =>
    range.multiple? (range.leadingPower - count)).getD (0, 0)

end Binary64

structure Style where
  positionalFrom : Int
  positionalTo : Int

namespace Style

def positional (digits : List Char) (leading : Int) : List Char :=
  if leading < 0 then
    '0' :: '.' :: List.replicate (-leading - 1).toNat '0' ++ digits
  else
    let whole := digits.take (leading.toNat + 1)
    let fraction := digits.drop (leading.toNat + 1)
    whole ++ List.replicate (leading.toNat + 1 - whole.length) '0' ++
      '.' :: (if fraction.isEmpty then ['0'] else fraction)

def scientific (digits : List Char) (leading : Int) : List Char :=
  let fraction := digits.drop 1
  digits.take 1 ++ (if fraction.isEmpty then [] else '.' :: fraction) ++
    'e' :: (if leading < 0 then '-' else '+') :: Nat.toDigits 10 leading.natAbs

def withoutTrailingZeros (digits : List Char) : List Char :=
  (digits.reverse.dropWhile (· = '0')).reverse

def render (style : Style) (x : Binary64) : String :=
  let sign := if x.negative then ['-'] else []
  if x.significand = 0 then String.ofList (sign ++ ['0', '.', '0'])
  else
    let (n, power) := x.shortest
    let digits := Nat.toDigits 10 n
    let leading := power + digits.length - 1
    let digits := withoutTrailingZeros digits
    String.ofList (sign ++
      if style.positionalFrom ≤ leading ∧ leading ≤ style.positionalTo then
        positional digits leading
      else scientific digits leading)

end Style

def digitsValue (digits : List Char) : Nat :=
  digits.foldl (fun n digit => 10 * n + (digit.toNat - '0'.toNat)) 0

structure Exponent where
  negative : Bool
  digits : List Char
deriving DecidableEq, Repr

def Exponent.value (exponent : Exponent) : Int :=
  if exponent.negative then -(digitsValue exponent.digits) else digitsValue exponent.digits

/-- The digits behind the one that takes a number, begun as `n`, to `2 ^ 31` or beyond. -/
def excessDigits (n : Nat) : List Char → List Char
  | [] => []
  | digit :: digits =>
    let n := 10 * n + (digit.toNat - '0'.toNat)
    if 1 <<< 31 ≤ n then digits else excessDigits n digits

/-- Continues a number with the digits that fit 64 bits, and gives those that do not. -/
def leadingDigits (n : Nat) : List Char → Nat × List Char
  | [] => (n, [])
  | digit :: digits =>
    let longer := 10 * n + (digit.toNat - '0'.toNat)
    if longer < 1 <<< 64 then leadingDigits longer digits else (n, digit :: digits)

structure Numeral where
  negative : Bool
  whole : List Char
  fraction : List Char
  exponent : Option Exponent
deriving DecidableEq, Repr

namespace Numeral

/-- The integer that is written, if it fits 64 bits. Zero with a sign is none. -/
def integer? (numeral : Numeral) : Option Int :=
  let n := digitsValue numeral.whole
  if numeral.fraction ≠ [] ∨ numeral.exponent.isSome then none
  else if numeral.negative then if 0 < n ∧ n ≤ 1 <<< 63 then some (-n) else none
  else if n < 1 <<< 64 then some n else none

/-- The digits that fit 64 bits are rounded and then scaled, so the result need not be nearest. -/
def float? (numeral : Numeral) : Option Binary64 := do
  let (n, beyond) := leadingDigits 0 numeral.whole
  let (n, dropped) := leadingDigits n numeral.fraction
  let places : Int := numeral.fraction.length - dropped.length
  let exponent := (numeral.exponent.map Exponent.value).getD 0
  (← Binary64.ofNat? numeral.negative n).scale? (exponent + beyond.length - places)

def unread (numeral : Numeral) : List Char :=
  excessDigits 0 ((numeral.exponent.map Exponent.digits).getD [])

end Numeral
end CallDispatch.Decimal
