import CallDispatch.Basic

namespace CallDispatch.CallSite

inductive Operator
  | plus
  | minus
  | mul
  | lt
  | le
  | gt
  | ge
  | eq
  | cmp
  | bitAnd
  | bitOr
  | xor
  | shiftLeft
  | shiftRight
deriving DecidableEq, Repr

namespace Operator

def all : List Operator :=
  [plus, minus, mul, lt, le, gt, ge, eq, cmp, bitAnd, bitOr, xor, shiftLeft, shiftRight]

theorem mem_all (op : Operator) : op ∈ all := by
  cases op <;> decide

def label : Operator → String
  | plus => "Plus"
  | minus => "Minus"
  | mul => "Mul"
  | lt => "Lt"
  | le => "Le"
  | gt => "Gt"
  | ge => "Ge"
  | eq => "Eq"
  | cmp => "Cmp"
  | bitAnd => "BitAnd"
  | bitOr => "BitOr"
  | xor => "Xor"
  | shiftLeft => "ShiftLeft"
  | shiftRight => "ShiftRight"

def symbol : Operator → String
  | plus => "+"
  | minus => "-"
  | mul => "*"
  | lt => "<"
  | le => "<="
  | gt => ">"
  | ge => ">="
  | eq => "=="
  | cmp => "<=>"
  | bitAnd => "&"
  | bitOr => "|"
  | xor => "^"
  | shiftLeft => "<<"
  | shiftRight => ">>"

def isBitwise : Operator → Bool
  | bitAnd | bitOr | xor | shiftLeft | shiftRight => true
  | _ => false

def ofSymbol? : String → Option Operator
  | "+" => some plus
  | "-" => some minus
  | "*" => some mul
  | "<" => some lt
  | "<=" => some le
  | ">" => some gt
  | ">=" => some ge
  | "==" => some eq
  | "<=>" => some cmp
  | "&" => some bitAnd
  | "|" => some bitOr
  | "^" => some xor
  | "<<" => some shiftLeft
  | ">>" => some shiftRight
  | _ => none

theorem ofSymbol?_symbol (op : Operator) : ofSymbol? op.symbol = some op := by
  cases op <;> rfl

theorem symbol_of_ofSymbol? {text : String} {op : Operator} (h : ofSymbol? text = some op) :
    op.symbol = text := by
  unfold ofSymbol? at h
  split at h <;> cases h <;> rfl

def parse (symbol : String) : Except Error Operator :=
  match ofSymbol? symbol with
  | some op => .ok op
  | none => .error (.unknownOperator symbol)

end Operator

/-- The method name that has a kind of call site to itself. -/
def respondToName : String := "respond_to?"

inductive Kind
  | normal (name : String)
  | functional (name : String)
  /-- A bare identifier, which may be a call. -/
  | variable (name : String)
  | super
  | respondTo
  | fast (op : Operator)
deriving DecidableEq, Repr

namespace Kind

def methodName : Kind → Option String
  | normal name | functional name | «variable» name => some name
  | super => none
  | respondTo => some respondToName
  | fast op => some op.symbol

def isFast : Kind → Bool
  | fast _ => true
  | _ => false

def display : Kind → String
  | normal name => "normal(" ++ name ++ ")"
  | functional name => "functional(" ++ name ++ ")"
  | «variable» name => "variable(" ++ name ++ ")"
  | super => "super"
  | respondTo => "respond_to"
  | fast op => "fast(" ++ op.label ++ ")"

end Kind

inductive Numeric
  | integer
  | float
deriving DecidableEq, Repr

structure Primitive where
  op : Operator
  method : String
deriving DecidableEq, Repr

namespace Numeric

def primitives : Numeric → List Primitive
  | .integer =>
    [⟨.plus, "op_plus"⟩, ⟨.minus, "op_minus"⟩, ⟨.mul, "op_mul"⟩, ⟨.eq, "op_equal"⟩,
      ⟨.lt, "op_lt"⟩, ⟨.le, "op_le"⟩, ⟨.gt, "op_gt"⟩, ⟨.ge, "op_ge"⟩, ⟨.cmp, "op_cmp"⟩,
      ⟨.bitAnd, "op_and"⟩, ⟨.bitOr, "op_or"⟩, ⟨.xor, "op_xor"⟩, ⟨.shiftRight, "op_rshift"⟩,
      ⟨.shiftLeft, "op_lshift"⟩]
  | .float =>
    [⟨.plus, "op_plus"⟩, ⟨.minus, "op_minus"⟩, ⟨.mul, "op_mul"⟩, ⟨.eq, "op_equal"⟩,
      ⟨.lt, "op_lt"⟩, ⟨.le, "op_le"⟩, ⟨.gt, "op_gt"⟩, ⟨.ge, "op_ge"⟩, ⟨.cmp, "op_cmp"⟩]

/-- The primitive methods at their symbols, of several with one symbol the last. -/
def table (numeric : Numeric) : Table String Primitive :=
  .ofList (numeric.primitives.map fun primitive => (primitive.op.symbol, primitive))

def primitive? (numeric : Numeric) (symbol : String) : Option Primitive :=
  numeric.table[symbol]?

def hasPrimitive (numeric : Numeric) (symbol : String) : Bool :=
  numeric.table.contains symbol

def method? (numeric : Numeric) (symbol : String) : Option String :=
  (numeric.primitive? symbol).map (·.method)

/-- A name without a primitive method gets a normal call site. -/
def callSite (numeric : Numeric) (name : String) : Kind :=
  match numeric.primitive? name with
  | some primitive => .fast primitive.op
  | none => .normal name

end Numeric

def hasIntegerPrimitive (symbol : String) : Bool := Numeric.integer.hasPrimitive symbol

def integerMethod? (symbol : String) : Option String := Numeric.integer.method? symbol

def integerCallSite (name : String) : Kind := Numeric.integer.callSite name

def hasFloatPrimitive (symbol : String) : Bool := Numeric.float.hasPrimitive symbol

def floatMethod? (symbol : String) : Option String := Numeric.float.method? symbol

def floatCallSite (name : String) : Kind := Numeric.float.callSite name

end CallDispatch.CallSite
