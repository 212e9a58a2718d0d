import CallDispatch.Decimal
import CallDispatch.Text

namespace CallDispatch.Json

inductive Found
  | null
  | boolean (value : Bool)
  | integer (value : Int)
  | float (value : Decimal.Binary64)
  | string (value : String)
  | list
  | object
deriving DecidableEq, Repr

/-- Numbers from a hundred-thousandth up to 10 ^ 16 have no exponent. -/
def Found.floatStyle : Decimal.Style := ⟨-5, 15⟩

def Found.describe : Found → String
  | null => "null"
  | boolean value => "boolean `" ++ toString value ++ "`"
  | integer value => "integer `" ++ toString value ++ "`"
  | float value => "floating point `" ++ floatStyle.render value ++ "`"
  | string value => "string " ++ Text.quote value
  | list => "sequence"
  | object => "map"

inductive Shape
  | boolean
  | string
  | list
  | object
  | null
  | record (name : String)
deriving DecidableEq, Repr

def Shape.describe : Shape → String
  | boolean => "a boolean"
  | string => "a string"
  | list => "a sequence"
  | object => "a map"
  | null => "unit"
  | record name => "struct " ++ name

inductive Cause
  | endOfValue
  | endOfList
  | endOfObject
  | endOfString
  | expectedValue
  | expectedWord
  | expectedColon
  | expectedListEnd
  | expectedObjectEnd
  | keyNotString
  | trailingComma
  | trailingCharacters
  | controlCharacter
  | invalidEscape
  | loneSurrogate
  | unfinishedSurrogate
  | invalidNumber
  | numberOutOfRange
  | wrongType (found : Found) (expected : Shape)
  | unknownName (name : String) (known : List String)
  | duplicateMember (name : String)
  | missingMember (name : String)
  | wrongLength (length : Nat) (record : String) (expected : Nat)
deriving DecidableEq, Repr

def Cause.describe : Cause → String
  | endOfValue => "EOF while parsing a value"
  | endOfList => "EOF while parsing a list"
  | endOfObject => "EOF while parsing an object"
  | endOfString => "EOF while parsing a string"
  | expectedValue => "expected value"
  | expectedWord => "expected ident"
  | expectedColon => "expected `:`"
  | expectedListEnd => "expected `,` or `]`"
  | expectedObjectEnd => "expected `,` or `" ++ String.singleton '}' ++ "`"
  | keyNotString => "key must be a string"
  | trailingComma => "trailing comma"
  | trailingCharacters => "trailing characters"
  | controlCharacter => "control character (\\u0000-\\u001F) found while parsing a string"
  | invalidEscape => "invalid escape"
  | loneSurrogate => "lone leading surrogate in hex escape"
  | unfinishedSurrogate => "unexpected end of hex escape"
  | invalidNumber => "invalid number"
  | numberOutOfRange => "number out of range"
  | wrongType found expected =>
    "invalid type: " ++ found.describe ++ ", expected " ++ expected.describe
  | unknownName name known =>
    "unknown variant `" ++ name ++ "`, expected one of " ++
      ", ".intercalate (known.map fun name => "`" ++ name ++ "`")
  | duplicateMember name => "duplicate field `" ++ name ++ "`"
  | missingMember name => "missing field `" ++ name ++ "`"
  | wrongLength length record expected =>
    "invalid length " ++ toString length ++ ", expected struct " ++ record ++ " with " ++
      toString expected ++ " elements"

def byteCount (text : List Char) : Nat :=
  text.foldl (fun count c => count + c.utf8Size) 0

/-- A place in a text: its line, and the number of bytes before it in that line. -/
structure Position where
  line : Nat := 1
  column : Nat := 0
deriving DecidableEq, Repr

def Position.advance (position : Position) : List Char → Nat → Position
  | [], _ => position
  | c :: cs, count =>
    if count < c.utf8Size then { position with column := position.column + count }
    else
      let next : Position :=
        if c = '\n' then ⟨position.line + 1, 0⟩
        else { position with column := position.column + c.utf8Size }
      next.advance cs (count - c.utf8Size)

/-- A failure stands `ahead` bytes into the rest of the text. -/
structure Failure where
  cause : Cause
  rest : List Char
  ahead : Nat
deriving DecidableEq, Repr

namespace Failure

def here (cause : Cause) (rest : List Char) : Failure := ⟨cause, rest, 0⟩

def next (cause : Cause) (rest : List Char) : Failure := ⟨cause, rest, 1⟩

def position (failure : Failure) (text : List Char) : Position :=
  ({} : Position).advance text (byteCount text - byteCount failure.rest + failure.ahead)

def message (failure : Failure) (text : List Char) : String :=
  let position := failure.position text
  failure.cause.describe ++ " at line " ++ toString position.line ++ " column " ++
    toString position.column

end Failure
end CallDispatch.Json
