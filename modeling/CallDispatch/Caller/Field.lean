import CallDispatch.Basic
import CallDispatch.Text

namespace CallDispatch.Caller

/-- The two parts of a caller's state. -/
inductive Context
  | frame
  | scope
deriving DecidableEq, Repr

def Context.other : Context → Context
  | .frame => .scope
  | .scope => .frame

/-- The pieces of a caller's state, the one with the lowest bit first. -/
inductive Field
  | lastLine
  | backRef
  | visibility
  | block
  | selfValue
  | methodName
  | line
  | jumpTarget
  | frameClass
  | filename
  | scope
deriving DecidableEq, Repr

namespace Field

def all : List Field :=
  [lastLine, backRef, visibility, block, selfValue, methodName, line, jumpTarget, frameClass,
    filename, scope]

theorem mem_all (field : Field) : field ∈ all := by
  cases field <;> decide

def index : Field → Nat
  | lastLine => 0
  | backRef => 1
  | visibility => 2
  | block => 3
  | selfValue => 4
  | methodName => 5
  | line => 6
  | jumpTarget => 7
  | frameClass => 8
  | filename => 9
  | scope => 10

theorem index_injective {field other : Field} (h : field.index = other.index) :
    field = other := by
  revert h
  cases field <;> cases other <;> decide

def name : Field → String
  | lastLine => "lastline"
  | backRef => "backref"
  | visibility => "visibility"
  | block => "block"
  | selfValue => "self"
  | methodName => "methodname"
  | line => "line"
  | jumpTarget => "jumptarget"
  | frameClass => "class"
  | filename => "filename"
  | scope => "scope"

/-- The name in log events. -/
def label : Field → String
  | lastLine => "LastLine"
  | backRef => "BackRef"
  | visibility => "Visibility"
  | block => "Block"
  | selfValue => "SelfValue"
  | methodName => "MethodName"
  | line => "Line"
  | jumpTarget => "JumpTarget"
  | frameClass => "Class"
  | filename => "Filename"
  | scope => "Scope"

def frameFields : List Field :=
  [visibility, block, selfValue, methodName, line, jumpTarget, frameClass, filename]

def scopeFields : List Field :=
  [lastLine, backRef, scope]

/-- The fields of one part of a caller's state. -/
def ofContext : Context → List Field
  | .frame => frameFields
  | .scope => scopeFields

def context (field : Field) : Context :=
  if field ∈ frameFields then .frame else .scope

/-- Every field belongs to one part of the state and to no other. -/
theorem mem_ofContext {field : Field} {context : Context} :
    field ∈ ofContext context ↔ field.context = context := by
  cases field <;> cases context <;> decide

def ofName? (text : String) : Option Field :=
  all.find? (·.name = text)

theorem ofName?_name (field : Field) : ofName? field.name = some field := by
  cases field <;> decide

theorem name_of_ofName? {text : String} {field : Field} (h : ofName? text = some field) :
    field.name = text := by
  simpa using List.find?_some h

def parse (text : String) : Except Error Field :=
  match ofName? (Text.trim text).toLower with
  | some field => .ok field
  | none => .error (.unknownField text)

instance : Ord Field := ⟨compareOn index⟩

instance : Std.TransOrd Field := inferInstanceAs (Std.TransCmp (compareOn index))

instance : Std.LawfulEqOrd Field where
  eq_of_compare h := index_injective (Std.LawfulEqOrd.eq_of_compare h)

end Field

abbrev FieldSet := Roster Field

abbrev Bits := BitVec 32

/-- A way to pack fields into a word. -/
structure Codec where
  unpack : Bits → FieldSet
  pack : List Field → Bits
  needs : Context → Bits → Bool

def Field.bit (field : Field) : Bits :=
  1#32 <<< field.index

theorem Field.getLsbD_bit (field : Field) (i : Nat) :
    field.bit.getLsbD i = decide (i = field.index) := by
  have h : field.index < 32 := by cases field <;> decide
  have hb : field.bit = BitVec.twoPow 32 field.index := rfl
  rw [hb, BitVec.getLsbD_twoPow]
  by_cases hi : i = field.index <;> simp [hi, h, eq_comm]

theorem Field.and_bit_ne_zero (bits : Bits) (field : Field) :
    (bits &&& field.bit != 0) = bits.getLsbD field.index := by
  have hb : field.bit = BitVec.twoPow 32 field.index := rfl
  have h : field.bit ≠ 0 := by cases field <;> decide
  rw [hb] at h ⊢
  rw [BitVec.and_twoPow]
  cases hi : bits.getLsbD field.index with
  | true => simpa using h
  | false => rfl

namespace Codec

def join (fields : List Field) : Bits :=
  fields.foldl (fun bits field => bits ||| field.bit) 0

theorem getLsbD_join (fields : List Field) (i : Nat) :
    (join fields).getLsbD i = fields.any (·.index = i) := by
  have h : ∀ bits : Bits, (fields.foldl (fun bits field => bits ||| field.bit) bits).getLsbD i =
      (bits.getLsbD i || fields.any (·.index = i)) := by
    induction fields with
    | nil => simp
    | cons field fields ih =>
      intro bits
      simp only [List.foldl_cons, ih, BitVec.getLsbD_or, Field.getLsbD_bit, List.any_cons,
        Bool.or_assoc, eq_comm]
  simpa [join] using h 0

def mask (context : Context) : Bits :=
  join (Field.ofContext context)

/-- The default codec: a field is the bit of its index, and the other bits mean nothing. -/
def packed : Codec where
  unpack bits := .ofList (Field.all.filter fun field => bits &&& field.bit != 0)
  pack := join
  needs context bits := bits &&& mask context != 0

theorem mem_unpack_packed {bits : Bits} {field : Field} :
    field ∈ packed.unpack bits ↔ bits.getLsbD field.index = true := by
  simp [packed, Std.ExtTreeSet.mem_ofList, Field.mem_all, ← Field.and_bit_ne_zero]

def fieldless : Codec where
  unpack _ := ∅
  pack _ := BitVec.allOnes 32
  needs _ _ := true

def needless : Codec :=
  { packed with needs := fun _ _ => false }

def swapped : Codec where
  unpack bits := packed.unpack (bits >>> 1)
  pack fields := packed.pack fields <<< 1
  needs context bits := packed.needs context.other (bits >>> 1)

end Codec
end CallDispatch.Caller
