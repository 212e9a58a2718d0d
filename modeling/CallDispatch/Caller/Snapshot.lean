import CallDispatch.Caller.Field
import CallDispatch.Caller.Registry
import CallDispatch.Json.Quotation
import CallDispatch.Json.Reader
import CallDispatch.Json.Record

namespace CallDispatch.Caller

namespace Field
open CallDispatch.Json

def readName (s : List Char) : Except Failure (Field × List Char) := do
  let (name, r) ← text s
  match ofName? name with
  | some field => .ok (field, r)
  | none => .error (.here (.unknownName name (all.map Field.name)) r)

theorem length_readName_lt {s r : List Char} {field : Field}
    (h : readName s = .ok (field, r)) : r.length < s.length := by
  obtain ⟨⟨name, s₁⟩, h₁, h⟩ := ok_of_bind h
  dsimp only at h
  split at h
  · cases h
    exact length_textFrom_lt h₁
  · cases h

def closeTag (s : List Char) : Except Failure (List Char) :=
  match skipBlanks s with
  | [] => .error (.here .endOfObject [])
  | '}' :: r => .ok r
  | r => .error (.here .expectedValue r)

theorem length_closeTag_lt {s r : List Char} (h : closeTag s = .ok r) :
    r.length < s.length := by
  unfold closeTag at h
  split at h
  · cases h
  · next hs => cases h; exact length_lt_of_skipBlanks hs
  · cases h

/-- Reads a field written as an object, with its name as the only member and null as its value. -/
def readTagged (s : List Char) : Except Failure (Field × List Char) :=
  match skipBlanks s with
  | [] => .error (.next .endOfObject [])
  | '"' :: r => do
    let (field, r) ← readName r
    let r ← colon r
    let (_, r) ← Reader.null.read r
    let r ← closeTag r
    .ok (field, r)
  | '}' :: r => .error (.next .expectedValue ('}' :: r))
  | r => .error (.next .keyNotString r)

theorem length_readTagged_lt {s r : List Char} {field : Field}
    (h : readTagged s = .ok (field, r)) : r.length < s.length := by
  unfold readTagged at h
  split at h
  · cases h
  · next hs =>
    obtain ⟨⟨name, s₁⟩, h₁, h⟩ := ok_of_bind h
    obtain ⟨s₂, h₂, h⟩ := ok_of_bind h
    obtain ⟨⟨_, s₃⟩, h₃, h⟩ := ok_of_bind h
    obtain ⟨s₄, h₄, h⟩ := ok_of_bind h
    cases h
    have := length_lt_of_skipBlanks hs
    have := length_readName_lt h₁
    have := length_colon_lt h₂
    have := Reader.null.shorter h₃
    have := length_closeTag_lt h₄
    omega
  · cases h
  · cases h

def reader : Reader Field where
  read s :=
    match skipBlanks s with
    | [] => .error (.next .endOfValue [])
    | '"' :: r => readName r
    | '{' :: r => readTagged r
    | r => .error (.next .expectedValue r)
  shorter {s r a} h := by
    split at h
    · cases h
    · next hs => exact Nat.lt_trans (length_readName_lt h) (length_lt_of_skipBlanks hs)
    · next hs => exact Nat.lt_trans (length_readTagged_lt h) (length_lt_of_skipBlanks hs)
    · cases h

def parseList (source : String) : Except Error (List Field) :=
  (reader.listOf.parse source).mapError .generic

end Field

namespace Snapshot
open CallDispatch.Json

def isEmpty (snapshot : Snapshot) : Bool := snapshot = {}

def namesLayout (names : List String) : List Char :=
  Layout.list 1 (names.map Layout.quoted)

def tableLayout (table : Table String FieldSet) : List Char :=
  Layout.object 1 (table.toList.map fun (name, fields) =>
    (name, Layout.list 2 (fields.toList.map fun field => Layout.quoted field.name)))

def layout (snapshot : Snapshot) : List Char :=
  Layout.object 0
    [("frame_aware", namesLayout snapshot.frameAware),
      ("scope_aware", namesLayout snapshot.scopeAware),
      ("reads", tableLayout snapshot.reads),
      ("writes", tableLayout snapshot.writes)]

def toJson (snapshot : Snapshot) : String :=
  String.ofList snapshot.layout

structure Draft where
  frameAware : Option (List String) := none
  scopeAware : Option (List String) := none
  reads : Option (Table String FieldSet) := none
  writes : Option (Table String FieldSet) := none

def namesReader : Reader (List String) :=
  Reader.string.listOf

def tableReader : Reader (Table String FieldSet) :=
  (Field.reader.listOf.map (Std.ExtTreeSet.ofList ·)).objectOf

/-- The snapshot with the members of a draft, all of which are required. -/
def Draft.finish (draft : Draft) : Except String Snapshot := do
  let frameAware ← required "frame_aware" draft.frameAware
  let scopeAware ← required "scope_aware" draft.scopeAware
  let reads ← required "reads" draft.reads
  let writes ← required "writes" draft.writes
  .ok { frameAware, scopeAware, reads, writes }
where
  required {α : Type} (name : String) : Option α → Except String α
    | some a => .ok a
    | none => .error name

def record : Record Draft Snapshot where
  name := "RegistrySnapshot"
  members :=
    [⟨"frame_aware", (·.frameAware.isSome),
        namesReader.map fun names draft => { draft with frameAware := some names }⟩,
      ⟨"scope_aware", (·.scopeAware.isSome),
        namesReader.map fun names draft => { draft with scopeAware := some names }⟩,
      ⟨"reads", (·.reads.isSome),
        tableReader.map fun table draft => { draft with reads := some table }⟩,
      ⟨"writes", (·.writes.isSome),
        tableReader.map fun table draft => { draft with writes := some table }⟩]
  blank := {}
  finish := Draft.finish

def ofJson (source : String) : Except Error Snapshot :=
  (record.reader.parse source).mapError .generic

end Snapshot
end CallDispatch.Caller
