import CallDispatch.Caller.Field

namespace CallDispatch.Caller

namespace Batch

def separator : Char := ';'

/-- The stretches of a text between its separators. -/
def segments : List Char → List (List Char)
  | [] => [[]]
  | c :: cs =>
    if c = separator then [] :: segments cs
    else match segments cs with
      | [] => [[c]]
      | segment :: others => (c :: segment) :: others

theorem segments_ne_nil (cs : List Char) : segments cs ≠ [] := by
  cases cs with
  | nil => simp [segments]
  | cons c cs =>
    simp only [segments]
    split
    · simp
    · split <;> simp

theorem intercalate_segments (cs : List Char) : [separator].intercalate (segments cs) = cs := by
  induction cs with
  | nil => rfl
  | cons c cs ih =>
    simp only [segments]
    split
    · next h =>
      subst h
      cases hs : segments cs with
      | nil => exact absurd hs (segments_ne_nil cs)
      | cons segment others =>
        rw [hs] at ih
        simp only [List.intercalate_cons_cons, List.nil_append, List.singleton_append, ih]
    · split
      · next hs => exact absurd hs (segments_ne_nil cs)
      · next segment others hs =>
        rw [hs] at ih
        cases others with
        | nil => simpa using ih
        | cons other others =>
          simp only [List.intercalate_cons_cons, List.cons_append] at ih ⊢
          rw [ih]

theorem separator_not_mem {cs segment : List Char} (h : segment ∈ segments cs) :
    separator ∉ segment := by
  induction cs generalizing segment with
  | nil =>
    simp only [segments, List.mem_singleton] at h
    simp [h]
  | cons c cs ih =>
    simp only [segments] at h
    split at h
    · rcases List.mem_cons.1 h with h | h
      · simp [h]
      · exact ih h
    · next hc =>
      split at h
      · next hs => exact absurd hs (segments_ne_nil cs)
      · next first others hs =>
        rw [hs] at ih
        rcases List.mem_cons.1 h with h | h
        · subst h
          simp only [List.mem_cons, not_or]
          exact ⟨Ne.symm hc, ih (List.mem_cons_self)⟩
        · exact ih (List.mem_cons_of_mem _ h)

def dropTrailing (segments : List (List Char)) : List (List Char) :=
  (segments.reverse.dropWhile List.isEmpty).reverse

/-- Separators at the end add no names, and the empty batch is one empty name. -/
def split (batch : String) : List String :=
  if batch = "" then [""] else (dropTrailing (segments batch.toList)).map String.ofList

def join (names : List String) : String :=
  ";".intercalate names

end Batch

inductive Usage
  | read
  | write
deriving DecidableEq, Repr

def Usage.name : Usage → String
  | .read => "read"
  | .write => "write"

structure Registry where
  frameAware : Roster String := ∅
  scopeAware : Roster String := ∅
  reads : Table String FieldSet := ∅
  writes : Table String FieldSet := ∅
deriving DecidableEq

namespace Registry

def aware (registry : Registry) : Context → Roster String
  | .frame => registry.frameAware
  | .scope => registry.scopeAware

def accesses (registry : Registry) : Usage → Table String FieldSet
  | .read => registry.reads
  | .write => registry.writes

def isAware (registry : Registry) (context : Context) (name : String) : Bool :=
  (registry.aware context).contains name

/-- The fields that a method reads or writes, none for an unknown one. -/
def fields (registry : Registry) (usage : Usage) (name : String) : FieldSet :=
  (registry.accesses usage)[name]?.getD ∅

def awareCount (registry : Registry) (context : Context) : Nat :=
  (registry.aware context).size

def mark (registry : Registry) (context : Context) (name : String) : Registry :=
  match context with
  | .frame => { registry with frameAware := registry.frameAware.insert name }
  | .scope => { registry with scopeAware := registry.scopeAware.insert name }

theorem isAware_mark (registry : Registry) (context other : Context) (name name' : String) :
    (registry.mark context name).isAware other name' =
      (decide (context = other ∧ name = name') || registry.isAware other name') := by
  cases context <;> cases other <;>
    simp [mark, isAware, aware, Roster.contains_insert, -Std.ExtTreeSet.contains_insert]

theorem fields_mark (registry : Registry) (context : Context) (usage : Usage)
    (name name' : String) :
    (registry.mark context name).fields usage name' = registry.fields usage name' := by
  cases context <;> cases usage <;> rfl

def add (registry : Registry) (usage : Usage) (name : String) (fields : FieldSet) : Registry :=
  match usage with
  | .read => { registry with reads := registry.reads.upsert name (· ∪ fields) }
  | .write => { registry with writes := registry.writes.upsert name (· ∪ fields) }

theorem isAware_add (registry : Registry) (usage : Usage) (context : Context)
    (name name' : String) (fields : FieldSet) :
    (registry.add usage name fields).isAware context name' = registry.isAware context name' := by
  cases context <;> cases usage <;> rfl

theorem fields_add (registry : Registry) (usage other : Usage) (name name' : String)
    (fields : FieldSet) :
    (registry.add usage name fields).fields other name' =
      if usage = other ∧ name = name' then registry.fields other name' ∪ fields
      else registry.fields other name' := by
  cases usage <;> cases other <;>
    simp only [add, Registry.fields, accesses, Table.getElem?_upsert, reduceCtorEq, false_and,
      true_and, if_false] <;> split <;> simp_all <;> rfl

end Registry

/-- What a registry held at one time. -/
structure Snapshot where
  frameAware : List String := []
  scopeAware : List String := []
  reads : Table String FieldSet := ∅
  writes : Table String FieldSet := ∅
deriving DecidableEq

def Registry.snapshot (registry : Registry) : Snapshot where
  frameAware := registry.frameAware.toList
  scopeAware := registry.scopeAware.toList
  reads := registry.reads
  writes := registry.writes

/-- The smallest change of a registry. -/
inductive Step
  | mark (context : Context) (name : String)
  | add (usage : Usage) (name : String) (fields : FieldSet)

def Step.apply (registry : Registry) : Step → Registry
  | .mark context name => registry.mark context name
  | .add usage name fields => registry.add usage name fields

inductive Declaration
  | packed (usage : Usage) (batch : String) (bits : Bits)
  | listed (usage : Usage) (batch : String) (fields : List Field)
  | aware (context : Context) (names : List String)

def Codec.marks (codec : Codec) (bits : Bits) (names : List String) (context : Context) :
    List Step :=
  if codec.needs context bits then names.map (.mark context) else []

/-- Awareness comes before fields, and a word without fields changes nothing. -/
def Codec.registration (codec : Codec) (usage : Usage) (batch : String) (bits : Bits) :
    List Step :=
  let fields := codec.unpack bits
  let names := Batch.split batch
  if fields.isEmpty then []
  else codec.marks bits names .frame ++ codec.marks bits names .scope ++
    names.map (.add usage · fields)

def Declaration.steps (codec : Codec) : Declaration → List Step
  | .packed usage batch bits => codec.registration usage batch bits
  | .listed usage batch fields => codec.registration usage batch (codec.pack fields)
  | .aware context names => names.map (.mark context)

namespace Registry

def perform (registry : Registry) (steps : List Step) : Registry :=
  steps.foldl Step.apply registry

theorem perform_append (registry : Registry) (steps others : List Step) :
    registry.perform (steps ++ others) = (registry.perform steps).perform others :=
  List.foldl_append

def declare (codec : Codec) (registry : Registry) (declaration : Declaration) : Registry :=
  registry.perform (declaration.steps codec)

def declareAll (codec : Codec) (registry : Registry) (declarations : List Declaration) :
    Registry :=
  declarations.foldl (declare codec) registry

end Registry
end CallDispatch.Caller
