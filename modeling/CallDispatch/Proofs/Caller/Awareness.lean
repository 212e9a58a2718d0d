import CallDispatch.Proofs.Caller.Packing
import CallDispatch.Proofs.Caller.Registrations

namespace CallDispatch.Caller

namespace Registry

theorem mem_reads_union_writes (registry : Registry) (name : String) (field : Field) :
    field ∈ registry.fields .read name ∪ registry.fields .write name ↔
      ∃ usage, field ∈ registry.fields usage name := by
  rw [Std.ExtTreeSet.mem_union_iff]
  constructor
  · intro h
    rcases h with h | h
    · exact ⟨.read, h⟩
    · exact ⟨.write, h⟩
  · intro h
    obtain ⟨usage, h⟩ := h
    cases usage with
    | read => exact .inl h
    | write => exact .inr h

theorem exists_needs_iff_uses (declarations : List Declaration) (context : Context)
    (name : String) :
    (∃ r ∈ registrations .packed declarations, name ∈ Batch.split r.batch ∧
      Codec.packed.unpack r.bits ≠ ∅ ∧ Codec.packed.needs context r.bits = true) ↔
    ∃ field ∈ Field.ofContext context, ∃ usage,
      field ∈ (declareAll .packed {} declarations).fields usage name := by
  simp only [Codec.calls_packed, mem_fields_declareAll, fields_new, Std.ExtTreeSet.not_mem_empty,
    or_false]
  constructor
  · intro h
    obtain ⟨r, hr, hn, field, hc, hf⟩ := h
    exact ⟨field, hc, r.usage, r, hr, rfl, hn, hf⟩
  · intro h
    obtain ⟨field, hc, usage, r, hr, _, hn, hf⟩ := h
    exact ⟨r, hr, hn, field, hc, hf⟩

theorem isAware_iff_uses (declarations : List Declaration) (context : Context) (name : String) :
    (declareAll .packed {} declarations).isAware context name = true ↔
      (∃ field ∈ Field.ofContext context, ∃ usage,
        field ∈ (declareAll .packed {} declarations).fields usage name) ∨
      ∃ names, .aware context names ∈ declarations ∧ name ∈ names := by
  rw [isAware_declareAll, isAware_new, exists_needs_iff_uses]
  simp only [Bool.false_eq_true, or_false]

theorem exists_aware_of_mem_accesses {declarations : List Declaration} {usage : Usage}
    {name : String} (h : name ∈ (declareAll .packed {} declarations).accesses usage) :
    ∃ context, (declareAll .packed {} declarations).isAware context name = true := by
  obtain ⟨field, hf⟩ := filled_declareAll .packed declarations usage name h
  refine ⟨field.context, (isAware_iff_uses declarations field.context name).2 (.inl ?_)⟩
  exact ⟨field, Field.mem_ofContext.2 rfl, usage, hf⟩

/-- A method is aware of exactly the parts of its caller's state that it uses or was listed for. -/
theorem aware_iff_uses_or_listed (declarations : List Declaration) (name : String) :
    (∀ context, (declareAll .packed {} declarations).isAware context name = true ↔
      (∃ field ∈ Field.ofContext context,
        field ∈ (declareAll .packed {} declarations).fields .read name ∪
          (declareAll .packed {} declarations).fields .write name) ∨
      ∃ names, .aware context names ∈ declarations ∧ name ∈ names) ∧
    (name ∈ (declareAll .packed {} declarations).reads ∨
        name ∈ (declareAll .packed {} declarations).writes →
      (declareAll .packed {} declarations).isAware .frame name = true ∨
        (declareAll .packed {} declarations).isAware .scope name = true) := by
  constructor
  · intro context
    simp only [mem_reads_union_writes]
    exact isAware_iff_uses declarations context name
  · intro h
    have hu : ∃ usage, name ∈ (declareAll .packed {} declarations).accesses usage := by
      rcases h with h | h
      · exact ⟨.read, h⟩
      · exact ⟨.write, h⟩
    obtain ⟨usage, hu⟩ := hu
    obtain ⟨context, ha⟩ := exists_aware_of_mem_accesses hu
    cases context with
    | frame => exact .inl ha
    | scope => exact .inr ha

/-- A field next to a bit without one, in a batch that ends in a separator. -/
theorem aware_of_written_gets :
    "gets" ∈ (declareAll .packed {} [.packed .write "gets;" 0x40000002#32]).writes ∧
      ((declareAll .packed {} [.packed .write "gets;" 0x40000002#32]).isAware .frame "gets" = true ∨
        (declareAll .packed {} [.packed .write "gets;" 0x40000002#32]).isAware .scope "gets" =
          true) := by
  have entry : "gets" ∈ (declareAll .packed {} [.packed .write "gets;" 0x40000002#32]).writes := by
    decide
  exact ⟨entry, (aware_iff_uses_or_listed _ "gets").2 (.inr entry)⟩

end Registry

theorem Codec.pack_congr {fields others : List Field}
    (same : ∀ field, field ∈ fields ↔ field ∈ others) :
    packed.pack fields = packed.pack others := by
  apply eq_of_getLsbD_iff
  intro i
  simp only [getLsbD_pack, same]

namespace Registry
variable (registry : Registry) (usage : Usage) (batch : String)

theorem registrations_packed (codec : Codec) (bits : Bits) :
    registrations codec [.packed usage batch bits] = [⟨usage, batch, bits⟩] :=
  rfl

theorem declare_eq_declareAll (codec : Codec) (declaration : Declaration) :
    registry.declare codec declaration = registry.declareAll codec [declaration] :=
  rfl

theorem isAware_declare_packed (codec : Codec) (bits : Bits) (context : Context) (name : String) :
    (registry.declare codec (.packed usage batch bits)).isAware context name = true ↔
      (name ∈ Batch.split batch ∧ codec.unpack bits ≠ ∅ ∧ codec.needs context bits = true) ∨
      registry.isAware context name = true := by
  rw [declare_eq_declareAll, isAware_declareAll, registrations_packed]
  simp only [List.mem_singleton, exists_eq_left, reduceCtorEq, false_and, exists_false, false_or]

theorem mem_accesses_declare_packed (codec : Codec) (bits : Bits) (other : Usage)
    (name : String) :
    name ∈ (registry.declare codec (.packed usage batch bits)).accesses other ↔
      (usage = other ∧ name ∈ Batch.split batch ∧ codec.unpack bits ≠ ∅) ∨
      name ∈ registry.accesses other := by
  rw [declare_eq_declareAll, mem_accesses_declareAll, registrations_packed]
  simp only [List.mem_singleton, exists_eq_left]

theorem mem_fields_declare_packed (codec : Codec) (bits : Bits) (other : Usage) (name : String)
    (field : Field) :
    field ∈ (registry.declare codec (.packed usage batch bits)).fields other name ↔
      (usage = other ∧ name ∈ Batch.split batch ∧ field ∈ codec.unpack bits) ∨
      field ∈ registry.fields other name := by
  rw [declare_eq_declareAll, mem_fields_declareAll, registrations_packed]
  simp only [List.mem_singleton, exists_eq_left]

theorem mem_fields_declare_listed (fields : List Field) (other : Usage) (name : String)
    (field : Field) :
    field ∈ (registry.declare .packed (.listed usage batch fields)).fields other name ↔
      (usage = other ∧ name ∈ Batch.split batch ∧ field ∈ fields) ∨
      field ∈ registry.fields other name := by
  rw [← Codec.mem_unpack_pack fields field]
  exact registry.mem_fields_declare_packed usage batch .packed (Codec.packed.pack fields) ..

theorem isAware_declare_listed (fields : List Field) (context : Context) (name : String) :
    (registry.declare .packed (.listed usage batch fields)).isAware context name = true ↔
      (name ∈ Batch.split batch ∧ ∃ field ∈ Field.ofContext context, field ∈ fields) ∨
      registry.isAware context name = true := by
  simp only [← Codec.mem_unpack_pack fields, ← Codec.calls_packed]
  exact registry.isAware_declare_packed usage batch .packed (Codec.packed.pack fields) ..

theorem declare_zero : registry.declare .packed (.packed usage batch 0) = registry := by
  rw [declare, Declaration.steps, Codec.registration, Codec.unpack_zero]
  rfl

theorem declare_or (bits others : Bits) :
    (registry.declare .packed (.packed usage batch bits)).declare .packed
        (.packed usage batch others) =
      registry.declare .packed (.packed usage batch (bits ||| others)) := by
  -- Whatever a word changes hangs on the fields in it, and those of the joined word are in one of
  -- the two.
  apply eq_of_same
  · intro context name
    rw [Bool.eq_iff_iff]
    simp only [isAware_declare_packed, Codec.calls_packed, Codec.mem_unpack_or, and_or_left,
      exists_or, or_assoc, or_left_comm]
  · intro other name
    simp only [mem_accesses_declare_packed, FieldSet.ne_empty_iff, Codec.mem_unpack_or,
      and_or_left, exists_or, or_assoc, or_left_comm]
  · intro other name
    apply Std.ExtTreeSet.ext_mem
    intro field
    simp only [mem_fields_declare_packed, Codec.mem_unpack_or, and_or_left, or_assoc,
      or_left_comm]

theorem declareAll_listed (groups : List (List Field)) :
    registry.declareAll .packed (groups.map (.listed usage batch)) =
      registry.declare .packed (.listed usage batch groups.flatten) := by
  induction groups generalizing registry with
  | nil => exact (declare_zero registry usage batch).symm
  | cons group groups ih =>
    calc
      registry.declareAll .packed ((group :: groups).map (.listed usage batch)) =
          (registry.declare .packed (.listed usage batch group)).declare .packed
            (.listed usage batch groups.flatten) := ih _
      _ = registry.declare .packed (.packed usage batch
            (Codec.packed.pack group ||| Codec.packed.pack groups.flatten)) :=
        declare_or registry usage batch _ _
      _ = registry.declare .packed (.listed usage batch (group ++ groups.flatten)) := by
        rw [← Codec.pack_append]
        rfl

/-- Declaring words or lists of fields piece by piece is declaring them all at once. -/
theorem declare_piecemeal :
    (∀ bits others,
      (registry.declare .packed (.packed usage batch bits)).declare .packed
          (.packed usage batch others) =
        registry.declare .packed (.packed usage batch (bits ||| others))) ∧
    (∀ (fields : List Field) (groups : List (List Field)),
      (∀ field, field ∈ fields ↔ ∃ group ∈ groups, field ∈ group) →
      registry.declareAll .packed (groups.map (.listed usage batch)) =
        registry.declare .packed (.listed usage batch fields)) ∧
    ∀ fields name,
      (∀ other field,
        field ∈ (registry.declare .packed (.listed usage batch fields)).fields other name ↔
          (usage = other ∧ name ∈ Batch.split batch ∧ field ∈ fields) ∨
          field ∈ registry.fields other name) ∧
      ∀ context,
        (registry.declare .packed (.listed usage batch fields)).isAware context name = true ↔
          (name ∈ Batch.split batch ∧ ∃ field ∈ Field.ofContext context, field ∈ fields) ∨
          registry.isAware context name = true := by
  refine ⟨registry.declare_or usage batch, ?_, ?_⟩
  · intro fields groups same
    have hp : Codec.packed.pack groups.flatten = Codec.packed.pack fields := by
      apply Codec.pack_congr
      intro field
      rw [List.mem_flatten, same]
    rw [declareAll_listed]
    exact congrArg (fun bits => registry.declare .packed (.packed usage batch bits)) hp
  · intro fields name
    constructor
    · intro other field
      exact registry.mem_fields_declare_listed usage batch fields other name field
    · intro context
      exact registry.isAware_declare_listed usage batch fields context name

/-- A group for the scope alone, one without fields, and one that repeats the first. -/
theorem declare_piecemeal_repeated :
    (∀ field, field ∈ [Field.block, .lastLine] ↔
      ∃ group ∈ [[.lastLine], [], [.lastLine, .block]], field ∈ group) ∧
    declareAll .packed (declare .packed {} (.aware .frame ["eval"]))
        [.listed .read "gets;eval" [.lastLine], .listed .read "gets;eval" [],
          .listed .read "gets;eval" [.lastLine, .block]] =
      declare .packed (declare .packed {} (.aware .frame ["eval"]))
        (.listed .read "gets;eval" [.block, .lastLine]) := by
  have same : ∀ field, field ∈ [Field.block, .lastLine] ↔
      ∃ group ∈ [[.lastLine], [], [.lastLine, .block]], field ∈ group := by
    intro field
    cases field <;> decide
  exact ⟨same, (declare_piecemeal _ .read "gets;eval").2.1 _
    [[.lastLine], [], [.lastLine, .block]] same⟩

end Registry
end CallDispatch.Caller
