import CallDispatch.Caller.Field

namespace CallDispatch.Caller.Codec

theorem ne_zero_iff_getLsbD (bits : Bits) : bits ≠ 0 ↔ ∃ i, bits.getLsbD i = true := by
  constructor
  · intro h
    apply Classical.byContradiction
    intro hn
    apply h
    apply BitVec.eq_of_getLsbD_eq
    intro i _
    exact (Bool.eq_false_iff.2 fun hb => hn ⟨i, hb⟩).trans BitVec.getLsbD_zero.symm
  · intro h he
    obtain ⟨i, hi⟩ := h
    rw [he] at hi
    exact Bool.false_ne_true (BitVec.getLsbD_zero.symm.trans hi)

theorem getLsbD_pack (fields : List Field) (i : Nat) :
    (packed.pack fields).getLsbD i = true ↔ ∃ field ∈ fields, field.index = i := by
  change (join fields).getLsbD i = true ↔ _
  rw [getLsbD_join, List.any_eq_true]
  simp only [decide_eq_true_eq]

theorem getLsbD_mask (context : Context) (i : Nat) :
    (mask context).getLsbD i = true ↔ ∃ field ∈ Field.ofContext context, field.index = i :=
  getLsbD_pack (Field.ofContext context) i

/-- A word calls for a part of the caller's state when it holds a field of that part. -/
theorem needs_packed (context : Context) (bits : Bits) :
    packed.needs context bits = true ↔
      ∃ field ∈ Field.ofContext context, field ∈ packed.unpack bits := by
  have h : packed.needs context bits = true ↔ bits &&& mask context ≠ 0 := bne_iff_ne
  rw [h, ne_zero_iff_getLsbD]
  simp only [BitVec.getLsbD_and, Bool.and_eq_true, getLsbD_mask, mem_unpack_packed]
  constructor
  · intro h
    obtain ⟨i, hi, field, hf, rfl⟩ := h
    exact ⟨field, hf, hi⟩
  · intro h
    obtain ⟨field, hf, hi⟩ := h
    exact ⟨field.index, hi, field, hf, rfl⟩

theorem calls_packed (context : Context) (bits : Bits) :
    packed.unpack bits ≠ ∅ ∧ packed.needs context bits = true ↔
      ∃ field ∈ Field.ofContext context, field ∈ packed.unpack bits := by
  rw [needs_packed]
  constructor
  · exact And.right
  · intro h
    obtain ⟨field, hc, hf⟩ := h
    exact ⟨Std.ExtTreeSet.ne_empty_of_mem hf, field, hc, hf⟩

theorem eq_of_getLsbD_iff {bits others : Bits}
    (h : ∀ i, bits.getLsbD i = true ↔ others.getLsbD i = true) : bits = others := by
  apply BitVec.eq_of_getLsbD_eq
  intro i _
  exact Bool.eq_iff_iff.2 (h i)

theorem mem_unpack_pack (fields : List Field) (field : Field) :
    field ∈ packed.unpack (packed.pack fields) ↔ field ∈ fields := by
  rw [mem_unpack_packed, getLsbD_pack]
  constructor
  · intro h
    obtain ⟨other, ho, he⟩ := h
    exact Field.index_injective he ▸ ho
  · intro h
    exact ⟨field, h, rfl⟩

theorem getLsbD_masks (i : Nat) :
    (mask .frame ||| mask .scope).getLsbD i = true ↔ ∃ field : Field, field.index = i := by
  rw [BitVec.getLsbD_or, Bool.or_eq_true, getLsbD_mask, getLsbD_mask]
  simp only [Field.mem_ofContext]
  constructor
  · intro h
    rcases h with ⟨field, _, hi⟩ | ⟨field, _, hi⟩ <;> exact ⟨field, hi⟩
  · intro h
    obtain ⟨field, hi⟩ := h
    cases hc : field.context with
    | frame => exact .inl ⟨field, hc, hi⟩
    | scope => exact .inr ⟨field, hc, hi⟩

theorem pack_unpack (bits : Bits) :
    packed.pack (packed.unpack bits).toList = bits &&& (mask .frame ||| mask .scope) := by
  apply eq_of_getLsbD_iff
  intro i
  rw [getLsbD_pack, BitVec.getLsbD_and, Bool.and_eq_true, getLsbD_masks]
  simp only [Std.ExtTreeSet.mem_toList, mem_unpack_packed]
  constructor
  · intro h
    obtain ⟨field, hb, rfl⟩ := h
    exact ⟨hb, field, rfl⟩
  · intro h
    obtain ⟨hb, field, rfl⟩ := h
    exact ⟨field, hb, rfl⟩

theorem unpack_zero : packed.unpack 0 = ∅ := by
  rw [Std.ExtTreeSet.eq_empty_iff_forall_not_mem]
  intro field hf
  exact Bool.false_ne_true (BitVec.getLsbD_zero.symm.trans (mem_unpack_packed.1 hf))

theorem mem_unpack_or (bits others : Bits) (field : Field) :
    field ∈ packed.unpack (bits ||| others) ↔
      field ∈ packed.unpack bits ∨ field ∈ packed.unpack others := by
  simp only [mem_unpack_packed, BitVec.getLsbD_or, Bool.or_eq_true]

theorem unpack_or (bits others : Bits) :
    packed.unpack (bits ||| others) = packed.unpack bits ∪ packed.unpack others := by
  apply Std.ExtTreeSet.ext_mem
  intro field
  rw [mem_unpack_or, Std.ExtTreeSet.mem_union_iff]

theorem pack_append (fields others : List Field) :
    packed.pack (fields ++ others) = packed.pack fields ||| packed.pack others := by
  apply eq_of_getLsbD_iff
  intro i
  simp only [BitVec.getLsbD_or, Bool.or_eq_true, getLsbD_pack, List.mem_append, or_and_right,
    exists_or]

/-- The default codec packs and unpacks faithfully, up to the bits beyond the fields. -/
theorem packed_faithful :
    (∀ fields field, field ∈ packed.unpack (packed.pack fields) ↔ field ∈ fields) ∧
    (∀ bits, packed.pack (packed.unpack bits).toList = bits &&& (mask .frame ||| mask .scope)) ∧
    (∀ bits context, packed.needs context bits = true ↔
      ∃ field ∈ Field.ofContext context, field ∈ packed.unpack bits) ∧
    (∀ bits others,
      packed.unpack (bits ||| others) = packed.unpack bits ∪ packed.unpack others) ∧
    ∀ fields others,
      packed.pack (fields ++ others) = packed.pack fields ||| packed.pack others := by
  refine ⟨mem_unpack_pack, pack_unpack, ?_, unpack_or, pack_append⟩
  intro bits context
  exact needs_packed context bits

end CallDispatch.Caller.Codec
