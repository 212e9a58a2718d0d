import CallDispatch.Proofs.Caller.Threads

namespace CallDispatch.Caller

/-- A word that is registered for the methods of a batch. -/
structure Registration where
  usage : Usage
  batch : String
  bits : Bits

/-- A list of fields is registered as the word it is packed in. -/
def Declaration.registration? (codec : Codec) : Declaration → Option Registration
  | .packed usage batch bits => some ⟨usage, batch, bits⟩
  | .listed usage batch fields => some ⟨usage, batch, codec.pack fields⟩
  | .aware _ _ => none

def registrations (codec : Codec) (declarations : List Declaration) : List Registration :=
  declarations.filterMap (Declaration.registration? codec)

namespace Codec
variable (codec : Codec)

theorem mark_mem_marks (bits : Bits) (names : List String) (context context' : Context)
    (name : String) :
    .mark context name ∈ codec.marks bits names context' ↔
      context = context' ∧ name ∈ names ∧ codec.needs context bits = true := by
  rw [marks]
  split
  · next h =>
    rw [List.mem_map]
    constructor
    · intro h
      obtain ⟨_, hn, he⟩ := h
      cases he
      exact ⟨rfl, hn, h⟩
    · intro h
      obtain ⟨he, hn, _⟩ := h
      subst he
      exact ⟨name, hn, rfl⟩
  · next h =>
    constructor
    · intro hm
      cases hm
    · intro h
      obtain ⟨he, _, hneeds⟩ := h
      subst he
      exact absurd hneeds h

theorem add_not_mem_marks (bits : Bits) (names : List String) (context : Context)
    (usage : Usage) (name : String) (fields : FieldSet) :
    .add usage name fields ∉ codec.marks bits names context := by
  rw [marks]
  split <;> simp

theorem mark_mem_registration (usage : Usage) (batch : String) (bits : Bits)
    (context : Context) (name : String) :
    .mark context name ∈ codec.registration usage batch bits ↔
      name ∈ Batch.split batch ∧ codec.unpack bits ≠ ∅ ∧ codec.needs context bits = true := by
  simp only [registration]
  split
  · next h => simp [Std.ExtTreeSet.isEmpty_iff.1 h]
  · next h =>
    have hne : codec.unpack bits ≠ ∅ := fun he => h (Std.ExtTreeSet.isEmpty_iff.2 he)
    simp only [List.mem_append, mark_mem_marks, List.mem_map, reduceCtorEq, and_false,
      exists_false, or_false]
    cases context <;> simp [hne]

theorem add_mem_registration (usage usage' : Usage) (batch : String) (bits : Bits)
    (name : String) (fields : FieldSet) :
    .add usage' name fields ∈ codec.registration usage batch bits ↔
      usage = usage' ∧ name ∈ Batch.split batch ∧ codec.unpack bits = fields ∧ fields ≠ ∅ := by
  simp only [registration]
  split
  · next h =>
    constructor
    · intro hm
      cases hm
    · intro h
      obtain ⟨_, _, he, hne⟩ := h
      exact absurd (he.symm.trans (Std.ExtTreeSet.isEmpty_iff.1 h)) hne
  · next h =>
    have hne : codec.unpack bits ≠ ∅ := fun he => h (Std.ExtTreeSet.isEmpty_iff.2 he)
    simp only [List.mem_append, add_not_mem_marks, false_or, List.mem_map]
    constructor
    · intro h
      obtain ⟨_, hn, he⟩ := h
      cases he
      exact ⟨rfl, hn, rfl, hne⟩
    · intro h
      obtain ⟨hu, hn, he, _⟩ := h
      subst hu he
      exact ⟨name, hn, rfl⟩

end Codec

namespace Declaration
variable (codec : Codec) (declaration : Declaration)

theorem mark_mem_steps (context : Context) (name : String) :
    .mark context name ∈ declaration.steps codec ↔
      (∃ r ∈ declaration.registration? codec, name ∈ Batch.split r.batch ∧
        codec.unpack r.bits ≠ ∅ ∧ codec.needs context r.bits = true) ∨
      ∃ names, declaration = .aware context names ∧ name ∈ names := by
  cases declaration with
  | packed usage batch bits => simp [steps, registration?, Codec.mark_mem_registration]
  | listed usage batch fields => simp [steps, registration?, Codec.mark_mem_registration]
  | aware context' names =>
    rw [steps, List.mem_map]
    constructor
    · intro h
      obtain ⟨_, hn, he⟩ := h
      cases he
      exact .inr ⟨names, rfl, hn⟩
    · intro h
      rcases h with ⟨_, hr, _⟩ | ⟨_, he, hn⟩
      · cases hr
      · cases he
        exact ⟨name, hn, rfl⟩

theorem add_mem_steps (usage : Usage) (name : String) (fields : FieldSet) :
    .add usage name fields ∈ declaration.steps codec ↔
      ∃ r ∈ declaration.registration? codec, r.usage = usage ∧ name ∈ Batch.split r.batch ∧
        codec.unpack r.bits = fields ∧ fields ≠ ∅ := by
  cases declaration with
  | packed usage' batch bits => simp [steps, registration?, Codec.add_mem_registration]
  | listed usage' batch fields' => simp [steps, registration?, Codec.add_mem_registration]
  | aware context names => simp [steps, registration?]

end Declaration

section
variable {registry : Registry} {step : Step} {steps : List Step}

def Step.Fills (step : Step) : Prop :=
  ∀ usage name fields, .add usage name fields = step → ∃ field, field ∈ fields

def Registry.Filled (registry : Registry) : Prop :=
  ∀ usage, ∀ name ∈ registry.accesses usage, ∃ field, field ∈ registry.fields usage name

theorem FieldSet.ne_empty_iff {fields : FieldSet} : fields ≠ ∅ ↔ ∃ field, field ∈ fields := by
  rw [ne_eq, Std.ExtTreeSet.eq_empty_iff_forall_not_mem, Classical.not_forall]
  simp only [Classical.not_not]

theorem Registry.filled_new : Filled {} := by
  intro usage name h
  exact absurd h (not_mem_accesses_new usage name)

theorem Registry.Filled.apply (h : registry.Filled) (hs : step.Fills) :
    (step.apply registry).Filled := by
  intro usage name hm
  simp only [Step.mem_fields_apply]
  rcases (step.mem_accesses_apply registry usage name).1 hm with ⟨fields, he⟩ | hm
  · obtain ⟨field, hf⟩ := hs usage name fields he
    exact ⟨field, .inl ⟨fields, he, hf⟩⟩
  · obtain ⟨field, hf⟩ := h usage name hm
    exact ⟨field, .inr hf⟩

theorem Registry.Filled.perform (h : registry.Filled) (hs : ∀ step ∈ steps, step.Fills) :
    (registry.perform steps).Filled := by
  induction steps generalizing registry with
  | nil => exact h
  | cons step steps ih =>
    exact ih (h.apply (hs step List.mem_cons_self)) fun s hm => hs s (List.mem_cons_of_mem _ hm)

theorem Declaration.fills (codec : Codec) (declaration : Declaration) :
    ∀ step ∈ declaration.steps codec, step.Fills := by
  intro step hs usage name fields he
  rw [← he, Declaration.add_mem_steps] at hs
  obtain ⟨_, _, _, _, _, hne⟩ := hs
  exact FieldSet.ne_empty_iff.1 hne

end

namespace Registry
variable (codec : Codec) (registry : Registry) (declarations : List Declaration)

theorem isAware_declareAll (context : Context) (name : String) :
    (registry.declareAll codec declarations).isAware context name = true ↔
      (∃ r ∈ registrations codec declarations, name ∈ Batch.split r.batch ∧
        codec.unpack r.bits ≠ ∅ ∧ codec.needs context r.bits = true) ∨
      (∃ names, .aware context names ∈ declarations ∧ name ∈ names) ∨
      registry.isAware context name = true := by
  rw [declareAll_eq_perform, isAware_perform, List.mem_flatMap, ← or_assoc]
  apply or_congr_left
  simp only [Declaration.mark_mem_steps, registrations, List.mem_filterMap]
  constructor
  · intro h
    obtain ⟨declaration, hd, h⟩ := h
    rcases h with ⟨r, hr, h⟩ | ⟨names, he, hn⟩
    · exact .inl ⟨r, ⟨declaration, hd, hr⟩, h⟩
    · exact .inr ⟨names, he ▸ hd, hn⟩
  · intro h
    rcases h with ⟨r, ⟨declaration, hd, hr⟩, h⟩ | ⟨names, hd, hn⟩
    · exact ⟨declaration, hd, .inl ⟨r, hr, h⟩⟩
    · exact ⟨_, hd, .inr ⟨names, rfl, hn⟩⟩

theorem mem_accesses_declareAll (usage : Usage) (name : String) :
    name ∈ (registry.declareAll codec declarations).accesses usage ↔
      (∃ r ∈ registrations codec declarations, r.usage = usage ∧ name ∈ Batch.split r.batch ∧
        codec.unpack r.bits ≠ ∅) ∨
      name ∈ registry.accesses usage := by
  rw [declareAll_eq_perform, mem_accesses_perform]
  apply or_congr_left
  simp only [List.mem_flatMap, Declaration.add_mem_steps, registrations, List.mem_filterMap]
  constructor
  · intro h
    obtain ⟨_, declaration, hd, r, hr, hu, hn, he, hne⟩ := h
    exact ⟨r, ⟨declaration, hd, hr⟩, hu, hn, he ▸ hne⟩
  · intro h
    obtain ⟨r, ⟨declaration, hd, hr⟩, hu, hn, hne⟩ := h
    exact ⟨_, declaration, hd, r, hr, hu, hn, rfl, hne⟩

theorem mem_fields_declareAll (usage : Usage) (name : String) (field : Field) :
    field ∈ (registry.declareAll codec declarations).fields usage name ↔
      (∃ r ∈ registrations codec declarations, r.usage = usage ∧ name ∈ Batch.split r.batch ∧
        field ∈ codec.unpack r.bits) ∨
      field ∈ registry.fields usage name := by
  rw [declareAll_eq_perform, mem_fields_perform]
  apply or_congr_left
  simp only [List.mem_flatMap, Declaration.add_mem_steps, registrations, List.mem_filterMap]
  constructor
  · intro h
    obtain ⟨_, ⟨declaration, hd, r, hr, hu, hn, he, _⟩, hf⟩ := h
    exact ⟨r, ⟨declaration, hd, hr⟩, hu, hn, he ▸ hf⟩
  · intro h
    obtain ⟨r, ⟨declaration, hd, hr⟩, hu, hn, hf⟩ := h
    have hne := Std.ExtTreeSet.ne_empty_of_mem hf
    exact ⟨_, ⟨declaration, hd, r, hr, hu, hn, rfl, hne⟩, hf⟩

theorem filled_declareAll : (declareAll codec {} declarations).Filled := by
  rw [declareAll_eq_perform]
  apply filled_new.perform
  intro step hs
  obtain ⟨declaration, -, hs⟩ := List.mem_flatMap.1 hs
  exact declaration.fills codec step hs

/-- After any run a method has exactly the fields and the awareness that were declared for it. -/
theorem declareAll_answers (name : String) :
    (∀ usage field, field ∈ (declareAll codec {} declarations).fields usage name ↔
      ∃ r ∈ registrations codec declarations, r.usage = usage ∧ name ∈ Batch.split r.batch ∧
        field ∈ codec.unpack r.bits) ∧
    ∀ context, (declareAll codec {} declarations).isAware context name = true ↔
      (∃ r ∈ registrations codec declarations, name ∈ Batch.split r.batch ∧
        codec.unpack r.bits ≠ ∅ ∧ codec.needs context r.bits = true) ∨
      ∃ names, .aware context names ∈ declarations ∧ name ∈ names := by
  constructor
  · intro usage field
    rw [mem_fields_declareAll, fields_new]
    simp
  · intro context
    rw [isAware_declareAll, isAware_new]
    simp

end Registry
end CallDispatch.Caller
