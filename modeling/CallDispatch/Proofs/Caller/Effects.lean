import CallDispatch.Proofs.Caller.Batch
import CallDispatch.Proofs.Caller.Registrations

namespace CallDispatch.Caller

variable {registry : Registry} {step : Step} {steps : List Step} {context : Context}
  {usage : Usage} {name : String}

theorem Codec.mem_registration_iff (codec : Codec) (usage : Usage) (batch : String) (bits : Bits)
    (step : Step) : step ∈ codec.registration usage batch bits ↔
      ∃ name ∈ Batch.split batch, step ∈ codec.registration usage name bits := by
  cases step with
  | mark context name =>
    simp only [mark_mem_registration]
    constructor
    · intro h
      obtain ⟨hn, h⟩ := h
      obtain ⟨other, ho, hn⟩ := Batch.mem_split_iff.1 hn
      exact ⟨other, ho, hn, h⟩
    · intro h
      obtain ⟨other, ho, hn, h⟩ := h
      exact ⟨Batch.mem_split_iff.2 ⟨other, ho, hn⟩, h⟩
  | add usage' name fields =>
    simp only [add_mem_registration]
    constructor
    · intro h
      obtain ⟨hu, hn, h⟩ := h
      obtain ⟨other, ho, hn⟩ := Batch.mem_split_iff.1 hn
      exact ⟨other, ho, hu, hn, h⟩
    · intro h
      obtain ⟨other, ho, hu, hn, h⟩ := h
      exact ⟨hu, Batch.mem_split_iff.2 ⟨other, ho, hn⟩, h⟩

theorem Codec.registration_separators (codec : Codec) (usage : Usage) (count : Nat) (bits : Bits) :
    codec.registration usage (Batch.separators (count + 1)) bits = [] := by
  simp only [registration, marks, Batch.split_separators, List.map_nil, ite_self, List.append_nil]

namespace Registry

/-- Registering a word for a batch is registering it for each name of the batch. -/
theorem declare_batch (codec : Codec) (registry : Registry) (usage : Usage) (batch : String)
    (bits : Bits) :
    registry.declare codec (.packed usage batch bits) =
        registry.declareAll codec ((Batch.split batch).map fun name => .packed usage name bits) ∧
      ∀ count, registry.declare codec (.packed usage (Batch.separators (count + 1)) bits) =
        registry := by
  constructor
  · rw [declareAll_eq_perform]
    apply perform_congr
    intro step
    rw [Declaration.steps, codec.mem_registration_iff, List.flatMap_map, List.mem_flatMap]
    rfl
  · intro count
    rw [declare, Declaration.steps, codec.registration_separators]
    rfl

end Registry

/-- A step has nothing to add to a registry. -/
def Step.Holds (registry : Registry) : Step → Prop
  | .mark context name => registry.isAware context name = true
  | .add usage name fields =>
    name ∈ registry.accesses usage ∧ ∀ field ∈ fields, field ∈ registry.fields usage name

namespace Registry

theorem mem_accesses_of_mem_fields {field : Field} (h : field ∈ registry.fields usage name) :
    name ∈ registry.accesses usage := by
  rw [Std.ExtTreeMap.mem_iff_isSome_getElem?]
  cases ha : (registry.accesses usage)[name]? with
  | some => rfl
  | none =>
    rw [fields, ha] at h
    exact absurd h Std.ExtTreeSet.not_mem_empty

theorem holds_add_iff {fields : FieldSet} (hne : fields ≠ ∅) :
    (Step.add usage name fields).Holds registry ↔
      ∀ field ∈ fields, field ∈ registry.fields usage name := by
  constructor
  · exact And.right
  · intro h
    obtain ⟨field, hf⟩ := FieldSet.ne_empty_iff.1 hne
    exact ⟨mem_accesses_of_mem_fields (h field hf), h⟩

/-- A run of steps changes a registry when one of them has something to add. -/
theorem perform_eq_self_iff :
    registry.perform steps = registry ↔ ∀ step ∈ steps, step.Holds registry := by
  constructor
  · intro h step hs
    cases step with
    | mark context name =>
      have ha := (registry.isAware_perform steps context name).2 (.inl hs)
      rwa [h] at ha
    | add usage name fields =>
      have he := (registry.mem_accesses_perform steps usage name).2 (.inl ⟨fields, hs⟩)
      rw [h] at he
      refine ⟨he, ?_⟩
      intro field hf
      have ha := (registry.mem_fields_perform steps usage name field).2 (.inl ⟨fields, hs, hf⟩)
      rwa [h] at ha
  · intro h
    apply eq_of_same
    · intro context name
      rw [Bool.eq_iff_iff, isAware_perform]
      exact or_iff_right_of_imp fun hs => h _ hs
    · intro usage name
      rw [mem_accesses_perform]
      apply or_iff_right_of_imp
      intro hs
      obtain ⟨fields, hs⟩ := hs
      exact (h _ hs).1
    · intro usage name
      apply Std.ExtTreeSet.ext_mem
      intro field
      rw [mem_fields_perform]
      apply or_iff_right_of_imp
      intro hs
      obtain ⟨fields, hs, hf⟩ := hs
      exact (h _ hs).2 field hf

theorem perform_ne_self_iff :
    registry.perform steps ≠ registry ↔ ∃ step ∈ steps, ¬step.Holds registry := by
  rw [ne_eq, perform_eq_self_iff, Classical.not_forall]
  simp only [Classical.not_imp]

/-- A method lacks a field that is registered for it, or awareness that the word calls for. -/
def Lacks (codec : Codec) (registry : Registry) (r : Registration) (name : String) : Prop :=
  (∃ field ∈ codec.unpack r.bits, field ∉ registry.fields r.usage name) ∨
    ∃ context, codec.needs context r.bits = true ∧ registry.isAware context name = false

theorem exists_not_holds_iff {codec : Codec} {r : Registration} :
    (∃ step ∈ codec.registration r.usage r.batch r.bits, ¬step.Holds registry) ↔
      codec.unpack r.bits ≠ ∅ ∧ ∃ name ∈ Batch.split r.batch, registry.Lacks codec r name := by
  constructor
  · intro h
    obtain ⟨step, hs, hn⟩ := h
    cases step with
    | mark context name =>
      obtain ⟨hin, hne, hneeds⟩ := (codec.mark_mem_registration ..).1 hs
      exact ⟨hne, name, hin, .inr ⟨context, hneeds, Bool.eq_false_iff.2 hn⟩⟩
    | add usage name fields =>
      obtain ⟨rfl, hin, rfl, hne⟩ := (codec.add_mem_registration ..).1 hs
      rw [holds_add_iff hne, Classical.not_forall] at hn
      simp only [Classical.not_imp] at hn
      exact ⟨hne, name, hin, .inl hn⟩
  · intro h
    obtain ⟨hne, name, hin, hl⟩ := h
    rcases hl with ⟨field, hf, hnot⟩ | ⟨context, hneeds, ha⟩
    · refine ⟨.add r.usage name (codec.unpack r.bits), ?_, ?_⟩
      · exact (codec.add_mem_registration ..).2 ⟨rfl, hin, rfl, hne⟩
      · intro hh
        exact hnot (hh.2 field hf)
    · refine ⟨.mark context name, ?_, ?_⟩
      · exact (codec.mark_mem_registration ..).2 ⟨hin, hne, hneeds⟩
      · exact fun hh => Bool.false_ne_true (ha.symm.trans hh)

end Registry

theorem Registry.getElem?_add {other : Usage} {name' : String} (registry : Registry)
    (fields : FieldSet) (h : usage = other → name ≠ name') :
    ((registry.add usage name fields).accesses other)[name']? =
      (registry.accesses other)[name']? := by
  cases usage with
  | read =>
    cases other with
    | read =>
      exact (Table.getElem?_upsert registry.reads name name' (· ∪ fields)).trans (if_neg (h rfl))
    | write => rfl
  | write =>
    cases other with
    | read => rfl
    | write =>
      exact (Table.getElem?_upsert registry.writes name name' (· ∪ fields)).trans (if_neg (h rfl))

theorem Step.getElem?_apply (registry : Registry)
    (h : ∀ fields, .add usage name fields ≠ step) :
    ((step.apply registry).accesses usage)[name]? = (registry.accesses usage)[name]? := by
  cases step with
  | mark context name' => cases context <;> cases usage <;> rfl
  | add usage' name' fields =>
    apply registry.getElem?_add fields
    intro hu hn
    subst hu hn
    exact h fields rfl

namespace Registry

theorem getElem?_perform (registry : Registry)
    (h : ∀ fields, .add usage name fields ∉ steps) :
    ((registry.perform steps).accesses usage)[name]? = (registry.accesses usage)[name]? := by
  induction steps generalizing registry with
  | nil => rfl
  | cons step steps ih =>
    have hs : ∀ fields, .add usage name fields ∉ steps :=
      fun fields hm => h fields (List.mem_cons_of_mem _ hm)
    rw [perform_cons, ih _ hs, Step.getElem?_apply]
    intro fields he
    exact h fields (he ▸ List.mem_cons_self)

theorem accesses_perform (registry : Registry)
    (h : ∀ name fields, .add usage name fields ∉ steps) :
    (registry.perform steps).accesses usage = registry.accesses usage := by
  apply Std.ExtTreeMap.ext_getElem?
  intro name
  exact registry.getElem?_perform (h name)

theorem isAware_perform_of_not_mem (registry : Registry) (h : .mark context name ∉ steps) :
    (registry.perform steps).isAware context name = registry.isAware context name := by
  rw [Bool.eq_iff_iff, isAware_perform]
  exact or_iff_right h

theorem aware_perform (registry : Registry) (h : ∀ name, .mark context name ∉ steps) :
    (registry.perform steps).aware context = registry.aware context := by
  apply Std.ExtTreeSet.ext_contains
  intro name
  exact registry.isAware_perform_of_not_mem (h name)

structure Within (registry other : Registry) : Prop where
  aware : ∀ context name, registry.isAware context name = true → other.isAware context name = true
  entries : ∀ usage name, name ∈ registry.accesses usage → name ∈ other.accesses usage
  fields : ∀ usage name, ∀ field ∈ registry.fields usage name, field ∈ other.fields usage name

theorem within_perform (registry : Registry) (steps : List Step) :
    registry.Within (registry.perform steps) where
  aware context name h := (registry.isAware_perform steps context name).2 (.inr h)
  entries usage name h := (registry.mem_accesses_perform steps usage name).2 (.inr h)
  fields usage name field h := (registry.mem_fields_perform steps usage name field).2 (.inr h)

structure Agree (name : String) (registry other : Registry) : Prop where
  aware : ∀ context, registry.isAware context name = other.isAware context name
  entries : ∀ usage, (registry.accesses usage)[name]? = (other.accesses usage)[name]?

theorem agree_perform (registry : Registry)
    (marks : ∀ context, .mark context name ∉ steps)
    (adds : ∀ usage fields, .add usage name fields ∉ steps) :
    (registry.perform steps).Agree name registry where
  aware context := registry.isAware_perform_of_not_mem (marks context)
  entries usage := registry.getElem?_perform (adds usage)

section
variable {codec : Codec} {r : Registration} {names : List String}

theorem declare_eq_perform {declaration : Declaration}
    (h : declaration.registration? codec = some r) :
    registry.declare codec declaration =
      registry.perform (codec.registration r.usage r.batch r.bits) := by
  cases declaration with
  | packed => cases h; rfl
  | listed => cases h; rfl
  | aware => cases h

theorem accesses_perform_registration (registry : Registry) (h : usage ≠ r.usage) :
    (registry.perform (codec.registration r.usage r.batch r.bits)).accesses usage =
      registry.accesses usage := by
  apply accesses_perform
  intro name fields hm
  exact h ((codec.add_mem_registration ..).1 hm).1.symm

theorem agree_perform_registration (registry : Registry) (h : name ∉ Batch.split r.batch) :
    (registry.perform (codec.registration r.usage r.batch r.bits)).Agree name registry := by
  apply agree_perform
  · intro context hm
    exact h ((codec.mark_mem_registration ..).1 hm).1
  · intro usage fields hm
    exact h ((codec.add_mem_registration ..).1 hm).2.1

theorem perform_marks_ne_self_iff : registry.perform (names.map (.mark context)) ≠ registry ↔
    ∃ name ∈ names, registry.isAware context name = false := by
  rw [perform_ne_self_iff]
  constructor
  · intro h
    obtain ⟨step, hs, hn⟩ := h
    obtain ⟨name, hin, rfl⟩ := List.mem_map.1 hs
    exact ⟨name, hin, Bool.eq_false_iff.2 hn⟩
  · intro h
    obtain ⟨name, hin, ha⟩ := h
    exact ⟨_, List.mem_map_of_mem hin, Bool.eq_false_iff.1 ha⟩

theorem agree_perform_marks (registry : Registry) (h : name ∉ names) :
    (registry.perform (names.map (.mark context))).Agree name registry := by
  apply agree_perform
  · simp [h]
  · simp

end

/-- What a declaration changes, just when it changes anything, and what it leaves alone. -/
theorem declare_changes_exactly (codec : Codec) (registry : Registry) (declaration : Declaration) :
    registry.Within (registry.declare codec declaration) ∧
    (∀ r ∈ declaration.registration? codec,
      (registry.declare codec declaration ≠ registry ↔
        codec.unpack r.bits ≠ ∅ ∧ ∃ name ∈ Batch.split r.batch, registry.Lacks codec r name) ∧
      (∀ usage, usage ≠ r.usage →
        (registry.declare codec declaration).accesses usage = registry.accesses usage) ∧
      ∀ name, name ∉ Batch.split r.batch →
        (registry.declare codec declaration).Agree name registry) ∧
    ∀ context names, declaration = .aware context names →
      (registry.declare codec declaration ≠ registry ↔
        ∃ name ∈ names, registry.isAware context name = false) ∧
      (∀ usage, (registry.declare codec declaration).accesses usage = registry.accesses usage) ∧
      (∀ other, other ≠ context →
        (registry.declare codec declaration).aware other = registry.aware other) ∧
      ∀ name, name ∉ names → (registry.declare codec declaration).Agree name registry := by
  refine ⟨registry.within_perform _, ?_, ?_⟩
  · intro r hr
    rw [declare_eq_perform hr]
    refine ⟨perform_ne_self_iff.trans exists_not_holds_iff, ?_, ?_⟩
    · intro usage hu
      exact registry.accesses_perform_registration hu
    · intro name hn
      exact registry.agree_perform_registration hn
  · intro context names he
    subst he
    refine ⟨perform_marks_ne_self_iff, ?_, ?_, ?_⟩
    · intro usage
      apply accesses_perform
      simp [Declaration.steps]
    · intro other ho
      apply aware_perform
      simp [Declaration.steps, ho.symm]
    · intro name hn
      exact registry.agree_perform_marks hn

/-- The first field of a method, and a method that is listed for the first time. -/
theorem declare_changes_exactly_first :
    declare .packed {} (.packed .write "gets;" 1#32) ≠ {} ∧
      (declare .packed {} (.packed .write "gets;" 1#32)).reads = ∅ ∧
      (declare .packed {} (.packed .write "gets;" 1#32)).Agree "puts" {} ∧
      declare .packed {} (.aware .scope ["eval"]) ≠ {} := by
  have registered := (declare_changes_exactly .packed {} (.packed .write "gets;" 1#32)).2.1
    ⟨.write, "gets;", 1#32⟩ rfl
  have lacks : Lacks .packed {} ⟨.write, "gets;", 1#32⟩ "gets" :=
    .inl ⟨.lastLine, by decide, by decide⟩
  have listed := (declare_changes_exactly .packed {} (.aware .scope ["eval"])).2.2
    .scope ["eval"] rfl
  refine ⟨registered.1.2 ⟨by decide, "gets", by decide, lacks⟩, ?_, ?_, ?_⟩
  · exact registered.2.1 .read (by decide)
  · exact registered.2.2 "puts" (by decide)
  · exact listed.1.2 ⟨"eval", by decide, by decide⟩

end Registry

end CallDispatch.Caller
