import CallDispatch.Proofs.Caller.Packing
import CallDispatch.Proofs.Caller.Registrations
import CallDispatch.Proofs.Caller.Threads

namespace CallDispatch.Caller

/-- What a word unpacks to, it also calls for. -/
def Codec.Candid (codec : Codec) : Prop :=
  ∀ context bits, (∃ field ∈ Field.ofContext context, field ∈ codec.unpack bits) →
    codec.needs context bits = true

theorem Codec.candid_packed : packed.Candid := by
  intro context bits
  exact (needs_packed context bits).2

theorem Codec.Candid.needs {codec : Codec} (h : codec.Candid) {bits : Bits} {field : Field}
    (hf : field ∈ codec.unpack bits) : codec.needs field.context bits = true :=
  h field.context bits ⟨field, Field.mem_ofContext.2 rfl, hf⟩

/-- Methods are aware of whatever they use. -/
def Registry.Published (registry : Registry) : Prop :=
  ∀ usage name, ∀ field ∈ registry.fields usage name, registry.isAware field.context name = true

def Step.Safe (registry : Registry) : Step → Prop
  | .mark _ _ => True
  | .add _ name fields => ∀ field ∈ fields, registry.isAware field.context name = true

/-- Every step of a run is safe by the time it is taken. -/
def Guarded : Registry → List Step → Prop
  | _, [] => True
  | registry, step :: steps => step.Safe registry ∧ Guarded (step.apply registry) steps

def Registry.AwareIn (registry other : Registry) : Prop :=
  ∀ context name, registry.isAware context name = true → other.isAware context name = true

variable {registry other : Registry} {step : Step} {steps others : List Step}

theorem Registry.awareIn_apply (registry : Registry) (step : Step) :
    registry.AwareIn (step.apply registry) := by
  intro context name h
  exact (step.isAware_apply registry context name).2 (.inr h)

theorem Registry.AwareIn.apply (h : registry.AwareIn other) (step : Step) :
    (step.apply registry).AwareIn (step.apply other) := by
  intro context name ha
  rw [Step.isAware_apply] at ha ⊢
  exact ha.imp_right (h context name)

theorem Step.Safe.mono (hs : step.Safe registry) (h : registry.AwareIn other) :
    step.Safe other := by
  cases step with
  | mark => trivial
  | add usage name fields =>
    intro field hf
    exact h field.context name (hs field hf)

theorem Guarded.mono (hg : Guarded registry steps) (h : registry.AwareIn other) :
    Guarded other steps := by
  induction steps generalizing registry other with
  | nil => trivial
  | cons step steps ih => exact ⟨hg.1.mono h, ih hg.2 (h.apply step)⟩

theorem guarded_of_safe (h : ∀ step ∈ steps, step.Safe registry) : Guarded registry steps := by
  induction steps generalizing registry with
  | nil => trivial
  | cons step steps ih =>
    refine ⟨h step List.mem_cons_self, ih ?_⟩
    intro other ho
    exact (h other (List.mem_cons_of_mem _ ho)).mono (registry.awareIn_apply step)

theorem Guarded.append (h : Guarded registry steps)
    (h' : Guarded (registry.perform steps) others) : Guarded registry (steps ++ others) := by
  induction steps generalizing registry with
  | nil => exact h'
  | cons step steps ih => exact ⟨h.1, ih h.2 h'⟩

theorem Registry.Published.apply (hp : registry.Published) (hs : step.Safe registry) :
    (step.apply registry).Published := by
  intro usage name field hf
  apply registry.awareIn_apply step
  rcases (step.mem_fields_apply registry usage name field).1 hf with h | h
  · obtain ⟨fields, rfl, hin⟩ := h
    exact hs field hin
  · exact hp usage name field h

theorem Codec.Candid.guarded_registration {codec : Codec} (h : codec.Candid)
    (registry : Registry) (usage : Usage) (batch : String) (bits : Bits) :
    Guarded registry (codec.registration usage batch bits) := by
  simp only [Codec.registration]
  split
  · trivial
  · apply Guarded.append
    · apply guarded_of_safe
      intro step hs
      cases step with
      | mark => trivial
      | add usage' name fields => simp [Codec.add_not_mem_marks] at hs
    · -- By the first of these steps every method of the batch has been marked.
      apply guarded_of_safe
      intro step hs
      obtain ⟨name, hn, rfl⟩ := List.mem_map.1 hs
      intro field hf
      apply (registry.isAware_perform _ _ _).2
      apply Or.inl
      have hm := (codec.mark_mem_marks bits _ field.context field.context name).2
        ⟨rfl, hn, h.needs hf⟩
      cases hc : field.context with
      | frame => exact List.mem_append_left _ (hc ▸ hm)
      | scope => exact List.mem_append_right _ (hc ▸ hm)

theorem Codec.Candid.guarded_steps {codec : Codec} (h : codec.Candid) (registry : Registry)
    (declaration : Declaration) : Guarded registry (declaration.steps codec) := by
  cases declaration with
  | packed usage batch bits => exact h.guarded_registration registry usage batch bits
  | listed usage batch fields =>
    exact h.guarded_registration registry usage batch (codec.pack fields)
  | aware context names =>
    apply guarded_of_safe
    intro step hs
    obtain ⟨name, -, rfl⟩ := List.mem_map.1 hs
    trivial

theorem Codec.Candid.guarded_flatMap {codec : Codec} (h : codec.Candid) (registry : Registry)
    (declarations : List Declaration) :
    Guarded registry (declarations.flatMap (Declaration.steps codec)) := by
  induction declarations generalizing registry with
  | nil => trivial
  | cons declaration declarations ih => exact (h.guarded_steps registry declaration).append (ih _)

namespace System
variable {system next : System}

structure Careful (system : System) : Prop where
  published : system.registry.Published
  guarded : ∀ steps ∈ system.threads, Guarded system.registry steps

theorem careful_start {codec : Codec} (h : codec.Candid) (threads : List (List Declaration)) :
    (start codec {} threads).Careful := by
  constructor
  · intro usage name field hf
    rw [start, Registry.fields_new] at hf
    exact absurd hf Std.ExtTreeSet.not_mem_empty
  · intro steps hs
    obtain ⟨declarations, -, rfl⟩ := List.mem_map.1 hs
    exact h.guarded_flatMap {} declarations

theorem Careful.moves (h : system.Careful) (hm : Moves system next) : next.Careful := by
  cases hm with
  | take registry before after step steps =>
    have hg : Guarded registry (step :: steps) := h.guarded _ (by simp)
    refine ⟨h.published.apply hg.1, ?_⟩
    intro thread ht
    -- The moving thread is guarded in the new registry as it stands. For the others the registry
    -- has only gained awareness.
    rcases mem_of_taken step ht with rfl | ht
    · exact hg.2
    · exact (h.guarded thread ht).mono (registry.awareIn_apply step)

/-- In the middle of any run a method is aware of every part of the state that it has a field of. -/
theorem awareness_precedes_fields :
    Codec.packed.Candid ∧
    ∀ codec : Codec, codec.Candid → ∀ (threads : List (List Declaration)) (system : System),
      Reaches (start codec {} threads) system → ∀ context usage name,
        (∃ field ∈ Field.ofContext context, field ∈ system.registry.fields usage name) →
          system.registry.isAware context name = true := by
  refine ⟨Codec.candid_packed, ?_⟩
  intro codec candid threads system run context usage name h
  obtain ⟨field, hc, hf⟩ := h
  have hp := (run.preserves Careful.moves (careful_start candid threads)).published
  rw [← Field.mem_ofContext.1 hc]
  exact hp usage name field hf

/-- One thread has added a field to the first method of its batch, the other has not begun. -/
theorem awareness_precedes_fields_midway :
    ∃ system, Reaches (start .packed {}
        [[.packed .read "gets;eval" 1#32], [.packed .write "eval" 8#32]]) system ∧
      ¬ system.Finished ∧ .lastLine ∈ system.registry.fields .read "gets" ∧
      system.registry.isAware .scope "gets" = true := by
  have run (a b c d e f : Step) : Reaches ⟨{}, [[a, b, c, d], [e, f]]⟩
      ⟨({} : Registry).perform [a, b, c], [[d], [e, f]]⟩ :=
    .head (.take {} [] [[e, f]] a [b, c, d]) (.head (.take _ [] [[e, f]] b [c, d])
      (.head (.take _ [] [[e, f]] c [d]) .refl))
  have unfinished (registry : Registry) (d e f : Step) :
      ¬ Finished ⟨registry, [[d], [e, f]]⟩ := by simp [Finished]
  have aware := awareness_precedes_fields.2 .packed awareness_precedes_fields.1
    [[.packed .read "gets;eval" 1#32], [.packed .write "eval" 8#32]] _ (run _ _ _ _ _ _)
    .scope .read "gets" ⟨.lastLine, by decide, by decide⟩
  exact ⟨_, run _ _ _ _ _ _, unfinished _ _ _ _, by decide, aware⟩

end System
end CallDispatch.Caller
