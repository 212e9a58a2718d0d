import CallDispatch.Caller.Registry
import Mathlib.Logic.Relation

namespace CallDispatch

theorem Table.eq_of_getD {κ α : Type} [Ord κ] [Std.TransOrd κ] [Std.LawfulEqOrd κ]
    {table other : Table κ α} (default : α) (keys : ∀ key, key ∈ table ↔ key ∈ other)
    (entries : ∀ key : κ, table[key]?.getD default = other[key]?.getD default) : table = other := by
  apply Std.ExtTreeMap.ext_getElem?
  intro key
  have hk := keys key
  have he := entries key
  rw [Std.ExtTreeMap.mem_iff_isSome_getElem?, Std.ExtTreeMap.mem_iff_isSome_getElem?] at hk
  cases h : table[key]? with
  | none =>
    cases h' : other[key]? with
    | none => rfl
    | some entry => simp [h, h'] at hk
  | some entry =>
    cases h' : other[key]? with
    | none => simp [h, h'] at hk
    | some entry' =>
      rw [h, h'] at he
      exact congrArg some he

namespace Caller
namespace Registry

theorem eq_of_same {registry other : Registry}
    (aware : ∀ context name, registry.isAware context name = other.isAware context name)
    (entries : ∀ usage name, name ∈ registry.accesses usage ↔ name ∈ other.accesses usage)
    (fields : ∀ usage name, registry.fields usage name = other.fields usage name) :
    registry = other := by
  have hf : registry.frameAware = other.frameAware :=
    Std.ExtTreeSet.ext_contains (aware .frame)
  have hs : registry.scopeAware = other.scopeAware :=
    Std.ExtTreeSet.ext_contains (aware .scope)
  have hr : registry.reads = other.reads :=
    Table.eq_of_getD ∅ (entries .read) (fields .read)
  have hw : registry.writes = other.writes :=
    Table.eq_of_getD ∅ (entries .write) (fields .write)
  cases registry
  cases other
  cases hf
  cases hs
  cases hr
  cases hw
  rfl

theorem isAware_new (context : Context) (name : String) :
    isAware {} context name = false := by
  cases context <;> exact Std.ExtTreeSet.contains_empty

theorem not_mem_accesses_new (usage : Usage) (name : String) : name ∉ accesses {} usage := by
  cases usage <;> exact Std.ExtTreeMap.not_mem_empty

theorem fields_new (usage : Usage) (name : String) : fields {} usage name = ∅ := by
  cases usage <;> simp [fields, accesses]

theorem mem_accesses_mark (registry : Registry) (context : Context) (usage : Usage)
    (name name' : String) :
    name' ∈ (registry.mark context name).accesses usage ↔ name' ∈ registry.accesses usage := by
  cases context <;> cases usage <;> rfl

theorem mem_accesses_add (registry : Registry) (usage other : Usage) (name name' : String)
    (fields : FieldSet) :
    name' ∈ (registry.add usage name fields).accesses other ↔
      (usage = other ∧ name = name') ∨ name' ∈ registry.accesses other := by
  cases usage <;> cases other <;> simp [add, accesses, Table.mem_upsert]

end Registry

theorem Step.isAware_apply (step : Step) (registry : Registry) (context : Context)
    (name : String) :
    (step.apply registry).isAware context name = true ↔
      .mark context name = step ∨ registry.isAware context name = true := by
  cases step with
  | mark context' name' => simp [apply, Registry.isAware_mark, @eq_comm _ context, @eq_comm _ name]
  | add usage name' fields => simp [apply, Registry.isAware_add]

theorem Step.mem_accesses_apply (step : Step) (registry : Registry) (usage : Usage)
    (name : String) :
    name ∈ (step.apply registry).accesses usage ↔
      (∃ fields, .add usage name fields = step) ∨ name ∈ registry.accesses usage := by
  cases step with
  | mark context name' => simp [apply, Registry.mem_accesses_mark]
  | add usage' name' fields =>
    simp [apply, Registry.mem_accesses_add, @eq_comm _ usage, @eq_comm _ name]

theorem Step.mem_fields_apply (step : Step) (registry : Registry) (usage : Usage)
    (name : String) (field : Field) :
    field ∈ (step.apply registry).fields usage name ↔
      (∃ fields, .add usage name fields = step ∧ field ∈ fields) ∨
        field ∈ registry.fields usage name := by
  cases step with
  | mark context name' => simp [apply, Registry.fields_mark]
  | add usage' name' fields =>
    simp only [apply, Registry.fields_add, add.injEq]
    split
    · next h =>
      obtain ⟨rfl, rfl⟩ := h
      simp [Std.ExtTreeSet.mem_union_iff, or_comm]
    · next h =>
      constructor
      · exact .inr
      · intro hf
        rcases hf with ⟨_, ⟨hu, hn, _⟩, _⟩ | hf
        · exact absurd ⟨hu.symm, hn.symm⟩ h
        · exact hf

namespace Registry

theorem perform_cons (registry : Registry) (step : Step) (steps : List Step) :
    registry.perform (step :: steps) = (step.apply registry).perform steps :=
  rfl

theorem isAware_perform (registry : Registry) (steps : List Step) (context : Context)
    (name : String) :
    (registry.perform steps).isAware context name = true ↔
      .mark context name ∈ steps ∨ registry.isAware context name = true := by
  induction steps generalizing registry with
  | nil => simp [perform]
  | cons step steps ih =>
    rw [perform_cons, ih, Step.isAware_apply, List.mem_cons, or_assoc, or_left_comm]

theorem mem_accesses_perform (registry : Registry) (steps : List Step) (usage : Usage)
    (name : String) :
    name ∈ (registry.perform steps).accesses usage ↔
      (∃ fields, .add usage name fields ∈ steps) ∨ name ∈ registry.accesses usage := by
  induction steps generalizing registry with
  | nil => simp [perform]
  | cons step steps ih =>
    rw [perform_cons, ih, Step.mem_accesses_apply]
    simp only [List.mem_cons, exists_or, or_assoc, or_left_comm]

theorem mem_fields_perform (registry : Registry) (steps : List Step) (usage : Usage)
    (name : String) (field : Field) :
    field ∈ (registry.perform steps).fields usage name ↔
      (∃ fields, .add usage name fields ∈ steps ∧ field ∈ fields) ∨
        field ∈ registry.fields usage name := by
  induction steps generalizing registry with
  | nil => simp [perform]
  | cons step steps ih =>
    rw [perform_cons, ih, Step.mem_fields_apply]
    simp only [List.mem_cons, or_and_right, exists_or, or_assoc, or_left_comm]

/-- Two runs that take the same steps, in any order and number, leave the same registry. -/
theorem perform_congr (registry : Registry) {steps others : List Step}
    (same : ∀ step, step ∈ steps ↔ step ∈ others) :
    registry.perform steps = registry.perform others := by
  apply eq_of_same
  · intro context name
    rw [Bool.eq_iff_iff, isAware_perform, isAware_perform, same]
  · intro usage name
    simp only [mem_accesses_perform, same]
  · intro usage name
    apply Std.ExtTreeSet.ext_mem
    intro field
    simp only [mem_fields_perform, same]

theorem declareAll_eq_perform (codec : Codec) (registry : Registry)
    (declarations : List Declaration) :
    registry.declareAll codec declarations =
      registry.perform (declarations.flatMap (Declaration.steps codec)) := by
  induction declarations generalizing registry with
  | nil => rfl
  | cons declaration declarations ih =>
    rw [List.flatMap_cons, perform_append]
    exact ih _

end Registry

/-- Threads that share a registry, each with the steps that it has still to take. -/
structure System where
  registry : Registry
  threads : List (List Step)

namespace System

def start (codec : Codec) (registry : Registry) (threads : List (List Declaration)) : System :=
  ⟨registry, threads.map (·.flatMap (Declaration.steps codec))⟩

/-- Some thread takes its next step. -/
inductive Moves : System → System → Prop
  | take (registry : Registry) (before after : List (List Step)) (step : Step)
      (steps : List Step) :
    Moves ⟨registry, before ++ (step :: steps) :: after⟩
      ⟨step.apply registry, before ++ steps :: after⟩

def Reaches : System → System → Prop :=
  Relation.ReflTransGen Moves

def Finished (system : System) : Prop :=
  ∀ steps ∈ system.threads, steps = []

/-- The registry that is left when the threads finish one after another. -/
def outcome (system : System) : Registry :=
  system.registry.perform system.threads.flatten

variable {system next : System}

/-- A schedule keeps what every move keeps. -/
theorem Reaches.preserves {P : System → Prop} (run : Reaches system next)
    (moves : ∀ {system next}, P system → Moves system next → P next) (h : P system) : P next := by
  induction run with
  | refl => exact h
  | tail _ hm ih => exact moves ih hm

/-- A thread beside the one that moves waits as it is. -/
theorem mem_of_taken {before after : List (List Step)} {steps thread : List Step} (step : Step)
    (h : thread ∈ before ++ steps :: after) :
    thread = steps ∨ thread ∈ before ++ (step :: steps) :: after := by
  rcases List.mem_append.1 h with h | h
  · exact .inr (List.mem_append_left _ h)
  · rcases List.mem_cons.1 h with h | h
    · exact .inl h
    · exact .inr (List.mem_append_right _ (List.mem_cons_of_mem _ h))

theorem Moves.outcome_eq (h : Moves system next) : next.outcome = system.outcome := by
  cases h with
  | take registry before after step steps =>
    have hf : (before ++ (step :: steps) :: after).flatten =
        before.flatten ++ step :: (steps ++ after.flatten) := by simp
    have hf' : (before ++ steps :: after).flatten =
        before.flatten ++ (steps ++ after.flatten) := by simp
    simp only [outcome, hf, hf', ← Registry.perform_cons]
    apply Registry.perform_congr
    intro other
    exact List.perm_middle.symm.mem_iff

theorem Reaches.outcome_eq (run : Reaches system next) : next.outcome = system.outcome :=
  run.preserves (fun h hm => hm.outcome_eq.trans h) rfl

theorem Finished.outcome_eq (h : system.Finished) : system.outcome = system.registry := by
  rw [outcome, List.flatten_eq_nil_iff.2 h]
  rfl

theorem outcome_start (codec : Codec) (registry : Registry) {threads : List (List Declaration)}
    {order : List Declaration} (same : order.Perm threads.flatten) :
    (start codec registry threads).outcome = registry.declareAll codec order := by
  rw [Registry.declareAll_eq_perform]
  apply Registry.perform_congr
  intro step
  rw [(same.flatMap_right _).mem_iff, start, ← List.flatMap_def, ← List.flatMap_id,
    List.flatMap_assoc]
  rfl

def pending (system : System) : Nat :=
  system.threads.flatten.length

theorem finished_or_moves (system : System) :
    system.Finished ∨ ∃ next, Moves system next ∧ next.pending < system.pending := by
  obtain ⟨registry, threads⟩ := system
  by_cases h : threads.flatten = []
  · exact .inl (List.flatten_eq_nil_iff.1 h)
  · obtain ⟨step, hs⟩ := List.exists_mem_of_ne_nil _ h
    obtain ⟨thread, ht, hin⟩ := List.mem_flatten.1 hs
    obtain ⟨before, after, rfl⟩ := List.append_of_mem ht
    cases thread with
    | nil => cases hin
    | cons step steps =>
      refine .inr ⟨_, .take registry before after step steps, ?_⟩
      simp [pending]

/-- Threads never block one another: from every state they can go on to the end. -/
theorem exists_finished (system : System) : ∃ final, Reaches system final ∧ final.Finished := by
  induction h : system.pending using Nat.strongRecOn generalizing system with
  | ind n ih =>
    rcases system.finished_or_moves with hf | ⟨next, hm, hlt⟩
    · exact ⟨system, .refl, hf⟩
    · obtain ⟨final, hr, hf⟩ := ih next.pending (h ▸ hlt) next rfl
      exact ⟨final, .head hm hr, hf⟩

/-- Every schedule can be finished, and leaves what the declarations leave one after another. -/
theorem schedule_immaterial (codec : Codec) (registry : Registry)
    (threads : List (List Declaration)) (system : System)
    (run : Reaches (start codec registry threads) system) :
    (∃ final, Reaches system final ∧ final.Finished) ∧
      (system.Finished → ∀ order : List Declaration, order.Perm threads.flatten →
        system.registry = registry.declareAll codec order) := by
  refine ⟨system.exists_finished, ?_⟩
  intro finished order same
  rw [← finished.outcome_eq, run.outcome_eq, outcome_start codec registry same]

/-- Two threads register for one method at once, the second in the middle of the first. -/
theorem schedule_immaterial_nested :
    ∃ system, Reaches (start .packed {}
        [[.packed .read "gets" 1#32], [.packed .write "gets" 2#32]]) system ∧
      system.Finished ∧
      system.registry = Registry.declareAll .packed {}
        [.packed .write "gets" 2#32, .packed .read "gets" 1#32] := by
  have run (a b c d : Step) : Reaches ⟨{}, [[a, b], [c, d]]⟩
      ⟨({} : Registry).perform [a, c, d, b], [[], []]⟩ :=
    .head (.take {} [] [[c, d]] a [b]) (.head (.take _ [[b]] [] c [d])
      (.head (.take _ [[b]] [] d []) (.head (.take _ [] [[]] b []) .refl)))
  have finished (registry : Registry) : Finished ⟨registry, [[], []]⟩ := by simp [Finished]
  have outcome := schedule_immaterial .packed {}
    [[.packed .read "gets" 1#32], [.packed .write "gets" 2#32]] _ (run _ _ _ _)
  exact ⟨_, run _ _ _ _, finished _, outcome.2 (finished _) _ (.swap _ _ _)⟩

end System
end Caller
end CallDispatch
