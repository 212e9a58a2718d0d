import CallDispatch.Proofs.Caller.Registrations
import CallDispatch.Proofs.Caller.Snapshot.Reading
import CallDispatch.Proofs.Caller.Threads
import Mathlib.Data.String.Basic
import Mathlib.Tactic.TFAE

namespace CallDispatch.Caller

variable {registry other : Registry}

namespace System
variable {system next : System}

structure Filling (system : System) : Prop where
  filled : system.registry.Filled
  fills : ∀ steps ∈ system.threads, ∀ step ∈ steps, step.Fills

theorem filling_start (codec : Codec) (threads : List (List Declaration)) :
    (start codec {} threads).Filling := by
  refine ⟨Registry.filled_new, ?_⟩
  intro steps hs step hm
  obtain ⟨declarations, -, rfl⟩ := List.mem_map.1 hs
  obtain ⟨declaration, -, hm⟩ := List.mem_flatMap.1 hm
  exact declaration.fills codec step hm

theorem Filling.moves (h : system.Filling) (hm : Moves system next) : next.Filling := by
  cases hm with
  | take registry before after step steps =>
    have hs : ∀ s ∈ step :: steps, s.Fills := h.fills _ (by simp)
    refine ⟨h.filled.apply (hs step List.mem_cons_self), ?_⟩
    intro thread ht
    rcases mem_of_taken step ht with rfl | ht
    · exact fun s hm => hs s (List.mem_cons_of_mem _ hm)
    · exact h.fills thread ht

end System

namespace Registry

/-- A registry that threads with one codec come by, perhaps in the middle of their work. -/
def Reachable (registry : Registry) : Prop :=
  ∃ codec threads system, System.Reaches (System.start codec {} threads) system ∧
    system.registry = registry

theorem Reachable.filled (h : registry.Reachable) : registry.Filled := by
  obtain ⟨codec, threads, system, run, rfl⟩ := h
  exact (run.preserves System.Filling.moves (System.filling_start codec threads)).filled

theorem reachable_declareAll (codec : Codec) (declarations : List Declaration) :
    (declareAll codec {} declarations).Reachable := by
  obtain ⟨final, run, finished⟩ := (System.start codec {} [declarations]).exists_finished
  refine ⟨codec, [declarations], final, run, ?_⟩
  rw [← finished.outcome_eq, run.outcome_eq]
  exact System.outcome_start codec {} (by simp)

theorem Filled.getElem?_accesses (h : registry.Filled) (usage : Usage) (name : String) :
    (registry.accesses usage)[name]? =
      if registry.fields usage name = ∅ then none else some (registry.fields usage name) := by
  cases he : (registry.accesses usage)[name]? with
  | none => simp [Registry.fields, he]
  | some fields =>
    have hm : name ∈ registry.accesses usage := by
      rw [Std.ExtTreeMap.mem_iff_isSome_getElem?, he]
      rfl
    obtain ⟨field, hf⟩ := h usage name hm
    rw [if_neg (Std.ExtTreeSet.ne_empty_of_mem hf), Registry.fields, he]
    rfl

/-- In a registry without empty entries, what can be asked of it is all there is. -/
theorem Filled.eq_of_same (h : registry.Filled) (ho : other.Filled)
    (aware : ∀ context name, registry.isAware context name = other.isAware context name)
    (fields : ∀ usage name, registry.fields usage name = other.fields usage name) :
    registry = other := by
  refine Registry.eq_of_same aware ?_ fields
  intro usage name
  rw [Std.ExtTreeMap.mem_iff_isSome_getElem?, Std.ExtTreeMap.mem_iff_isSome_getElem?,
    h.getElem?_accesses, ho.getElem?_accesses, fields]

end Registry

namespace Snapshot

def aware (snapshot : Snapshot) : Context → List String
  | .frame => snapshot.frameAware
  | .scope => snapshot.scopeAware

def accesses (snapshot : Snapshot) : Usage → Table String FieldSet
  | .read => snapshot.reads
  | .write => snapshot.writes

end Snapshot

namespace Registry

theorem aware_snapshot (registry : Registry) (context : Context) :
    registry.snapshot.aware context = (registry.aware context).toList := by
  cases context <;> rfl

theorem accesses_snapshot (registry : Registry) (usage : Usage) :
    registry.snapshot.accesses usage = registry.accesses usage := by
  cases usage <;> rfl

theorem mem_aware_snapshot (registry : Registry) (context : Context) (name : String) :
    name ∈ registry.snapshot.aware context ↔ registry.isAware context name = true := by
  rw [aware_snapshot, Std.ExtTreeSet.mem_toList]
  exact Std.ExtTreeSet.mem_iff_contains

theorem pairwise_aware_snapshot (registry : Registry) (context : Context) :
    (registry.snapshot.aware context).Pairwise (· < ·) := by
  rw [aware_snapshot]
  apply Std.ExtTreeSet.ordered_toList.imp
  intro name name' h
  exact compareOfLessAndEq_eq_lt.1 h

theorem isAware_eq_of_snapshot_eq (h : registry.snapshot = other.snapshot) (context : Context)
    (name : String) : registry.isAware context name = other.isAware context name := by
  rw [Bool.eq_iff_iff, ← mem_aware_snapshot, ← mem_aware_snapshot, h]

theorem fields_eq_of_snapshot_eq (h : registry.snapshot = other.snapshot) (usage : Usage)
    (name : String) : registry.fields usage name = other.fields usage name := by
  rw [Registry.fields, Registry.fields, ← accesses_snapshot, ← accesses_snapshot, h]

theorem mergeSort_eq (context : Context) {names : List String}
    (h : names.Perm (registry.aware context).toList) :
    names.mergeSort = (registry.aware context).toList := by
  have hs : names.mergeSort.Pairwise (· ≤ ·) := by
    have hd : names.mergeSort.Pairwise fun name name' => decide (name ≤ name') = true :=
      List.pairwise_mergeSort (by simpa using fun _ _ _ => String.le_trans)
        (by simpa using String.le_total) names
    simpa using hd
  have ht : (registry.aware context).toList.Pairwise (· ≤ ·) := by
    rw [← aware_snapshot]
    exact (registry.pairwise_aware_snapshot context).imp le_of_lt
  exact ((List.mergeSort_perm names _).trans h).eq_of_pairwise
    (fun _ _ _ _ => String.le_antisymm) hs ht

theorem snapshot_of_listings {frame scope : List String}
    {reads writes : List (String × FieldSet)} (hf : frame.Perm registry.frameAware.toList)
    (hs : scope.Perm registry.scopeAware.toList) (hr : reads.Perm registry.reads.toList)
    (hw : writes.Perm registry.writes.toList) :
    registry.snapshot =
      ⟨frame.mergeSort, scope.mergeSort, Std.ExtTreeMap.ofList reads,
        Std.ExtTreeMap.ofList writes⟩ := by
  rw [Table.ofList_of_perm hr, Table.ofList_of_perm hw, mergeSort_eq .frame hf,
    mergeSort_eq .scope hs]
  rfl

/-- Registries that answer alike have one snapshot and one text, however they are listed. -/
theorem snapshot_canonical (h : registry.Reachable) (ho : other.Reachable) :
    (∀ (frame scope : List String) (reads writes : List (String × FieldSet)),
      frame.Perm registry.frameAware.toList → scope.Perm registry.scopeAware.toList →
      reads.Perm registry.reads.toList → writes.Perm registry.writes.toList →
      registry.snapshot = ⟨frame.mergeSort, scope.mergeSort, .ofList reads, .ofList writes⟩) ∧
    (∀ context, (registry.snapshot.aware context).Pairwise (· < ·) ∧
      (∀ name, name ∈ registry.snapshot.aware context ↔ registry.isAware context name = true) ∧
      (registry.snapshot.aware context).length = registry.awareCount context) ∧
    (∀ usage name, (registry.snapshot.accesses usage)[name]? =
      if registry.fields usage name = ∅ then none else some (registry.fields usage name)) ∧
    List.TFAE
      [(∀ context name, registry.isAware context name = other.isAware context name) ∧
        ∀ usage name, registry.fields usage name = other.fields usage name,
      registry.snapshot = other.snapshot,
      registry.snapshot.toJson = other.snapshot.toJson] := by
  refine ⟨?_, ?_, ?_, ?_⟩
  · intro frame scope reads writes hf hs hr hw
    exact snapshot_of_listings hf hs hr hw
  · intro context
    refine ⟨registry.pairwise_aware_snapshot context, registry.mem_aware_snapshot context, ?_⟩
    rw [aware_snapshot]
    exact Std.ExtTreeSet.length_toList
  · intro usage name
    rw [accesses_snapshot]
    exact h.filled.getElem?_accesses usage name
  · tfae_have 1 → 2 := fun same => congrArg snapshot (h.filled.eq_of_same ho.filled same.1 same.2)
    tfae_have 2 → 3 := congrArg Snapshot.toJson
    tfae_have 3 → 1 := fun same =>
      ⟨isAware_eq_of_snapshot_eq (Snapshot.toJson_injective same),
        fields_eq_of_snapshot_eq (Snapshot.toJson_injective same)⟩
    tfae_finish

/-- Two methods that read a field of the scope, registered in descending order. -/
def sendAndEval : Declaration :=
  .packed .read "send;eval" 1#32

/-- With the default codec, and with another one and the needs listed by hand. -/
theorem snapshot_canonical_listed :
    (declareAll .packed {} [sendAndEval]).Reachable ∧
    (declareAll .needless {} [sendAndEval, .aware .scope ["send", "eval"]]).Reachable ∧
    ["send", "eval"].Perm (declareAll .packed {} [sendAndEval]).scopeAware.toList ∧
    (declareAll .packed {} [sendAndEval]).snapshot.scopeAware = ["send", "eval"].mergeSort ∧
    (declareAll .packed {} [sendAndEval]).snapshot.toJson =
      (declareAll .needless {} [sendAndEval, .aware .scope ["send", "eval"]]).snapshot.toJson := by
  have hr := reachable_declareAll .packed [sendAndEval]
  have ho := reachable_declareAll .needless [sendAndEval, .aware .scope ["send", "eval"]]
  have same : declareAll .packed {} [sendAndEval] =
      declareAll .needless {} [sendAndEval, .aware .scope ["send", "eval"]] :=
    rfl
  have hs : ["send", "eval"].Perm (declareAll .packed {} [sendAndEval]).scopeAware.toList := by
    decide
  obtain ⟨sorted, -, -, alike⟩ := snapshot_canonical hr ho
  have listed := sorted [] ["send", "eval"] _ _ (.refl _) hs (.refl _) (.refl _)
  refine ⟨hr, ho, hs, congrArg Snapshot.scopeAware listed, (alike.out 0 2).1 ?_⟩
  rw [same]
  exact ⟨fun _ _ => rfl, fun _ _ => rfl⟩

end Registry

end CallDispatch.Caller
