import CallDispatch.Basic
import Mathlib.Data.Finset.Card

namespace CallDispatch

theorem length_eq_card {κ : Type} [DecidableEq κ] {listing values : List κ}
    (distinct : listing.Nodup) (same : ∀ value, value ∈ listing ↔ value ∈ values) :
    listing.length = values.toFinset.card := by
  rw [← List.toFinset_card_of_nodup distinct]
  congr 1
  ext value
  rw [List.mem_toFinset, List.mem_toFinset, same]

/-- What a fold puts into a collection, where each of its steps only adds. -/
theorem mem_foldl_iff {σ γ κ : Type} [Membership κ σ] {step : σ → γ → σ} {adds : γ → κ → Prop}
    (mem_step : ∀ s c k, k ∈ step s c ↔ adds c k ∨ k ∈ s) (s : σ) (cs : List γ) (k : κ) :
    k ∈ cs.foldl step s ↔ (∃ c ∈ cs, adds c k) ∨ k ∈ s := by
  induction cs generalizing s with
  | nil => simp
  | cons c cs ih =>
    rw [List.foldl_cons, ih, mem_step]
    simp only [List.mem_cons, or_and_right, exists_or, exists_eq_left, or_assoc, or_left_comm]

namespace Table

inductive Call (κ α : Type)
  | upsert (key : κ) (update : α → α)
  /-- A call that only reads: one entry, their number, or all of them. -/
  | read

section
variable {κ α : Type}

def Call.key? : Call κ α → Option κ
  | upsert key _ => some key
  | read => none

def Call.update? [DecidableEq κ] (key : κ) : Call κ α → Option (α → α)
  | upsert other update => if other = key then some update else none
  | read => none

def keysOf (calls : List (Call κ α)) : List κ :=
  calls.filterMap Call.key?

/-- The default value after just those updates that are meant for a key. -/
def replay [DecidableEq κ] [Inhabited α] (key : κ) (calls : List (Call κ α)) : α :=
  (calls.filterMap (Call.update? key)).foldl (fun a update => update a) default

end

variable {κ α : Type} [Ord κ] [Std.TransOrd κ] [Std.LawfulEqOrd κ]

/-- However the entries of a table are listed, each key is listed once and with its entry. -/
theorem nodup_and_mem_of_perm {table : Table κ α} {entries : List (κ × α)}
    (h : entries.Perm table.toList) :
    (entries.map Prod.fst).Nodup ∧ ∀ key a, (key, a) ∈ entries ↔ table[key]? = some a := by
  constructor
  · rw [(h.map Prod.fst).nodup_iff, Std.ExtTreeMap.map_fst_toList_eq_keys]
    exact Std.ExtTreeMap.nodup_keys
  · intro key a
    rw [h.mem_iff, Std.ExtTreeMap.mem_toList_iff_getElem?_eq_some]

variable [Inhabited α]

def perform (table : Table κ α) : Call κ α → Table κ α
  | .upsert key update => table.upsert key update
  | .read => table

def run (table : Table κ α) (calls : List (Call κ α)) : Table κ α :=
  calls.foldl perform table

omit [Std.LawfulEqOrd κ] in
theorem run_cons (table : Table κ α) (call : Call κ α) (calls : List (Call κ α)) :
    table.run (call :: calls) = (table.perform call).run calls :=
  rfl

theorem mem_perform (table : Table κ α) (call : Call κ α) (key : κ) :
    key ∈ table.perform call ↔ call.key? = some key ∨ key ∈ table := by
  cases call with
  | upsert other update => rw [perform, mem_upsert, Call.key?, Option.some_inj]
  | read => simp [perform, Call.key?]

theorem mem_run (table : Table κ α) (calls : List (Call κ α)) (key : κ) :
    key ∈ table.run calls ↔ key ∈ keysOf calls ∨ key ∈ table := by
  rw [run, mem_foldl_iff mem_perform, keysOf, List.mem_filterMap]

theorem mem_run_new {calls : List (Call κ α)} {key : κ} :
    key ∈ run ∅ calls ↔ key ∈ keysOf calls := by
  rw [mem_run, or_iff_left Std.ExtTreeMap.not_mem_empty]

theorem isEmpty_run_new {calls : List (Call κ α)} :
    (run ∅ calls).isEmpty = true ↔ keysOf calls = [] := by
  rw [Std.ExtTreeMap.isEmpty_iff, Std.ExtTreeMap.eq_empty_iff_forall_not_mem,
    List.eq_nil_iff_forall_not_mem]
  simp only [mem_run_new]

theorem getElem?_run_new_eq_none_iff {calls : List (Call κ α)} {key : κ} :
    (run ∅ calls)[key]? = none ↔ key ∉ keysOf calls := by
  rw [← mem_run_new, Std.ExtTreeMap.mem_iff_isSome_getElem?, Bool.not_eq_true,
    Option.isSome_eq_false_iff, Option.isNone_iff_eq_none]

variable [DecidableEq κ]

theorem getD_perform (table : Table κ α) (call : Call κ α) (key : κ) :
    (table.perform call)[key]?.getD default =
      (call.update? key).getD id (table[key]?.getD default) := by
  cases call with
  | upsert other update =>
    rw [perform, getElem?_upsert, Call.update?]
    by_cases h : other = key <;> simp [h]
  | read => rfl

theorem getD_run (table : Table κ α) (calls : List (Call κ α)) (key : κ) :
    (table.run calls)[key]?.getD default =
      (calls.filterMap (Call.update? key)).foldl (fun a update => update a)
        (table[key]?.getD default) := by
  induction calls generalizing table with
  | nil => rfl
  | cons call calls ih =>
    rw [run_cons, ih, getD_perform]
    cases h : call.update? key with
    | none => rw [List.filterMap_cons_none h, Option.getD_none, id]
    | some update => rw [List.filterMap_cons_some h, Option.getD_some, List.foldl_cons]

variable {calls : List (Call κ α)}

theorem getElem?_run_new_eq_some_iff {key : κ} {a : α} :
    (run ∅ calls)[key]? = some a ↔ key ∈ keysOf calls ∧ a = replay key calls := by
  have hd : (run ∅ calls)[key]?.getD default = replay key calls := by
    rw [getD_run, Std.ExtTreeMap.getElem?_empty]
    rfl
  rw [← mem_run_new, Std.ExtTreeMap.mem_iff_isSome_getElem?, ← hd]
  cases (run ∅ calls)[key]? with
  | none => simp
  | some a' => simp [eq_comm]

theorem size_run_new : (run ∅ calls).size = (keysOf calls).toFinset.card := by
  rw [← Std.ExtTreeMap.length_keys]
  apply length_eq_card Std.ExtTreeMap.nodup_keys
  intro key
  rw [Std.ExtTreeMap.mem_keys, mem_run_new]

end Table

namespace Roster

inductive Call (κ : Type)
  | enroll (value : κ)
  | enrollAll (values : List κ)
  /-- A call that only reads: whether a value is there, how many are, or all of them. -/
  | read

def Call.values {κ : Type} : Call κ → List κ
  | enroll value => [value]
  | enrollAll values => values
  | read => []

def valuesOf {κ : Type} (calls : List (Call κ)) : List κ :=
  calls.flatMap Call.values

variable {κ : Type} [Ord κ] [Std.TransOrd κ]

def perform (roster : Roster κ) : Call κ → Roster κ
  | .enroll value => (roster.enroll value).2
  | .enrollAll values => roster.enrollAll values
  | .read => roster

def run (roster : Roster κ) (calls : List (Call κ)) : Roster κ :=
  calls.foldl perform roster

variable [Std.LawfulEqOrd κ]

theorem mem_enroll (roster : Roster κ) (value other : κ) :
    other ∈ (roster.enroll value).2 ↔ other = value ∨ other ∈ roster := by
  rw [enroll, Std.ExtTreeSet.mem_insert, Std.LawfulEqCmp.compare_eq_iff_eq, eq_comm]

theorem mem_enrollAll (roster : Roster κ) (values : List κ) (other : κ) :
    other ∈ roster.enrollAll values ↔ other ∈ values ∨ other ∈ roster := by
  rw [enrollAll, mem_foldl_iff mem_enroll]
  simp only [exists_eq_right']

theorem mem_perform (roster : Roster κ) (call : Call κ) (other : κ) :
    other ∈ roster.perform call ↔ other ∈ call.values ∨ other ∈ roster := by
  cases call with
  | enroll value => rw [perform, mem_enroll, Call.values, List.mem_singleton]
  | enrollAll values => exact mem_enrollAll roster values other
  | read => simp [perform, Call.values]

theorem mem_run (roster : Roster κ) (calls : List (Call κ)) (other : κ) :
    other ∈ roster.run calls ↔ other ∈ valuesOf calls ∨ other ∈ roster := by
  rw [run, mem_foldl_iff mem_perform, valuesOf, List.mem_flatMap]

section New
variable {calls : List (Call κ)} {value : κ}

theorem mem_run_new : value ∈ run ∅ calls ↔ value ∈ valuesOf calls := by
  rw [mem_run, or_iff_left Std.ExtTreeSet.not_mem_empty]

theorem contains_run_new : (run ∅ calls).contains value = true ↔ value ∈ valuesOf calls := by
  rw [← Std.ExtTreeSet.mem_iff_contains, mem_run_new]

theorem enroll_run_new : ((run ∅ calls).enroll value).1 = true ↔ value ∉ valuesOf calls := by
  rw [enroll, Bool.not_eq_true', ← Bool.not_eq_true, contains_run_new]

theorem isEmpty_run_new : (run ∅ calls).isEmpty = true ↔ valuesOf calls = [] := by
  rw [Std.ExtTreeSet.isEmpty_iff, Std.ExtTreeSet.eq_empty_iff_forall_not_mem,
    List.eq_nil_iff_forall_not_mem]
  simp only [mem_run_new]

theorem nodup_toList (roster : Roster κ) : roster.toList.Nodup :=
  Std.ExtTreeSet.distinct_toList.imp Std.ReflCmp.ne_of_cmp_ne_eq

theorem size_run_new [DecidableEq κ] : (run ∅ calls).size = (valuesOf calls).toFinset.card := by
  rw [← Std.ExtTreeSet.length_toList]
  apply length_eq_card (nodup_toList _)
  intro value
  rw [Std.ExtTreeSet.mem_toList, mem_run_new]

theorem nodup_and_mem_of_perm {roster : Roster κ} {values : List κ}
    (h : values.Perm roster.toList) : values.Nodup ∧ ∀ value, value ∈ values ↔ value ∈ roster := by
  constructor
  · exact h.nodup_iff.2 (nodup_toList roster)
  · intro value
    rw [h.mem_iff, Std.ExtTreeSet.mem_toList]

end New
end Roster

/-- What is read of new collections after any calls, between which there may be other reads. -/
theorem collections_recall_calls {κ α : Type} [Ord κ] [Std.TransOrd κ] [Std.LawfulEqOrd κ]
    [DecidableEq κ] [Inhabited α] :
    (∀ calls : List (Table.Call κ α),
      (∀ key : κ, (Table.run ∅ calls)[key]? = none ↔ key ∉ Table.keysOf calls) ∧
      (∀ key ∈ Table.keysOf calls, (Table.run ∅ calls)[key]? = some (Table.replay key calls)) ∧
      (Table.run ∅ calls).size = (Table.keysOf calls).toFinset.card ∧
      ((Table.run ∅ calls).isEmpty = true ↔ Table.keysOf calls = []) ∧
      ∀ entries : List (κ × α), entries.Perm (Table.run ∅ calls).toList →
        (entries.map Prod.fst).Nodup ∧
        ∀ key a, (key, a) ∈ entries ↔ key ∈ Table.keysOf calls ∧ a = Table.replay key calls) ∧
    ∀ calls : List (Roster.Call κ),
      (∀ value, ((Roster.run ∅ calls).enroll value).1 = true ↔ value ∉ Roster.valuesOf calls) ∧
      (∀ value, (Roster.run ∅ calls).contains value = true ↔ value ∈ Roster.valuesOf calls) ∧
      (Roster.run ∅ calls).size = (Roster.valuesOf calls).toFinset.card ∧
      ((Roster.run ∅ calls).isEmpty = true ↔ Roster.valuesOf calls = []) ∧
      ∀ values : List κ, values.Perm (Roster.run ∅ calls).toList →
        values.Nodup ∧ ∀ value, value ∈ values ↔ value ∈ Roster.valuesOf calls := by
  constructor
  · intro calls
    refine ⟨fun key => Table.getElem?_run_new_eq_none_iff, ?_, Table.size_run_new,
      Table.isEmpty_run_new, ?_⟩
    · intro key hk
      exact Table.getElem?_run_new_eq_some_iff.2 ⟨hk, rfl⟩
    · intro entries he
      obtain ⟨distinct, listed⟩ := Table.nodup_and_mem_of_perm he
      refine ⟨distinct, ?_⟩
      intro key a
      rw [listed, Table.getElem?_run_new_eq_some_iff]
  · intro calls
    refine ⟨fun value => Roster.enroll_run_new, fun value => Roster.contains_run_new,
      Roster.size_run_new, Roster.isEmpty_run_new, ?_⟩
    intro values hv
    obtain ⟨distinct, listed⟩ := Roster.nodup_and_mem_of_perm hv
    refine ⟨distinct, ?_⟩
    intro value
    rw [listed, Roster.mem_run_new]

/-- Updates of two keys. One of them is emptied and filled again, and the other left alone. -/
def emptyingCalls : List (Table.Call String (List Nat)) :=
  [.upsert "gets" (· ++ [1]), .upsert "eval" id, .read, .upsert "gets" fun _ => [],
    .upsert "gets" (· ++ [2])]

/-- A value that is mentioned twice in one call, and another. -/
def gatheringCalls : List (Roster.Call String) :=
  [.enrollAll ["gets", "gets"], .read, .enroll "eval"]

theorem collections_recall_calls_emptied :
    "gets" ∈ Table.keysOf emptyingCalls ∧ "eval" ∈ Table.keysOf emptyingCalls ∧
    (Table.run ∅ emptyingCalls)["gets"]? = some [2] ∧
    (Table.run ∅ emptyingCalls)["eval"]? = some [] ∧
    (Table.run ∅ emptyingCalls).size = 2 ∧
    (Table.run ∅ emptyingCalls).toList.reverse.Perm (Table.run ∅ emptyingCalls).toList ∧
    ("eval", []) ∈ (Table.run ∅ emptyingCalls).toList.reverse ∧
    (Roster.run ∅ gatheringCalls).toList.reverse.Perm (Roster.run ∅ gatheringCalls).toList ∧
    (Roster.run ∅ gatheringCalls).toList.reverse.Nodup := by
  have answers := @collections_recall_calls String (List Nat) _ _ _ _ _
  obtain ⟨-, known, size, -, listed⟩ := answers.1 emptyingCalls
  obtain ⟨-, -, -, -, enlisted⟩ := answers.2 gatheringCalls
  have hg : "gets" ∈ Table.keysOf emptyingCalls := by decide
  have he : "eval" ∈ Table.keysOf emptyingCalls := by decide
  have hp := List.reverse_perm (Table.run ∅ emptyingCalls).toList
  have hr := List.reverse_perm (Roster.run ∅ gatheringCalls).toList
  exact ⟨hg, he, known "gets" hg, known "eval" he, size, hp, ((listed _ hp).2 _ _).2 ⟨he, rfl⟩, hr,
    (enlisted _ hr).1⟩

end CallDispatch
