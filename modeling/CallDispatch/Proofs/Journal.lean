import CallDispatch.Dispatcher
import CallDispatch.Proofs.Text.Quoted
import Mathlib.Data.List.Nodup

namespace CallDispatch

namespace CallSite

theorem Operator.label_injective : Function.Injective Operator.label := by
  intro op other h
  exact List.inj_on_of_nodup_map (f := label) (by decide) (mem_all op) (mem_all other) h

def Kind.initials : Kind → List Char
  | normal _ => ['n', 'o']
  | functional _ => ['f', 'u']
  | «variable» _ => ['v', 'a']
  | super => ['s', 'u']
  | respondTo => ['r', 'e']
  | fast _ => ['f', 'a']

theorem Kind.take_display (kind : Kind) : kind.display.toList.take 2 = kind.initials := by
  cases kind <;> simp [display, initials]

theorem Kind.display_injective : Function.Injective Kind.display := by
  intro kind other h
  have hi : kind.initials = other.initials := by
    rw [← take_display, ← take_display, h]
  cases kind with
  | normal =>
    cases other with
    | normal => exact congrArg normal (Text.enclosed_inj h)
    | _ => simp [initials] at hi
  | functional =>
    cases other with
    | functional => exact congrArg functional (Text.enclosed_inj h)
    | _ => simp [initials] at hi
  | «variable» =>
    cases other with
    | «variable» => exact congrArg «variable» (Text.enclosed_inj h)
    | _ => simp [initials] at hi
  | super =>
    cases other with
    | super => rfl
    | _ => simp [initials] at hi
  | respondTo =>
    cases other with
    | respondTo => rfl
    | _ => simp [initials] at hi
  | fast =>
    cases other with
    | fast => exact congrArg fast (Operator.label_injective (Text.enclosed_inj h))
    | _ => simp [initials] at hi

end CallSite

namespace Caller

/-- No label starts with another one. -/
theorem Field.eq_of_label_begins {field other : Field}
    (h : field.label.toList <+: other.label.toList) : field = other := by
  have hp : ∀ field ∈ all, ∀ other ∈ all, field.label.toList <+: other.label.toList →
      field = other := by decide
  exact hp field (mem_all field) other (mem_all other) h

theorem Field.separable_label : Text.Separable fun field : Field => field.label.toList := by
  intro field other r s h
  have he : field = other := by
    rcases List.prefix_or_prefix_of_prefix ⟨r, h⟩ ⟨s, rfl⟩ with hp | hp
    · exact eq_of_label_begins hp
    · exact (eq_of_label_begins hp).symm
  subst he
  exact ⟨rfl, List.append_cancel_left h⟩

theorem Field.label_ne_empty (field : Field) : field.label ≠ "" := by
  cases field <;> decide

theorem FieldSet.display_injective : Function.Injective FieldSet.display := by
  intro fields others h
  have hl := Field.separable_label.intercalate_inj Field.label_ne_empty (Text.enclosed_inj h)
  exact Std.ExtTreeSet.toList_inj.1 hl

theorem Usage.name_injective : Function.Injective Usage.name := by
  intro usage other h
  cases usage <;> cases other <;> first | rfl | simp [name] at h

end Caller

theorem Event.entry_injective : Function.Injective Event.entry := by
  intro event other h
  cases event with
  | declared usage batch fields needsFrame needsScope =>
    cases other with
    | declared =>
      simp only [entry, Log.Entry.mk.injEq, List.cons.injEq, Prod.mk.injEq,
        Log.Value.text.injEq, Log.Value.flag.injEq, true_and, and_true] at h
      obtain ⟨hu, hb, hf, rfl, rfl⟩ := h
      rw [Caller.Usage.name_injective hu, hb, Caller.FieldSet.display_injective hf]
    | _ => cases congrArg (fun entry => entry.fields.length) h
  | marked context names =>
    cases other with
    | marked context' =>
      simp only [entry, Log.Entry.mk.injEq, List.cons.injEq, Prod.mk.injEq,
        Log.Value.text.injEq, true_and, and_true] at h
      obtain ⟨hc, hn⟩ := h
      rw [Text.quoteAll_injective hn]
      cases context <;> cases context' <;> first | rfl | simp at hc
    | _ => cases congrArg (fun entry => entry.fields.length) h
  | selected name kind =>
    cases other with
    | selected =>
      simp only [entry, Log.Entry.mk.injEq, List.cons.injEq, Prod.mk.injEq,
        Log.Value.text.injEq, true_and, and_true] at h
      obtain ⟨hn, hk⟩ := h
      rw [hn, CallSite.Kind.display_injective hk]
    | _ => cases congrArg (fun entry => entry.fields.length) h

/-- The steps on a registry that come with an event. -/
def Event.steps : Event → List Caller.Step
  | .declared usage batch fields needsFrame needsScope =>
    let names := Caller.Batch.split batch
    if fields.isEmpty then []
    else (if needsFrame then names.map (.mark .frame) else []) ++
      (if needsScope then names.map (.mark .scope) else []) ++ names.map (.add usage · fields)
  | .marked context names => names.map (.mark context)
  | .selected _ _ => []

def Event.kind? : Event → Option CallSite.Kind
  | .selected _ kind => some kind
  | _ => none

theorem Caller.Declaration.steps_event (codec : Codec) (declaration : Declaration) :
    (declaration.event codec).steps = declaration.steps codec := by
  cases declaration <;> rfl

namespace Dispatcher
variable {dispatcher other : Dispatcher} {actions actions' : List Action}

def run (dispatcher : Dispatcher) (actions : List Action) : Dispatcher :=
  actions.foldl perform dispatcher

def trace (dispatcher : Dispatcher) : List Action → List Event
  | [] => []
  | action :: actions => dispatcher.events action ++ (dispatcher.perform action).trace actions

def journal (dispatcher : Dispatcher) (actions : List Action) : List Log.Entry :=
  (dispatcher.trace actions).map Event.entry

def choices (dispatcher : Dispatcher) : List Action → List CallSite.Kind
  | [] => []
  | .select name :: actions =>
    dispatcher.callSite name :: (dispatcher.perform (.select name)).choices actions
  | action :: actions => (dispatcher.perform action).choices actions

theorem registry_perform (dispatcher : Dispatcher) (action : Action) :
    (dispatcher.perform action).registry =
      dispatcher.registry.perform ((dispatcher.events action).flatMap Event.steps) := by
  cases action with
  | declare declaration =>
    rw [events, List.flatMap_singleton, declaration.steps_event]
    rfl
  | select => rfl
  | query => rfl

theorem registry_run (dispatcher : Dispatcher) (actions : List Action) :
    (dispatcher.run actions).registry =
      dispatcher.registry.perform ((dispatcher.trace actions).flatMap Event.steps) := by
  induction actions generalizing dispatcher with
  | nil => rfl
  | cons action actions ih =>
    rw [trace, List.flatMap_append, Caller.Registry.perform_append, ← registry_perform]
    exact ih (dispatcher.perform action)

theorem choices_eq (dispatcher : Dispatcher) (actions : List Action) :
    dispatcher.choices actions = (dispatcher.trace actions).filterMap Event.kind? := by
  induction actions generalizing dispatcher with
  | nil => rfl
  | cons action actions ih =>
    rw [trace, List.filterMap_append, ← ih]
    cases action with
    | declare declaration => cases declaration <;> rfl
    | select => rfl
    | query => rfl

theorem trace_eq_of_journal_eq (h : dispatcher.journal actions = other.journal actions') :
    dispatcher.trace actions = other.trace actions' :=
  List.map_injective_iff.2 Event.entry_injective h

/-- Runs that log the same come to the same snapshot and choose the same kinds of call site. -/
theorem journal_complete (hd : dispatcher.registry = {}) (ho : other.registry = {})
    (same : dispatcher.journal actions = other.journal actions') :
    (dispatcher.run actions).registry.snapshot = (other.run actions').registry.snapshot ∧
      dispatcher.choices actions = other.choices actions' := by
  have ht := trace_eq_of_journal_eq same
  constructor
  · rw [registry_run, registry_run, hd, ho, ht]
  · rw [choices_eq, choices_eq, ht]

def packedActions : List Action :=
  [.declare (.packed .read "eval" 17#32), .select "puts", .declare (.aware .scope ["\"", "\\"]),
    .declare (.packed .write "gets" 0#32)]

/-- The packed actions with words of another codec, and a query before them. -/
def swappedActions : List Action :=
  [.query "eval", .declare (.packed .read "eval" 34#32), .select "puts",
    .declare (.aware .scope ["\"", "\\"]), .declare (.packed .write "gets" 0#32)]

theorem journal_complete_recoded :
    journal {} packedActions =
      journal { config := { fastOps := false }, codec := .swapped } swappedActions ∧
    (run {} packedActions).registry.snapshot =
      (run { config := { fastOps := false }, codec := .swapped } swappedActions).registry.snapshot ∧
    choices {} packedActions =
      choices { config := { fastOps := false }, codec := .swapped } swappedActions := by
  have same : journal {} packedActions =
      journal { config := { fastOps := false }, codec := .swapped } swappedActions := by
    decide
  exact ⟨same, journal_complete rfl rfl same⟩

end Dispatcher
end CallDispatch
