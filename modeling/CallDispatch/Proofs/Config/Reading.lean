import CallDispatch.Config
import CallDispatch.Proofs.Json.Layout
import CallDispatch.Proofs.Json.Records
import CallDispatch.Proofs.Text.Padding

namespace CallDispatch.Config
open CallDispatch.Json

variable {source : String} {ms : List (Option String × Value)} {config : Config}

def memberOf? : String → Value → Option (Draft → Draft)
  | "fastops_compile", v => v.boolean?.map fun value draft => { draft with fastOps := some value }
  | "full_trace", v => v.boolean?.map fun value draft => { draft with fullTrace := some value }
  | _, _ => none

theorem decodes_record : record.Decodes memberOf? := by
  intro member hm
  simp only [record, List.mem_cons, List.not_mem_nil, or_false] at hm
  rcases hm with rfl | rfl
  · exact Reader.decodes_boolean.map fun value (draft : Draft) =>
      { draft with fastOps := some value }
  · exact Reader.decodes_boolean.map fun value (draft : Draft) =>
      { draft with fullTrace := some value }

theorem others_of_memberOf? {name : String} {v : Value} {f : Draft → Draft}
    (h : memberOf? name v = some f) (draft : Draft) :
    (name ≠ "fastops_compile" → (f draft).fastOps = draft.fastOps) ∧
      (name ≠ "full_trace" → (f draft).fullTrace = draft.fullTrace) := by
  unfold memberOf? at h
  split at h
  · obtain ⟨value, -, rfl⟩ := Option.map_eq_some_iff.1 h
    exact ⟨fun hne => absurd rfl hne, fun _ => rfl⟩
  · obtain ⟨value, -, rfl⟩ := Option.map_eq_some_iff.1 h
    exact ⟨fun _ => rfl, fun hne => absurd rfl hne⟩
  · cases h

theorem slot_fastOps : record.Slot memberOf? "fastops_compile" Draft.fastOps Value.boolean? := by
  refine .of_set record.members[0] (List.getElem_mem _) (fun _ => rfl) (fun _ => rfl)
    (fun _ _ => rfl) ?_
  intro other _ hne v f draft hf
  exact (others_of_memberOf? hf draft).1 hne

theorem slot_fullTrace : record.Slot memberOf? "full_trace" Draft.fullTrace Value.boolean? := by
  refine .of_set record.members[1] (List.getElem_mem _) (fun _ => rfl) (fun _ => rfl)
    (fun _ _ => rfl) ?_
  intro other _ hne v f draft hf
  exact (others_of_memberOf? hf draft).2 hne

theorem separate_record : record.Separate memberOf? := by
  refine Record.separate_of_slots (by decide) ?_
  intro member hm
  simp only [record, List.mem_cons, List.not_mem_nil, or_false] at hm
  rcases hm with rfl | rfl
  · exact ⟨_, _, _, slot_fastOps⟩
  · exact ⟨_, _, _, slot_fullTrace⟩

theorem ofJson_of_blank (h : Text.trim source = "") :
    ofJson source = .error (.generic "empty dispatch configuration") :=
  if_pos h

theorem ofJson_of_not_blank (h : Text.trim source ≠ "") :
    ofJson source = (record.reader.parse source).mapError .configuration :=
  if_neg h

/-- A text that is not blank is refused, if at all, with an error of the configuration. -/
theorem exists_configuration {error : Error} (h : Text.trim source ≠ "")
    (he : ofJson source = .error error) : ∃ reason, error = .configuration reason := by
  rw [ofJson_of_not_blank h] at he
  cases hp : record.reader.parse source with
  | ok config =>
    rw [hp] at he
    cases he
  | error reason =>
    rw [hp] at he
    cases he
    exact ⟨reason, rfl⟩

theorem generic_iff_blank :
    (∃ reason, ofJson source = .error (.generic reason)) ↔ Text.trim source = "" := by
  constructor
  · intro h
    obtain ⟨reason, hr⟩ := h
    by_cases hb : Text.trim source = ""
    · exact hb
    · obtain ⟨reason', he⟩ := exists_configuration hb hr
      cases he
  · intro h
    exact ⟨_, ofJson_of_blank h⟩

theorem trim_ne_empty (hd : Document (.object ms) source.toList) : Text.trim source ≠ "" := by
  intro h
  exact absurd (Text.trim_eq_empty_iff.1 h '{' hd.brace_mem) (by decide)

theorem toOption_ofJson (h : Text.trim source ≠ "") :
    (ofJson source).toOption = (record.reader.parse source).toOption := by
  rw [ofJson_of_not_blank h]
  cases record.reader.parse source <;> rfl

theorem draft_eq_iff {draft : Draft} {fastOps fullTrace : Option Bool}
    (h : takeAll (record.take memberOf?) record.blank ms = some draft) :
    draft = ⟨fastOps, fullTrace⟩ ↔
      Record.AtMostOnce Value.boolean? (valuesOf "fastops_compile" ms) fastOps ∧
      Record.AtMostOnce Value.boolean? (valuesOf "full_trace" ms) fullTrace := by
  rw [← slot_fastOps.get_eq_iff separate_record rfl h,
    ← slot_fullTrace.get_eq_iff separate_record rfl h]
  cases draft
  simp

/-- All names are Unicode, and each member occurs at most once and with a boolean. -/
theorem ofJson_eq_ok_iff (hd : Document (.object ms) source.toList) :
    ofJson source = .ok config ↔ (∀ m ∈ ms, m.1.isSome = true) ∧ ∃ fastOps fullTrace,
      Record.AtMostOnce Value.boolean? (valuesOf "fastops_compile" ms) fastOps ∧
      Record.AtMostOnce Value.boolean? (valuesOf "full_trace" ms) fullTrace ∧
      config = Draft.finish ⟨fastOps, fullTrace⟩ := by
  have hp := decodes_record.toOption_parse hd
  rw [← toOption_ofJson (trim_ne_empty hd)] at hp
  constructor
  · intro h
    rw [h] at hp
    obtain ⟨draft, ht, hf⟩ := Option.bind_eq_some_iff.1 hp.symm
    have hn := (separate_record.isSome_takeAll_iff.1 (Option.isSome_of_eq_some ht)).1
    obtain ⟨hfast, htrace⟩ := (draft_eq_iff ht).1 rfl
    cases hf
    exact ⟨hn, draft.fastOps, draft.fullTrace, hfast, htrace, rfl⟩
  · intro h
    obtain ⟨hn, fastOps, fullTrace, hfast, htrace, rfl⟩ := h
    have hr : ∀ member ∈ record.members, Record.Readable memberOf? record.blank ms member := by
      intro member hm
      have hm' := hm
      simp only [record, List.mem_cons, List.not_mem_nil, or_false] at hm'
      rcases hm' with he | he
      · exact slot_fastOps.readable_of_atMostOnce separate_record rfl hfast hm
          (congrArg Member.name he)
      · exact slot_fullTrace.readable_of_atMostOnce separate_record rfl htrace hm
          (congrArg Member.name he)
    have hs := separate_record.isSome_takeAll_iff.2 ⟨hn, hr⟩
    obtain ⟨draft, ht⟩ := Option.isSome_iff_exists.1 hs
    have he := (draft_eq_iff ht).2 ⟨hfast, htrace⟩
    subst he
    apply eq_ok_of_toOption
    rw [hp, ht]
    rfl

def memberNames : List String := ["fastops_compile", "full_trace"]

theorem atMostOnce_boolean {vs : List Value} {x : Option Bool}
    (h : vs = (x.map Value.boolean).toList) : Record.AtMostOnce Value.boolean? vs x := by
  subst h
  cases x <;> rfl

theorem exists_atMostOnce (hd : Document (.object ms) source.toList)
    (h : ofJson source = .ok config) {name : String} (hn : name ∈ memberNames) :
    ∃ x, Record.AtMostOnce Value.boolean? (valuesOf name ms) x := by
  obtain ⟨-, fastOps, fullTrace, hfast, htrace, -⟩ := (ofJson_eq_ok_iff hd).1 h
  simp only [memberNames, List.mem_cons, List.not_mem_nil, or_false] at hn
  rcases hn with rfl | rfl
  · exact ⟨_, hfast⟩
  · exact ⟨_, htrace⟩

/-- How a text is read as a configuration, and with which error it is refused. -/
theorem ofJson_outcomes (source : String) :
    ((∃ reason, ofJson source = .error (.generic reason)) ↔ Text.trim source = "") ∧
    (Text.trim source = "" ↔ ∀ c ∈ source.toList, Text.isBlank c = true) ∧
    (∀ error, ofJson source = .error error → Text.trim source ≠ "" →
      ∃ reason, error = .configuration reason) ∧
    ∀ ms, Document (.object ms) source.toList → (∀ m ∈ ms, m.1.isSome = true) →
      (∀ fastOps fullTrace : Option Bool,
        valuesOf "fastops_compile" ms = (fastOps.map Value.boolean).toList →
        valuesOf "full_trace" ms = (fullTrace.map Value.boolean).toList →
        ofJson source = .ok ⟨fastOps.getD true, fullTrace.getD false⟩) ∧
      ∀ name ∈ memberNames,
        (1 < (valuesOf name ms).length ∨
          ∃ v ∈ valuesOf name ms, ∀ value, v ≠ .boolean value) →
        ∃ reason, ofJson source = .error (.configuration reason) := by
  refine ⟨generic_iff_blank, Text.trim_eq_empty_iff, ?_, ?_⟩
  · intro error he hb
    exact exists_configuration hb he
  · intro ms hd hn
    constructor
    · intro fastOps fullTrace hfast htrace
      exact (ofJson_eq_ok_iff hd).2
        ⟨hn, fastOps, fullTrace, atMostOnce_boolean hfast, atMostOnce_boolean htrace, rfl⟩
    · intro name hm h
      cases ho : ofJson source with
      | error error =>
        obtain ⟨reason, rfl⟩ := exists_configuration (trim_ne_empty hd) ho
        exact ⟨reason, rfl⟩
      | ok config =>
        obtain ⟨x, hx⟩ := exists_atMostOnce hd ho hm
        rcases h with hl | ⟨v, hv, hne⟩
        · exact absurd hx.length_le (Nat.not_le_of_lt hl)
        · obtain ⟨value, hb⟩ := hx.exists_eq_some hv
          exact absurd (Value.eq_of_boolean? hb) (hne value)

/-- A layout with one of the two members, behind one of another name. -/
def tracedLayout : List Char :=
  Layout.object 0
    [("note", Layout.list 1 [Layout.quoted "fastops_compile"]),
      ("full_trace", ['t', 'r', 'u', 'e'])]

def tracedMembers : List (Option String × Value) :=
  [(some "note", .list [.string (some "fastops_compile")]), (some "full_trace", .boolean true)]

theorem spells_traced : Spells tracedLayout (.object tracedMembers) :=
  spells_object
    (.cons ⟨rfl, spells_list (.cons (spells_quoted _) .nil) 1⟩ <|
      .cons ⟨rfl, fun r => .true r⟩ .nil) 0

theorem ofJson_outcomes_traced :
    Document (.object tracedMembers) (String.ofList tracedLayout).toList ∧
    (∀ m ∈ tracedMembers, m.1.isSome = true) ∧
    valuesOf "fastops_compile" tracedMembers = [] ∧
    valuesOf "full_trace" tracedMembers = [.boolean true] ∧
    ofJson (String.ofList tracedLayout) = .ok ⟨true, true⟩ := by
  have hd : Document (.object tracedMembers) (String.ofList tracedLayout).toList := by
    rw [String.toList_ofList]
    exact spells_traced.document
  have hn : ∀ m ∈ tracedMembers, m.1.isSome = true := by simp [tracedMembers]
  have hf : valuesOf "fastops_compile" tracedMembers = [] := by simp [tracedMembers, valuesOf]
  have ht : valuesOf "full_trace" tracedMembers = [.boolean true] := by
    simp [tracedMembers, valuesOf]
  obtain ⟨accepted, -⟩ := (ofJson_outcomes _).2.2.2 tracedMembers hd hn
  exact ⟨hd, hn, hf, ht, accepted none (some true) hf ht⟩

end CallDispatch.Config
