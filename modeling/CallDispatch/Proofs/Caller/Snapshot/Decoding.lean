import CallDispatch.Caller.Snapshot
import CallDispatch.Proofs.Json.Layout
import CallDispatch.Proofs.Json.Records

namespace CallDispatch.Caller
open CallDispatch.Json

namespace Field

/-- The field that a value names, by itself or with null as what it carries. -/
def ofValue? : Value → Option Field
  | .string name => name.bind ofName?
  | .object [(name, v)] => (name.bind ofName?).bind fun field => v.null?.map fun _ => field
  | _ => none

variable {s s' r : List Char}

theorem toOption_readName {pieces : List Piece} (h : Quoted pieces s r) :
    (readName s).toOption = ((text? pieces).bind ofName?).map (·, r) := by
  rw [readName, toOption_bind, h.toOption_text]
  cases text? pieces with
  | none => rfl
  | some name =>
    simp only [Option.map_some, Option.bind_some]
    cases ofName? name <;> rfl

theorem toOption_closeTag {ms : List (Option String × Value)} (h : Members false ms s r) :
    (closeTag s).toOption = if ms = [] then some r else none := by
  cases h with
  | noMember hb =>
    rw [closeTag, hb.skipBlanks_cons rfl]
    rfl
  | member hs =>
    obtain ⟨s', hb, -⟩ := hs
    rw [closeTag, hb.skipBlanks_cons rfl]
    rfl

theorem toOption_readTagged {ms : List (Option String × Value)} (h : Members true ms s r) :
    (readTagged s).toOption = (ofValue? (.object ms)).map (·, r) := by
  cases h with
  | noMember hb =>
    rw [readTagged, hb.skipBlanks_cons rfl]
    rfl
  | @member _ pieces v ms _ s₁ s₂ s₃ s₄ s₅ _ hs hn hc hb hv hms =>
    rw [readTagged, Blanks.skipBlanks_cons hs rfl]
    change (readName s₁ >>= _).toOption = _
    rw [toOption_bind, toOption_readName hn]
    cases hf : (text? pieces).bind ofName? with
    | none => cases ms <;> simp [ofValue?, hf]
    | some field =>
      simp only [Option.map_some, Option.bind_some, hc.colon_eq]
      change (Reader.null.read s₃ >>= _).toOption = _
      rw [toOption_bind, Reader.decodes_null hb hv hms.stops]
      cases hnull : v.null? with
      | none => cases ms <;> simp [ofValue?, hnull]
      | some =>
        simp only [Option.map_some, Option.bind_some, toOption_bind, toOption_closeTag hms]
        cases ms with
        | nil => simp [ofValue?, hf, hnull, Except.toOption]
        | cons => rfl

theorem reader_refuses {c : Char} (h : skipBlanks s = c :: r) (hq : c ≠ '"') (ho : c ≠ '{') :
    (reader.read s).toOption = none := by
  simp only [reader, h]
  split
  · rfl
  · next he =>
    cases he
    exact absurd rfl hq
  · next he =>
    cases he
    exact absurd rfl ho
  · rfl

theorem decodes_reader : reader.Decodes ofValue? := by
  intro v s s' r hb hv hr
  obtain ⟨c, s', rfl, hc⟩ := hv.opens
  have hs := hb.skipBlanks_cons hc.isBlank_eq
  cases hv with
  | string h =>
    simp only [reader, hs]
    exact toOption_readName h
  | object hms =>
    simp only [reader, hs]
    exact toOption_readTagged hms
  | number =>
    exact reader_refuses hs (hc.ne_of_number (by decide) rfl) (hc.ne_of_number (by decide) rfl)
  | _ => exact reader_refuses hs (by decide) (by decide)

end Field

namespace Snapshot

def namesOf? : Value → Option (List String) :=
  Value.listOf? Value.string?

def fieldsOf? (v : Value) : Option FieldSet :=
  (Value.listOf? Field.ofValue? v).map (Std.ExtTreeSet.ofList ·)

def tableOf? : Value → Option (Table String FieldSet) :=
  Value.objectOf? fieldsOf?

theorem decodes_namesReader : namesReader.Decodes namesOf? :=
  Reader.decodes_string.listOf

theorem decodes_tableReader : tableReader.Decodes tableOf? :=
  (Field.decodes_reader.listOf.map _).objectOf

def memberOf? : String → Value → Option (Draft → Draft)
  | "frame_aware", v => (namesOf? v).map fun names draft => { draft with frameAware := some names }
  | "scope_aware", v => (namesOf? v).map fun names draft => { draft with scopeAware := some names }
  | "reads", v => (tableOf? v).map fun table draft => { draft with reads := some table }
  | "writes", v => (tableOf? v).map fun table draft => { draft with writes := some table }
  | _, _ => none

theorem decodes_record : record.Decodes memberOf? := by
  intro member hm
  simp only [record, List.mem_cons, List.not_mem_nil, or_false] at hm
  rcases hm with rfl | rfl | rfl | rfl
  · exact decodes_namesReader.map fun names (draft : Draft) =>
      { draft with frameAware := some names }
  · exact decodes_namesReader.map fun names (draft : Draft) =>
      { draft with scopeAware := some names }
  · exact decodes_tableReader.map fun table (draft : Draft) => { draft with reads := some table }
  · exact decodes_tableReader.map fun table (draft : Draft) => { draft with writes := some table }

/-- A member leaves the places of the others in a draft as they are. -/
theorem others_of_memberOf? {name : String} {v : Value} {f : Draft → Draft}
    (h : memberOf? name v = some f) (draft : Draft) :
    (name ≠ "frame_aware" → (f draft).frameAware = draft.frameAware) ∧
    (name ≠ "scope_aware" → (f draft).scopeAware = draft.scopeAware) ∧
    (name ≠ "reads" → (f draft).reads = draft.reads) ∧
    (name ≠ "writes" → (f draft).writes = draft.writes) := by
  unfold memberOf? at h
  split at h
  · obtain ⟨names, -, rfl⟩ := Option.map_eq_some_iff.1 h
    exact ⟨fun hne => absurd rfl hne, fun _ => rfl, fun _ => rfl, fun _ => rfl⟩
  · obtain ⟨names, -, rfl⟩ := Option.map_eq_some_iff.1 h
    exact ⟨fun _ => rfl, fun hne => absurd rfl hne, fun _ => rfl, fun _ => rfl⟩
  · obtain ⟨table, -, rfl⟩ := Option.map_eq_some_iff.1 h
    exact ⟨fun _ => rfl, fun _ => rfl, fun hne => absurd rfl hne, fun _ => rfl⟩
  · obtain ⟨table, -, rfl⟩ := Option.map_eq_some_iff.1 h
    exact ⟨fun _ => rfl, fun _ => rfl, fun _ => rfl, fun hne => absurd rfl hne⟩
  · cases h

theorem slot_frameAware : record.Slot memberOf? "frame_aware" Draft.frameAware namesOf? := by
  refine .of_set record.members[0] (List.getElem_mem _) (fun _ => rfl) (fun _ => rfl)
    (fun _ _ => rfl) ?_
  intro other _ hne v f draft hf
  exact (others_of_memberOf? hf draft).1 hne

theorem slot_scopeAware : record.Slot memberOf? "scope_aware" Draft.scopeAware namesOf? := by
  refine .of_set record.members[1] (List.getElem_mem _) (fun _ => rfl) (fun _ => rfl)
    (fun _ _ => rfl) ?_
  intro other _ hne v f draft hf
  exact (others_of_memberOf? hf draft).2.1 hne

theorem slot_reads : record.Slot memberOf? "reads" Draft.reads tableOf? := by
  refine .of_set record.members[2] (List.getElem_mem _) (fun _ => rfl) (fun _ => rfl)
    (fun _ _ => rfl) ?_
  intro other _ hne v f draft hf
  exact (others_of_memberOf? hf draft).2.2.1 hne

theorem slot_writes : record.Slot memberOf? "writes" Draft.writes tableOf? := by
  refine .of_set record.members[3] (List.getElem_mem _) (fun _ => rfl) (fun _ => rfl)
    (fun _ _ => rfl) ?_
  intro other _ hne v f draft hf
  exact (others_of_memberOf? hf draft).2.2.2 hne

theorem separate_record : record.Separate memberOf? := by
  refine Record.separate_of_slots (by decide) ?_
  intro member hm
  simp only [record, List.mem_cons, List.not_mem_nil, or_false] at hm
  rcases hm with rfl | rfl | rfl | rfl
  · exact ⟨_, _, _, slot_frameAware⟩
  · exact ⟨_, _, _, slot_scopeAware⟩
  · exact ⟨_, _, _, slot_reads⟩
  · exact ⟨_, _, _, slot_writes⟩

def namesValue (names : List String) : Value :=
  .list (names.map fun name => .string (some name))

def fieldsValue (fields : List Field) : Value :=
  .list (fields.map fun field => .string (some field.name))

def tableValue (entries : List (String × List Field)) : Value :=
  .object (entries.map fun entry => (some entry.1, fieldsValue entry.2))

/-- The table with some entries, of which the last one with a key counts. -/
def tableFrom (entries : List (String × List Field)) : Table String FieldSet :=
  .ofList (entries.map fun entry => (entry.1, Std.ExtTreeSet.ofList entry.2))

theorem getElem?_tableFrom (entries : List (String × List Field)) (name : String) :
    (tableFrom entries)[name]? =
      (entries.reverse.lookup name).map (Std.ExtTreeSet.ofList ·) := by
  rw [tableFrom, Table.getElem?_ofList, ← List.map_reverse]
  exact Table.lookup_map (Std.ExtTreeSet.ofList · : List Field → FieldSet) entries.reverse name

theorem namesOf?_namesValue (names : List String) : namesOf? (namesValue names) = some names := by
  have hn : ∀ name : String, Value.string? (.string (some name)) = some name := fun _ => rfl
  have h := Value.listOf?_map hn names
  rwa [List.map_id'] at h

theorem fieldsOf?_fieldsValue (fields : List Field) :
    fieldsOf? (fieldsValue fields) = some (.ofList fields) := by
  have hf : ∀ field : Field, Field.ofValue? (.string (some field.name)) = some field :=
    Field.ofName?_name
  have h := Value.listOf?_map hf fields
  rw [fieldsOf?, fieldsValue, h, List.map_id', Option.map_some]

theorem tableOf?_tableValue (entries : List (String × List Field)) :
    tableOf? (tableValue entries) = some (tableFrom entries) :=
  Value.objectOf?_map fieldsOf?_fieldsValue entries

theorem spells_names (names : List String) : Spells (namesLayout names) (namesValue names) :=
  spells_list_map spells_quoted names 1

def fieldsLayout (fields : List Field) : List Char :=
  Layout.list 2 (fields.map fun field => Layout.quoted field.name)

theorem spells_fields (fields : List Field) :
    Spells (fieldsLayout fields) (fieldsValue fields) := by
  have h : ∀ field : Field, Spells (Layout.quoted field.name) (.string (some field.name)) :=
    fun field => spells_quoted field.name
  exact spells_list_map h fields 2

def entriesLayout (entries : List (String × List Field)) : List Char :=
  Layout.object 1 (entries.map fun entry => (entry.1, fieldsLayout entry.2))

theorem spells_entries (entries : List (String × List Field)) :
    Spells (entriesLayout entries) (tableValue entries) := by
  apply spells_object
  rw [List.forall₂_map_left_iff, List.forall₂_map_right_iff]
  exact List.forall₂_same.2 fun entry _ => ⟨rfl, spells_fields entry.2⟩

end Snapshot
end CallDispatch.Caller
