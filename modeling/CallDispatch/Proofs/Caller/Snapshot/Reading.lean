import CallDispatch.Proofs.Caller.Snapshot.Decoding

namespace CallDispatch.Caller.Snapshot
open CallDispatch.Json

variable {source : String} {ms : List (Option String × Value)} {snapshot : Snapshot}

theorem Draft.eq_some_of_required {α : Type} {name : String} {x : Option α} {a : α}
    (h : Draft.finish.required name x = .ok a) : x = some a := by
  cases x with
  | none => cases h
  | some => cases h; rfl

theorem Draft.finish_eq_ok_iff {draft : Draft} : draft.finish = .ok snapshot ↔
    draft.frameAware = some snapshot.frameAware ∧ draft.scopeAware = some snapshot.scopeAware ∧
      draft.reads = some snapshot.reads ∧ draft.writes = some snapshot.writes := by
  obtain ⟨frameAware, scopeAware, reads, writes⟩ := draft
  constructor
  · intro h
    obtain ⟨frame, hf, h⟩ := ok_of_bind h
    obtain ⟨scope, hs, h⟩ := ok_of_bind h
    obtain ⟨read, hr, h⟩ := ok_of_bind h
    obtain ⟨write, hw, h⟩ := ok_of_bind h
    cases h
    exact ⟨eq_some_of_required hf, eq_some_of_required hs, eq_some_of_required hr,
      eq_some_of_required hw⟩
  · intro h
    obtain ⟨rfl, rfl, rfl, rfl⟩ := h
    rfl

theorem exists_generic (h : ∀ snapshot, ofJson source ≠ .ok snapshot) :
    ∃ reason, ofJson source = .error (.generic reason) := by
  cases hp : record.reader.parse source with
  | error reason => exact ⟨reason, by rw [ofJson, hp]; rfl⟩
  | ok snapshot => exact absurd (by rw [ofJson, hp]; rfl) (h snapshot)

theorem toOption_ofJson : (ofJson source).toOption = (record.reader.parse source).toOption := by
  rw [ofJson]
  cases record.reader.parse source <;> rfl

theorem finish_takeAll_eq_ok_iff {draft : Draft}
    (h : takeAll (record.take memberOf?) record.blank ms = some draft) :
    draft.finish = .ok snapshot ↔
      Record.Once namesOf? (valuesOf "frame_aware" ms) snapshot.frameAware ∧
      Record.Once namesOf? (valuesOf "scope_aware" ms) snapshot.scopeAware ∧
      Record.Once tableOf? (valuesOf "reads" ms) snapshot.reads ∧
      Record.Once tableOf? (valuesOf "writes" ms) snapshot.writes := by
  rw [Draft.finish_eq_ok_iff, slot_frameAware.get_eq_some_iff separate_record rfl h,
    slot_scopeAware.get_eq_some_iff separate_record rfl h,
    slot_reads.get_eq_some_iff separate_record rfl h,
    slot_writes.get_eq_some_iff separate_record rfl h]

/-- All names are Unicode, and each member of the snapshot occurs once with a value that decodes. -/
theorem ofJson_eq_ok_iff (hd : Document (.object ms) source.toList) :
    ofJson source = .ok snapshot ↔ (∀ m ∈ ms, m.1.isSome = true) ∧
      Record.Once namesOf? (valuesOf "frame_aware" ms) snapshot.frameAware ∧
      Record.Once namesOf? (valuesOf "scope_aware" ms) snapshot.scopeAware ∧
      Record.Once tableOf? (valuesOf "reads" ms) snapshot.reads ∧
      Record.Once tableOf? (valuesOf "writes" ms) snapshot.writes := by
  have hp := decodes_record.toOption_parse hd
  rw [← toOption_ofJson] at hp
  constructor
  · intro h
    rw [h] at hp
    obtain ⟨draft, ht, hf⟩ := Option.bind_eq_some_iff.1 hp.symm
    have hn := (separate_record.isSome_takeAll_iff.1 (Option.isSome_of_eq_some ht)).1
    exact ⟨hn, (finish_takeAll_eq_ok_iff ht).1 (eq_ok_of_toOption hf)⟩
  · intro h
    obtain ⟨hn, hfr, hsc, hre, hwr⟩ := h
    have hr : ∀ member ∈ record.members, Record.Readable memberOf? record.blank ms member := by
      intro member hm
      have hm' := hm
      simp only [record, List.mem_cons, List.not_mem_nil, or_false] at hm'
      rcases hm' with he | he | he | he
      · exact slot_frameAware.readable separate_record rfl hfr hm (congrArg Member.name he)
      · exact slot_scopeAware.readable separate_record rfl hsc hm (congrArg Member.name he)
      · exact slot_reads.readable separate_record rfl hre hm (congrArg Member.name he)
      · exact slot_writes.readable separate_record rfl hwr hm (congrArg Member.name he)
    have hs := separate_record.isSome_takeAll_iff.2 ⟨hn, hr⟩
    obtain ⟨draft, ht⟩ := Option.isSome_iff_exists.1 hs
    have hf : record.finish draft = .ok snapshot :=
      (finish_takeAll_eq_ok_iff ht).2 ⟨hfr, hsc, hre, hwr⟩
    apply eq_ok_of_toOption
    rw [hp, ht, Option.bind_some, hf]
    rfl

def memberNames : List String := ["frame_aware", "scope_aware", "reads", "writes"]

def tableNames : List String := ["reads", "writes"]

theorem exists_field_of_tableOf? {entries : List (Option String × Value)} {fields : List Value}
    {key text : Option String} (h : (tableOf? (.object entries)).isSome = true)
    (he : (key, .list fields) ∈ entries) (ht : .string text ∈ fields) :
    ∃ field : Field, text = some field.name := by
  have hf := Value.decode_of_mem_object he h
  rw [fieldsOf?, Option.isSome_map] at hf
  have hn := Value.decode_of_mem_list ht hf
  obtain ⟨field, hn⟩ := Option.isSome_iff_exists.1 hn
  obtain ⟨name, rfl, hn⟩ := Option.bind_eq_some_iff.1 hn
  exact ⟨field, congrArg some (Field.name_of_ofName? hn).symm⟩

theorem length_valuesOf (hd : Document (.object ms) source.toList)
    (h : ofJson source = .ok snapshot) {name : String} (hn : name ∈ memberNames) :
    (valuesOf name ms).length = 1 := by
  obtain ⟨-, ⟨_, hf, -⟩, ⟨_, hs, -⟩, ⟨_, hr, -⟩, ⟨_, hw, -⟩⟩ := (ofJson_eq_ok_iff hd).1 h
  simp only [memberNames, List.mem_cons, List.not_mem_nil, or_false] at hn
  rcases hn with rfl | rfl | rfl | rfl
  · rw [hf]; rfl
  · rw [hs]; rfl
  · rw [hr]; rfl
  · rw [hw]; rfl

theorem exists_table (hd : Document (.object ms) source.toList)
    (h : ofJson source = .ok snapshot) {name : String} (hn : name ∈ tableNames) :
    ∃ table, Record.Once tableOf? (valuesOf name ms) table := by
  obtain ⟨-, -, -, hr, hw⟩ := (ofJson_eq_ok_iff hd).1 h
  simp only [tableNames, List.mem_cons, List.not_mem_nil, or_false] at hn
  rcases hn with rfl | rfl
  · exact ⟨_, hr⟩
  · exact ⟨_, hw⟩

theorem toOption_ofJson_congr {source' : String} {ms' : List (Option String × Value)}
    (hd : Document (.object ms) source.toList) (hd' : Document (.object ms') source'.toList)
    (hn : ∀ m ∈ ms, m.1.isSome = true) (hn' : ∀ m ∈ ms', m.1.isSome = true)
    (h : ∀ name ∈ memberNames, valuesOf name ms' = valuesOf name ms) :
    (ofJson source').toOption = (ofJson source).toOption := by
  have hf := h "frame_aware" (by decide)
  have hs := h "scope_aware" (by decide)
  have hr := h "reads" (by decide)
  have hw := h "writes" (by decide)
  have hiff : ∀ snapshot, ofJson source' = .ok snapshot ↔ ofJson source = .ok snapshot := by
    intro snapshot
    rw [ofJson_eq_ok_iff hd, ofJson_eq_ok_iff hd', hf, hs, hr, hw]
    exact and_congr_left fun _ => ⟨fun _ => hn, fun _ => hn'⟩
  apply Option.ext
  intro snapshot
  constructor
  · intro ho
    rw [(hiff snapshot).1 (eq_ok_of_toOption ho)]
    rfl
  · intro ho
    rw [(hiff snapshot).2 (eq_ok_of_toOption ho)]
    rfl

/-- An object is a snapshot when each member occurs once and decodes, whatever else it holds. -/
theorem ofJson_object (hd : Document (.object ms) source.toList)
    (hn : ∀ m ∈ ms, m.1.isSome = true) :
    (∀ (frame scope : List String) (reads writes : List (String × List Field)),
      valuesOf "frame_aware" ms = [namesValue frame] →
      valuesOf "scope_aware" ms = [namesValue scope] →
      valuesOf "reads" ms = [tableValue reads] → valuesOf "writes" ms = [tableValue writes] →
      ∃ snapshot, ofJson source = .ok snapshot ∧
        snapshot.frameAware = frame ∧ snapshot.scopeAware = scope ∧
        (∀ name : String, snapshot.reads[name]? =
          (reads.reverse.lookup name).map (Std.ExtTreeSet.ofList ·)) ∧
        ∀ name : String, snapshot.writes[name]? =
          (writes.reverse.lookup name).map (Std.ExtTreeSet.ofList ·)) ∧
    ((∃ name ∈ memberNames, (valuesOf name ms).length ≠ 1) →
      ∃ reason, ofJson source = .error (.generic reason)) ∧
    ((∃ name ∈ tableNames, ∃ entries key fields text, .object entries ∈ valuesOf name ms ∧
        (key, .list fields) ∈ entries ∧ .string text ∈ fields ∧
        ∀ field : Field, text ≠ some field.name) →
      ∃ reason, ofJson source = .error (.generic reason)) ∧
    ∀ (source' : String) (ms' : List (Option String × Value)),
      Document (.object ms') source'.toList → (∀ m ∈ ms', m.1.isSome = true) →
      (∀ name ∈ memberNames, valuesOf name ms' = valuesOf name ms) →
      (ofJson source').toOption = (ofJson source).toOption := by
  refine ⟨?_, ?_, ?_, ?_⟩
  · intro frame scope reads writes hf hs hr hw
    have hok : ofJson source = .ok ⟨frame, scope, tableFrom reads, tableFrom writes⟩ :=
      (ofJson_eq_ok_iff hd).2
        ⟨hn, ⟨_, hf, namesOf?_namesValue frame⟩, ⟨_, hs, namesOf?_namesValue scope⟩,
          ⟨_, hr, tableOf?_tableValue reads⟩, ⟨_, hw, tableOf?_tableValue writes⟩⟩
    exact ⟨_, hok, rfl, rfl, getElem?_tableFrom reads, getElem?_tableFrom writes⟩
  · intro h
    obtain ⟨name, hm, hl⟩ := h
    apply exists_generic
    intro snapshot hok
    exact hl (length_valuesOf hd hok hm)
  · intro h
    obtain ⟨name, hm, entries, key, fields, text, hv, he, ht, hne⟩ := h
    apply exists_generic
    intro snapshot hok
    obtain ⟨table, v, hvs, htable⟩ := exists_table hd hok hm
    rw [hvs, List.mem_singleton] at hv
    rw [← hv] at htable
    obtain ⟨field, hf⟩ := exists_field_of_tableOf? (Option.isSome_of_eq_some htable) he ht
    exact hne field hf
  · intro source' ms' hd' hn' h
    exact toOption_ofJson_congr hd hd' hn hn' h

/-- A layout with the members out of order, a member of another name and a key that repeats. -/
def shuffledLayout : List Char :=
  Layout.object 0
    [("writes", entriesLayout []),
      ("note", namesLayout ["reads"]),
      ("reads", entriesLayout [("eval", [.line]), ("eval", [.block, .selfValue])]),
      ("scope_aware", namesLayout []),
      ("frame_aware", namesLayout ["eval", "\"", "eval"])]

def shuffledMembers : List (Option String × Value) :=
  [(some "writes", tableValue []),
    (some "note", namesValue ["reads"]),
    (some "reads", tableValue [("eval", [.line]), ("eval", [.block, .selfValue])]),
    (some "scope_aware", namesValue []),
    (some "frame_aware", namesValue ["eval", "\"", "eval"])]

theorem spells_shuffled : Spells shuffledLayout (.object shuffledMembers) :=
  spells_object
    (.cons ⟨rfl, spells_entries _⟩ <| .cons ⟨rfl, spells_names _⟩ <|
      .cons ⟨rfl, spells_entries _⟩ <| .cons ⟨rfl, spells_names _⟩ <|
      .cons ⟨rfl, spells_names _⟩ .nil) 0

theorem ofJson_object_shuffled :
    Document (.object shuffledMembers) (String.ofList shuffledLayout).toList ∧
    (∀ m ∈ shuffledMembers, m.1.isSome = true) ∧
    ∃ snapshot, ofJson (String.ofList shuffledLayout) = .ok snapshot ∧
      snapshot.frameAware = ["eval", "\"", "eval"] ∧ snapshot.scopeAware = [] ∧
      snapshot.reads["eval"]? = some (.ofList [Field.block, Field.selfValue]) ∧
      snapshot.writes["eval"]? = none := by
  have hd : Document (.object shuffledMembers) (String.ofList shuffledLayout).toList := by
    rw [String.toList_ofList]
    exact spells_shuffled.document
  have hn : ∀ m ∈ shuffledMembers, m.1.isSome = true := by simp [shuffledMembers]
  obtain ⟨snapshot, hok, hf, hs, hr, hw⟩ := (ofJson_object hd hn).1
    ["eval", "\"", "eval"] [] [("eval", [.line]), ("eval", [.block, .selfValue])] []
    (by simp [shuffledMembers, valuesOf]) (by simp [shuffledMembers, valuesOf])
    (by simp [shuffledMembers, valuesOf]) (by simp [shuffledMembers, valuesOf])
  exact ⟨hd, hn, snapshot, hok, hf, hs, hr "eval", hw "eval"⟩

def entriesOf (table : Table String FieldSet) : List (String × List Field) :=
  table.toList.map fun entry => (entry.1, entry.2.toList)

theorem tableFrom_entriesOf (table : Table String FieldSet) :
    tableFrom (entriesOf table) = table := by
  have h : ((entriesOf table).map fun entry =>
      (entry.1, (Std.ExtTreeSet.ofList entry.2 : FieldSet))) = table.toList := by
    rw [entriesOf, List.map_map]
    refine Eq.trans (List.map_congr_left fun entry _ => ?_) (List.map_id _)
    exact congrArg (entry.1, ·) (Roster.ofList_of_perm (List.Perm.refl _))
  rw [tableFrom, h]
  exact Table.ofList_of_perm (List.Perm.refl _)

theorem spells_table (table : Table String FieldSet) :
    Spells (tableLayout table) (tableValue (entriesOf table)) := by
  have h : tableLayout table = entriesLayout (entriesOf table) := by
    rw [tableLayout, entriesLayout, entriesOf, List.map_map]
    rfl
  rw [h]
  exact spells_entries (entriesOf table)

def members (snapshot : Snapshot) : List (Option String × Value) :=
  [(some "frame_aware", namesValue snapshot.frameAware),
    (some "scope_aware", namesValue snapshot.scopeAware),
    (some "reads", tableValue (entriesOf snapshot.reads)),
    (some "writes", tableValue (entriesOf snapshot.writes))]

theorem spells_layout (snapshot : Snapshot) :
    Spells snapshot.layout (.object snapshot.members) :=
  spells_object
    (.cons ⟨rfl, spells_names _⟩ <| .cons ⟨rfl, spells_names _⟩ <|
      .cons ⟨rfl, spells_table _⟩ <| .cons ⟨rfl, spells_table _⟩ .nil) 0

theorem document_toJson (snapshot : Snapshot) :
    Document (.object snapshot.members) snapshot.toJson.toList := by
  rw [toJson, String.toList_ofList]
  exact (spells_layout snapshot).document

/-- Any text that holds the members of a snapshot is read as that snapshot. -/
theorem ofJson_members {source : String} {snapshot : Snapshot}
    (h : Document (.object snapshot.members) source.toList) : ofJson source = .ok snapshot := by
  refine (ofJson_eq_ok_iff h).2 ⟨?_, ?_, ?_, ?_, ?_⟩
  · simp [members]
  · exact ⟨_, by simp [members, valuesOf], namesOf?_namesValue _⟩
  · exact ⟨_, by simp [members, valuesOf], namesOf?_namesValue _⟩
  · refine ⟨tableValue (entriesOf snapshot.reads), by simp [members, valuesOf], ?_⟩
    rw [tableOf?_tableValue, tableFrom_entriesOf]
  · refine ⟨tableValue (entriesOf snapshot.writes), by simp [members, valuesOf], ?_⟩
    rw [tableOf?_tableValue, tableFrom_entriesOf]

theorem ofJson_toJson (snapshot : Snapshot) : ofJson snapshot.toJson = .ok snapshot :=
  ofJson_members (document_toJson snapshot)

theorem toJson_injective : Function.Injective toJson := by
  intro snapshot other h
  have hs := ofJson_members (document_toJson snapshot)
  have ho := ofJson_members (document_toJson other)
  rw [h, ho] at hs
  cases hs
  rfl

end CallDispatch.Caller.Snapshot
