import CallDispatch.Json.Record
import CallDispatch.Proofs.Collections
import CallDispatch.Proofs.Json.Skipping

namespace CallDispatch.Json

variable {α β σ : Type} {s s' r : List Char}

theorem eq_ok_of_toOption {ε : Type} {x : Except ε α} {a : α} (h : x.toOption = some a) :
    x = .ok a := by
  cases x with
  | error => cases h
  | ok b => cases h; rfl

theorem Value.Opens.ne_of_number {n : Decimal.Numeral} {c d : Char}
    (h : (Value.number n).Opens c) (hm : d ≠ '-') (hd : d.isDigit = false) : c ≠ d := by
  intro he
  subst he
  rcases h with h | h
  · exact hm h
  · exact absurd (h.symm.trans hd) (by decide)

/-- A reader gives what a value decodes to, and refuses a value that does not decode. -/
def Reader.Decodes (reader : Reader α) (decode : Value → Option α) : Prop :=
  ∀ ⦃v : Value⦄ ⦃s s' r : List Char⦄, Blanks s s' → Spelled v s' r → Stops r →
    (reader.read s).toOption = (decode v).map (·, r)

theorem Reader.Decodes.map {reader : Reader α} {decode : Value → Option α}
    (h : reader.Decodes decode) (f : α → β) :
    (reader.map f).Decodes fun v => (decode v).map f := by
  intro v s s' r hb hv hr
  rw [Reader.map, toOption_map, h hb hv hr, Option.map_map, Option.map_map]
  rfl

def Value.string? : Value → Option String
  | .string text => text
  | _ => none

theorem Reader.string_refuses {c : Char} (h : skipBlanks s = c :: r) (hc : c ≠ '"') :
    (Reader.string.read s).toOption = none := by
  simp only [Reader.string, h]
  split
  · rfl
  · next he =>
    cases he
    exact absurd rfl hc
  · rfl

theorem Reader.decodes_string : Reader.string.Decodes Value.string? := by
  intro v s s' r hb hv hr
  obtain ⟨c, s', rfl, hc⟩ := hv.opens
  have hs := hb.skipBlanks_cons hc.isBlank_eq
  cases hv with
  | string h =>
    simp only [Reader.string, hs]
    exact h.toOption_text
  | number => exact string_refuses hs (hc.ne_of_number (by decide) rfl)
  | _ => exact string_refuses hs (by decide)

def Value.null? : Value → Option Unit
  | .null => some ()
  | _ => none

theorem Reader.null_refuses {c : Char} (h : skipBlanks s = c :: r) (hc : c ≠ 'n') :
    (Reader.null.read s).toOption = none := by
  simp only [Reader.null, h]
  split
  · rfl
  · next he =>
    cases he
    exact absurd rfl hc
  · rfl

theorem Reader.decodes_null : Reader.null.Decodes Value.null? := by
  intro v s s' r hb hv hr
  obtain ⟨c, s', rfl, hc⟩ := hv.opens
  have hs := hb.skipBlanks_cons hc.isBlank_eq
  cases hv with
  | null =>
    simp only [Reader.null, hs]
    rfl
  | number => exact null_refuses hs (hc.ne_of_number (by decide) rfl)
  | _ => exact null_refuses hs (by decide)

def Value.boolean? : Value → Option Bool
  | .boolean value => some value
  | _ => none

theorem Value.eq_of_boolean? {v : Value} {value : Bool} (h : v.boolean? = some value) :
    v = .boolean value := by
  cases v with
  | boolean => cases h; rfl
  | _ => cases h

theorem Reader.boolean_refuses {c : Char} (h : skipBlanks s = c :: r) (ht : c ≠ 't')
    (hf : c ≠ 'f') : (Reader.boolean.read s).toOption = none := by
  simp only [Reader.boolean, h]
  split
  · rfl
  · next he =>
    cases he
    exact absurd rfl ht
  · next he =>
    cases he
    exact absurd rfl hf
  · rfl

theorem Reader.decodes_boolean : Reader.boolean.Decodes Value.boolean? := by
  intro v s s' r hb hv hr
  obtain ⟨c, s', rfl, hc⟩ := hv.opens
  have hs := hb.skipBlanks_cons hc.isBlank_eq
  cases hv with
  | true =>
    simp only [Reader.boolean, hs]
    rfl
  | false =>
    simp only [Reader.boolean, hs]
    rfl
  | number =>
    exact boolean_refuses hs (hc.ne_of_number (by decide) rfl) (hc.ne_of_number (by decide) rfl)
  | _ => exact boolean_refuses hs (by decide) (by decide)

theorem nextElement_done (first : Bool) (h : Blanks s (']' :: r)) :
    nextElement first s = .ok (.done, r) := by
  rw [nextElement, h.skipBlanks_cons rfl]
  rfl

theorem nextElement_more {first : Bool} {c : Char} (h : Separator first s (c :: r))
    (hb : isBlank c = false) (hc : c ≠ ']') : nextElement first s = .ok (.more, c :: r) := by
  cases first with
  | true =>
    rw [nextElement, Blanks.skipBlanks_cons h hb]
    split
    · next he => cases he
    · next he =>
      cases he
      exact absurd rfl hc
    · next he =>
      cases he
      rfl
  | false =>
    obtain ⟨s', hs, hs'⟩ := h
    rw [nextElement, hs.skipBlanks_cons rfl]
    split
    · next he => cases he
    · next he => exact absurd (List.cons.inj he).1 (by decide)
    · next he =>
      cases he
      rw [if_neg Bool.false_ne_true, if_pos rfl, hs'.skipBlanks_cons hb]
      split
      · next he => cases he
      · next he =>
        cases he
        exact absurd rfl hc
      · rfl

theorem toOption_elements_more {reader : Reader α} {read : List α} {first : Bool}
    (h : nextElement first s = .ok (.more, r)) :
    (elements reader read first s).toOption = (reader.read r).toOption.bind fun (a, r') =>
      (elements reader (a :: read) false r').toOption := by
  cases ha : reader.read r with
  | error failure => rw [elements_error h ha]; rfl
  | ok p => rw [elements_more h ha]; rfl

theorem Reader.Decodes.elements {reader : Reader α} {decode : Value → Option α}
    (h : reader.Decodes decode) {first : Bool} {vs : List Value} (hvs : Elements first vs s r)
    (read : List α) : (elements reader read first s).toOption =
      (vs.mapM decode).map fun as => (read.reverse ++ as, r) := by
  induction vs generalizing first s read with
  | nil =>
    cases hvs with
    | noElement hb =>
      rw [elements_done (nextElement_done first hb)]
      simp [Except.toOption]
  | cons v vs ih =>
    cases hvs with
    | element hs hv hvs =>
      obtain ⟨c, s₁, rfl, hc⟩ := hv.opens
      have hne : c ≠ ']' := by
        intro he
        subst he
        exact hc.not_mem_stops (by decide)
      rw [toOption_elements_more (nextElement_more hs hc.isBlank_eq hne),
        h (.none _) hv hvs.stops, List.mapM_cons]
      cases decode v with
      | none => rfl
      | some a =>
        simp only [Option.map_some, Option.bind_some, ih hvs, bind]
        cases vs.mapM decode with
        | none => rfl
        | some as => simp [pure]

def Value.listOf? (decode : Value → Option α) : Value → Option (List α)
  | .list vs => vs.mapM decode
  | _ => none

theorem Value.listOf?_map {decode : Value → Option α} {f : β → Value} {g : β → α}
    (h : ∀ x, decode (f x) = some (g x)) (xs : List β) :
    Value.listOf? decode (.list (xs.map f)) = some (xs.map g) := by
  induction xs with
  | nil => rfl
  | cons x xs ih =>
    rw [Value.listOf?] at ih ⊢
    rw [List.map_cons, List.mapM_cons, h, ih]
    rfl

theorem Value.decode_of_mem_list {decode : Value → Option α} {v : Value} {vs : List Value}
    (hv : v ∈ vs) (h : (Value.listOf? decode (.list vs)).isSome = true) :
    (decode v).isSome = true := by
  induction vs with
  | nil => cases hv
  | cons w vs ih =>
    rw [Value.listOf?, List.mapM_cons] at h
    cases hw : decode w with
    | none =>
      rw [hw] at h
      cases h
    | some a =>
      rcases List.mem_cons.1 hv with rfl | hv
      · rw [hw]
        rfl
      · apply ih hv
        rw [hw] at h
        rw [Value.listOf?]
        cases hvs : vs.mapM decode with
        | none =>
          simp [hvs] at h
        | some as => rfl

theorem Reader.listOf_refuses (reader : Reader α) {c : Char} (h : skipBlanks s = c :: r)
    (hc : c ≠ '[') : (reader.listOf.read s).toOption = none := by
  simp only [Reader.listOf, h]
  split
  · rfl
  · next he =>
    cases he
    exact absurd rfl hc
  · rfl

theorem Reader.Decodes.listOf {reader : Reader α} {decode : Value → Option α}
    (h : reader.Decodes decode) : reader.listOf.Decodes (Value.listOf? decode) := by
  intro v s s' r hb hv hr
  obtain ⟨c, s', rfl, hc⟩ := hv.opens
  have hs := hb.skipBlanks_cons hc.isBlank_eq
  cases hv with
  | list hvs =>
    simp only [Reader.listOf, hs]
    exact h.elements hvs []
  | number => exact reader.listOf_refuses hs (hc.ne_of_number (by decide) rfl)
  | _ => exact reader.listOf_refuses hs (by decide)

theorem nextMember_done (first : Bool) (h : Blanks s ('}' :: r)) :
    nextMember first s = .ok (.done, r) := by
  rw [nextMember, h.skipBlanks_cons rfl]
  rfl

theorem nextMember_more {first : Bool} (h : Separator first s ('"' :: r)) :
    nextMember first s = .ok (.more, r) := by
  cases first with
  | true =>
    rw [nextMember, Blanks.skipBlanks_cons h rfl]
    rfl
  | false =>
    obtain ⟨s', hs, hs'⟩ := h
    rw [nextMember, hs.skipBlanks_cons rfl]
    split
    · next he => cases he
    · next he => exact absurd (List.cons.inj he).1 (by decide)
    · next he =>
      cases he
      rw [if_neg Bool.false_ne_true, if_pos rfl, hs'.skipBlanks_cons rfl]
      rfl

def MemberReader.Takes (reader : MemberReader σ) (take : σ → String → Value → Option σ) : Prop :=
  ∀ ⦃name : String⦄ ⦃a : σ⦄ ⦃v : Value⦄ ⦃s s₁ s₂ r : List Char⦄, Blanks s (':' :: s₁) →
    Blanks s₁ s₂ → Spelled v s₂ r → Stops r →
      (reader.read name a s).toOption = (take a name v).map (·, r)

/-- Takes members into account one after another. All names have to be Unicode. -/
def takeAll (take : σ → String → Value → Option σ) : σ → List (Option String × Value) → Option σ
  | a, [] => some a
  | a, (name, v) :: ms =>
    name.bind fun name => (take a name v).bind fun b => takeAll take b ms

theorem toOption_members_more {reader : MemberReader σ} {a : σ} {first : Bool}
    (h : nextMember first s = .ok (.more, r)) :
    (members reader a first s).toOption = (text r).toOption.bind fun (name, r₁) =>
      (reader.read name a r₁).toOption.bind fun (b, r₂) =>
        (members reader b false r₂).toOption := by
  cases hn : text r with
  | error failure =>
    rw [members]
    split
    · rfl
    · next h' => cases h.symm.trans h'
    · next h' =>
      cases h.symm.trans h'
      split
      · rfl
      · next hn' => cases hn.symm.trans hn'
  | ok p =>
    obtain ⟨name, r₁⟩ := p
    cases hb : reader.read name a r₁ with
    | error failure => rw [members_error h hn hb]; simp [Except.toOption, hb]
    | ok p => rw [members_more h hn hb]; simp [Except.toOption, hb]

theorem MemberReader.Takes.members {reader : MemberReader σ}
    {take : σ → String → Value → Option σ} (h : reader.Takes take) {first : Bool}
    {ms : List (Option String × Value)} (hms : Members first ms s r) (a : σ) :
    (members reader a first s).toOption = (takeAll take a ms).map (·, r) := by
  induction ms generalizing first s a with
  | nil =>
    cases hms with
    | noMember hb =>
      rw [members_done (nextMember_done first hb)]
      rfl
  | cons m ms ih =>
    cases hms with
    | member hs hn hc hb hv hms =>
      rw [toOption_members_more (nextMember_more hs), hn.toOption_text, takeAll]
      cases text? _ with
      | none => rfl
      | some name =>
        simp only [Option.map_some, Option.bind_some, h hc hb hv hms.stops]
        cases take a name _ with
        | none => rfl
        | some b => exact ih hms b

/-- The members of an object by their names, of several with one name the last. -/
def Value.objectOf? (decode : Value → Option α) : Value → Option (Table String α)
  | .object ms => takeAll (fun table name v => (decode v).map (table.insert name ·)) ∅ ms
  | _ => none

theorem takeAll_map {decode : Value → Option α} {f : β → Value} {g : β → α}
    (h : ∀ x, decode (f x) = some (g x)) (entries : List (String × β)) (table : Table String α) :
    takeAll (fun table name v => (decode v).map (table.insert name ·)) table
        (entries.map fun entry => (some entry.1, f entry.2)) =
      some (table.insertMany (entries.map fun entry => (entry.1, g entry.2))) := by
  induction entries generalizing table with
  | nil => rfl
  | cons entry entries ih =>
    simp only [List.map_cons, takeAll, Option.bind_some, h, Option.map_some, ih,
      Std.ExtTreeMap.insertMany_cons]

theorem Value.objectOf?_map {decode : Value → Option α} {f : β → Value} {g : β → α}
    (h : ∀ x, decode (f x) = some (g x)) (entries : List (String × β)) :
    Value.objectOf? decode (.object (entries.map fun entry => (some entry.1, f entry.2))) =
      some (Std.ExtTreeMap.ofList (entries.map fun entry => (entry.1, g entry.2))) := by
  rw [Value.objectOf?, takeAll_map h, Std.ExtTreeMap.ofList_eq_insertMany_empty]

theorem decode_of_mem_takeAll {σ : Type} {take : σ → String → Value → Option σ} {a : σ}
    {ms : List (Option String × Value)} {name : Option String} {v : Value} (hm : (name, v) ∈ ms)
    (h : (takeAll take a ms).isSome = true) :
    ∃ b name, (take b name v).isSome = true := by
  induction ms generalizing a with
  | nil => cases hm
  | cons m ms ih =>
    obtain ⟨b, hb⟩ := Option.isSome_iff_exists.1 h
    obtain ⟨other, w⟩ := m
    simp only [takeAll, Option.bind_eq_some_iff] at hb
    obtain ⟨other, rfl, c, hc, hb⟩ := hb
    rcases List.mem_cons.1 hm with he | hm
    · cases he
      exact ⟨a, other, Option.isSome_of_eq_some hc⟩
    · exact ih hm (Option.isSome_of_eq_some hb)

theorem Value.decode_of_mem_object {decode : Value → Option α} {v : Value} {name : Option String}
    {ms : List (Option String × Value)} (hm : (name, v) ∈ ms)
    (h : (Value.objectOf? decode (.object ms)).isSome = true) : (decode v).isSome = true := by
  obtain ⟨table, name, hd⟩ := decode_of_mem_takeAll hm h
  rwa [Option.isSome_map] at hd

theorem Reader.Decodes.takes_entry {reader : Reader α} {decode : Value → Option α}
    (h : reader.Decodes decode) : (Reader.objectOf.entry reader).Takes
      fun table name v => (decode v).map (table.insert name ·) := by
  intro name table v s s₁ s₂ r hc hb hv hr
  simp only [Reader.objectOf.entry, hc.colon_eq, toOption_bind]
  change (reader.read s₁).toOption.bind _ = _
  rw [h hb hv hr]
  cases decode v with
  | none => rfl
  | some a => rfl

theorem Reader.objectOf_refuses (reader : Reader α) {c : Char} (h : skipBlanks s = c :: r)
    (hc : c ≠ '{') : (reader.objectOf.read s).toOption = none := by
  simp only [Reader.objectOf, h]
  split
  · rfl
  · next he =>
    cases he
    exact absurd rfl hc
  · rfl

theorem Reader.Decodes.objectOf {reader : Reader α} {decode : Value → Option α}
    (h : reader.Decodes decode) : reader.objectOf.Decodes (Value.objectOf? decode) := by
  intro v s s' r hb hv hr
  obtain ⟨c, s', rfl, hc⟩ := hv.opens
  have hs := hb.skipBlanks_cons hc.isBlank_eq
  cases hv with
  | object hms =>
    simp only [Reader.objectOf, hs]
    exact h.takes_entry.members hms ∅
  | number => exact reader.objectOf_refuses hs (hc.ne_of_number (by decide) rfl)
  | _ => exact reader.objectOf_refuses hs (by decide)

end CallDispatch.Json
