import CallDispatch.Json.Record
import CallDispatch.Proofs.Json.Decoding
import Mathlib.Data.List.Nodup

namespace CallDispatch.Json

variable {α β σ : Type} {s s' r : List Char}

def valuesOf (name : String) (ms : List (Option String × Value)) : List Value :=
  ms.filterMap fun m => if m.1 = some name then some m.2 else none

theorem valuesOf_cons_self (name : String) (v : Value) (ms : List (Option String × Value)) :
    valuesOf name ((some name, v) :: ms) = v :: valuesOf name ms := by
  simp [valuesOf]

theorem valuesOf_cons_ne {name other : String} (h : other ≠ name) (v : Value)
    (ms : List (Option String × Value)) :
    valuesOf name ((some other, v) :: ms) = valuesOf name ms := by
  simp [valuesOf, h]

theorem Document.brace_mem {ms : List (Option String × Value)} (h : Document (.object ms) s) :
    '{' ∈ s := by
  obtain ⟨s₁, s₂, hb, hv, -⟩ := h
  cases hv with
  | object => exact hb.mem_of_mem List.mem_cons_self

theorem Reader.toOption_parse {reader : Reader α} {source : String} {result : Option α}
    (h : (reader.read source.toList).toOption = result.map (·, r)) (hr : Blanks r []) :
    (reader.parse source).toOption = result := by
  have hd : (reader.document source.toList).toOption = result := by
    rw [Reader.document, toOption_bind, h]
    cases result with
    | none => rfl
    | some a =>
      simp only [Option.map_some, Option.bind_some, hr.skipBlanks_nil]
      rfl
  rw [← hd, Reader.parse]
  split
  · next he => rw [he]; rfl
  · next he => rw [he]; rfl

namespace Record
variable (record : Record σ α) (decode : String → Value → Option (σ → σ))

/-- What becomes of a draft when one more member is read. -/
def take (a : σ) (name : String) (v : Value) : Option σ :=
  match record.members.find? (·.name = name) with
  | none => some a
  | some member => if member.isSet a then none else (decode name v).map (· a)

def Decodes : Prop :=
  ∀ member ∈ record.members, member.reader.Decodes (decode member.name)

/-- A member changes nothing of what is set but itself. -/
structure Separate : Prop where
  distinct : (record.members.map Member.name).Nodup
  isSet : ∀ member ∈ record.members, ∀ other ∈ record.members, ∀ v f a,
    decode member.name v = some f →
      other.isSet (f a) = (decide (other.name = member.name) || other.isSet a)

variable {record decode} {a b : σ} {name : String} {v : Value} {ms : List (Option String × Value)}

theorem take_of_unknown (h : ∀ member ∈ record.members, member.name ≠ name) :
    record.take decode a name v = some a := by
  have hf : record.members.find? (·.name = name) = none := by
    rw [List.find?_eq_none]
    intro member hm
    simpa using h member hm
  rw [take, hf]

theorem Separate.eq_of_name (hs : record.Separate decode) {member other : Member σ}
    (hm : member ∈ record.members) (ho : other ∈ record.members)
    (h : other.name = member.name) : other = member :=
  List.inj_on_of_nodup_map hs.distinct ho hm h

theorem Separate.find?_eq (hs : record.Separate decode) {member : Member σ}
    (hm : member ∈ record.members) :
    record.members.find? (·.name = member.name) = some member := by
  cases hf : record.members.find? (·.name = member.name) with
  | none => exact absurd (List.find?_eq_none.1 hf member hm) (by simp)
  | some other =>
    have hn : other.name = member.name := by simpa using List.find?_some hf
    rw [hs.eq_of_name hm (List.mem_of_find?_eq_some hf) hn]

theorem Separate.take_eq_some_iff (hs : record.Separate decode) {member : Member σ}
    (hm : member ∈ record.members) : record.take decode a member.name v = some b ↔
      member.isSet a = false ∧ ∃ f, decode member.name v = some f ∧ f a = b := by
  rw [take, hs.find?_eq hm]
  cases hset : member.isSet a with
  | true => simp [hset]
  | false => simp [hset]

theorem Decodes.takes (h : record.Decodes decode) :
    record.memberReader.Takes (record.take decode) := by
  intro name a v s s₁ s₂ r hc hb hv hr
  simp only [memberReader, take]
  cases hf : record.members.find? (·.name = name) with
  | none =>
    have hs : (Json.colon s >>= skipValue) = .ok r := by
      rw [hc.colon_eq]
      exact hv.skipValue_eq hr hb
    simp only [hs]
    rfl
  | some member =>
    have hn : member.name = name := by simpa using List.find?_some hf
    by_cases hset : member.isSet a = true
    · simp only [hset, if_true]
      rfl
    · have hm := h member (List.mem_of_find?_eq_some hf) hb hv hr
      simp only [if_neg hset, hc.colon_eq]
      change (member.reader.read s₁ >>= _).toOption = _
      rw [toOption_bind, hm, hn]
      cases decode name v with
      | none => rfl
      | some f => rfl

theorem Decodes.toOption_read (h : record.Decodes decode) (hb : Blanks s s')
    (hv : Spelled (.object ms) s' r) : (record.reader.read s).toOption =
      ((takeAll (record.take decode) record.blank ms).bind fun a =>
        (record.finish a).toOption).map (·, r) := by
  cases hv with
  | object hms =>
    have hs := hb.skipBlanks_cons (c := '{') rfl
    simp only [reader, hs]
    change (record.ofObject _).toOption = _
    rw [ofObject, toOption_bind, h.takes.members hms]
    cases takeAll (record.take decode) record.blank ms with
    | none => rfl
    | some a =>
      simp only [Option.map_some, Option.bind_some]
      cases record.finish a <;> rfl

theorem Decodes.toOption_parse (h : record.Decodes decode) {source : String}
    (hd : Document (.object ms) source.toList) : (record.reader.parse source).toOption =
      (takeAll (record.take decode) record.blank ms).bind fun a =>
        (record.finish a).toOption := by
  obtain ⟨s, r, hb, hv, hr⟩ := hd
  exact Reader.toOption_parse (h.toOption_read hb hv) hr

/-- Either the member does not occur, or it is not set yet, occurs once and decodes. -/
def Readable (decode : String → Value → Option (σ → σ)) (a : σ)
    (ms : List (Option String × Value)) (member : Member σ) : Prop :=
  valuesOf member.name ms = [] ∨
    member.isSet a = false ∧ ∃ v, valuesOf member.name ms = [v] ∧
      (decode member.name v).isSome = true

theorem readable_cons_ne {member : Member σ} (h : name ≠ member.name) (v : Value) :
    Readable decode a ((some name, v) :: ms) member ↔ Readable decode a ms member := by
  rw [Readable, Readable, valuesOf_cons_ne h]

theorem readable_cons_self {member : Member σ} {v : Value} :
    Readable decode a ((some member.name, v) :: ms) member ↔
      member.isSet a = false ∧ (decode member.name v).isSome = true ∧
        valuesOf member.name ms = [] := by
  simp only [Readable, valuesOf_cons_self, List.cons_ne_nil, false_or, List.cons.injEq]
  constructor
  · intro h
    obtain ⟨hset, w, ⟨rfl, hvs⟩, hw⟩ := h
    exact ⟨hset, hw, hvs⟩
  · intro h
    obtain ⟨hset, hv, hvs⟩ := h
    exact ⟨hset, v, ⟨rfl, hvs⟩, hv⟩

theorem Separate.readable_update (hs : record.Separate decode) {member other : Member σ}
    (hm : member ∈ record.members) (ho : other ∈ record.members) {f : σ → σ}
    (hset : member.isSet a = false) (hf : decode member.name v = some f) :
    Readable decode (f a) ms other ↔ Readable decode a ((some member.name, v) :: ms) other := by
  have hu := hs.isSet member hm other ho v f a hf
  by_cases hn : other.name = member.name
  · have he := hs.eq_of_name hm ho hn
    subst he
    rw [readable_cons_self, Readable]
    simp [hu, hset, hf]
  · rw [readable_cons_ne (Ne.symm hn), Readable, Readable, hu]
    simp [hn]

/-- Members can be read when all names are Unicode and each member of the record can be read. -/
theorem Separate.isSome_takeAll_iff (hs : record.Separate decode) :
    (takeAll (record.take decode) a ms).isSome = true ↔
      (∀ m ∈ ms, m.1.isSome = true) ∧ ∀ member ∈ record.members, Readable decode a ms member := by
  induction ms generalizing a with
  | nil => simp [takeAll, Readable, valuesOf]
  | cons m ms ih =>
    obtain ⟨name, v⟩ := m
    cases name with
    | none => simp [takeAll]
    | some name =>
      simp only [List.forall_mem_cons, Option.isSome_some, true_and, takeAll, Option.bind_some]
      by_cases hk : ∃ member ∈ record.members, member.name = name
      · obtain ⟨member, hm, rfl⟩ := hk
        constructor
        · intro h
          obtain ⟨c, hc⟩ := Option.isSome_iff_exists.1 h
          obtain ⟨b, hb, hms⟩ := Option.bind_eq_some_iff.1 hc
          obtain ⟨hset, f, hf, rfl⟩ := (hs.take_eq_some_iff hm).1 hb
          obtain ⟨hn, hr⟩ := ih.1 (Option.isSome_of_eq_some hms)
          exact ⟨hn, fun other ho => (hs.readable_update hm ho hset hf).1 (hr other ho)⟩
        · intro h
          obtain ⟨hn, hr⟩ := h
          obtain ⟨hset, hv, -⟩ := readable_cons_self.1 (hr member hm)
          obtain ⟨f, hf⟩ := Option.isSome_iff_exists.1 hv
          rw [(hs.take_eq_some_iff hm).2 ⟨hset, f, hf, rfl⟩, Option.bind_some, ih]
          exact ⟨hn, fun other ho => (hs.readable_update hm ho hset hf).2 (hr other ho)⟩
      · have hu : ∀ member ∈ record.members, member.name ≠ name :=
          fun member hm he => hk ⟨member, hm, he⟩
        rw [take_of_unknown hu, Option.bind_some, ih]
        refine and_congr_right fun _ => forall₂_congr fun other ho => ?_
        exact (readable_cons_ne (Ne.symm (hu other ho)) v).symm

/-- What a draft holds of a member of the record, and how it is decoded. -/
structure Slot (record : Record σ α) (decode : String → Value → Option (σ → σ)) (name : String)
    (get : σ → Option β) (value : Value → Option β) : Prop where
  exists_member : ∃ member ∈ record.members, member.name = name ∧
    ∀ a, member.isSet a = (get a).isSome
  isSome : ∀ v, (decode name v).isSome = (value v).isSome
  own : ∀ v f a, decode name v = some f → get (f a) = value v
  others : ∀ other ∈ record.members, other.name ≠ name → ∀ v f a,
    decode other.name v = some f → get (f a) = get a

theorem Slot.of_set {get : σ → Option β} {value : Value → Option β} {set : β → σ → σ}
    (member : Member σ) (hm : member ∈ record.members)
    (isSet : ∀ a, member.isSet a = (get a).isSome)
    (hd : ∀ v, decode member.name v = (value v).map set)
    (own : ∀ x a, get (set x a) = some x)
    (others : ∀ other ∈ record.members, other.name ≠ member.name → ∀ v f a,
      decode other.name v = some f → get (f a) = get a) :
    record.Slot decode member.name get value where
  exists_member := ⟨member, hm, rfl, isSet⟩
  isSome v := by rw [hd, Option.isSome_map]
  own v f a hf := by
    rw [hd] at hf
    obtain ⟨x, hx, rfl⟩ := Option.map_eq_some_iff.1 hf
    rw [own, hx]
  others := others

theorem separate_of_slots (distinct : (record.members.map Member.name).Nodup)
    (h : ∀ member ∈ record.members, ∃ (γ : Type) (get : σ → Option γ)
      (value : Value → Option γ), record.Slot decode member.name get value) :
    record.Separate decode := by
  refine ⟨distinct, ?_⟩
  intro member hm other ho v f a hf
  obtain ⟨γ, get, value, slot⟩ := h other ho
  obtain ⟨other', ho', hn, hset⟩ := slot.exists_member
  have he : other' = other := List.inj_on_of_nodup_map distinct ho' ho hn
  subst he
  rw [hset, hset]
  by_cases hne : other'.name = member.name
  · rw [← hne] at hf
    have hv : (value v).isSome = true := by
      rw [← slot.isSome, hf]
      rfl
    rw [slot.own v f a hf, hv, hne, decide_eq_true rfl, Bool.true_or]
  · rw [slot.others member hm (Ne.symm hne) v f a hf, decide_eq_false hne, Bool.false_or]

def Once (value : Value → Option β) (vs : List Value) (x : β) : Prop :=
  ∃ v, vs = [v] ∧ value v = some x

variable {get : σ → Option β} {value : Value → Option β} {x : β}

theorem Slot.get_of_takeAll (slot : record.Slot decode name get value)
    (hs : record.Separate decode) (h : takeAll (record.take decode) a ms = some b) :
    get b = (valuesOf name ms).foldl (fun _ v => value v) (get a) := by
  induction ms generalizing a with
  | nil =>
    cases h
    rfl
  | cons m ms ih =>
    obtain ⟨name', v⟩ := m
    simp only [takeAll, Option.bind_eq_some_iff] at h
    obtain ⟨name', rfl, c, hc, h⟩ := h
    rw [ih h]
    -- The value counts if it belongs to this member. Other members and unknown ones leave the place
    -- as it is.
    by_cases hk : ∃ other ∈ record.members, other.name = name'
    · obtain ⟨other, ho, rfl⟩ := hk
      obtain ⟨-, f, hf, rfl⟩ := (hs.take_eq_some_iff ho).1 hc
      by_cases hn : other.name = name
      · rw [hn] at hf ⊢
        rw [valuesOf_cons_self, List.foldl_cons, slot.own v f a hf]
      · rw [valuesOf_cons_ne hn, slot.others other ho hn v f a hf]
    · have hu : ∀ other ∈ record.members, other.name ≠ name' :=
        fun other ho he => hk ⟨other, ho, he⟩
      rw [take_of_unknown hu] at hc
      cases hc
      obtain ⟨member, hm, hn, -⟩ := slot.exists_member
      rw [valuesOf_cons_ne (Ne.symm (hn ▸ hu member hm))]

theorem Slot.readable (slot : record.Slot decode name get value) (hs : record.Separate decode)
    (blank : get a = none) (h : Once value (valuesOf name ms) x) {member : Member σ}
    (hm : member ∈ record.members) (hn : member.name = name) : Readable decode a ms member := by
  obtain ⟨other, ho, hname, hset⟩ := slot.exists_member
  have he : member = other := hs.eq_of_name ho hm (hn.trans hname.symm)
  obtain ⟨v, hv, hx⟩ := h
  subst he
  subst hn
  refine .inr ⟨by rw [hset, blank]; rfl, v, hv, ?_⟩
  rw [slot.isSome, hx]
  rfl

def AtMostOnce (value : Value → Option β) (vs : List Value) (x : Option β) : Prop :=
  vs.map value = (x.map some).toList

theorem atMostOnce_none {vs : List Value} : AtMostOnce value vs none ↔ vs = [] :=
  List.map_eq_nil_iff

theorem atMostOnce_some {vs : List Value} : AtMostOnce value vs (some x) ↔ Once value vs x :=
  List.map_eq_singleton_iff

theorem AtMostOnce.length_le {vs : List Value} {x : Option β} (h : AtMostOnce value vs x) :
    vs.length ≤ 1 := by
  have hl := congrArg List.length h
  rw [List.length_map] at hl
  rw [hl]
  cases x <;> simp

theorem AtMostOnce.exists_eq_some {vs : List Value} {x : Option β} (h : AtMostOnce value vs x)
    {v : Value} (hv : v ∈ vs) : ∃ y, value v = some y := by
  have hm : value v ∈ (x.map some).toList := h ▸ List.mem_map_of_mem hv
  obtain ⟨y, -, hy⟩ := Option.map_eq_some_iff.1 (Option.mem_toList.1 hm)
  exact ⟨y, hy.symm⟩

theorem Slot.readable_of_atMostOnce (slot : record.Slot decode name get value)
    (hs : record.Separate decode) (blank : get a = none) {x : Option β}
    (h : AtMostOnce value (valuesOf name ms) x) {member : Member σ} (hm : member ∈ record.members)
    (hn : member.name = name) : Readable decode a ms member := by
  cases x with
  | none => exact .inl (hn ▸ atMostOnce_none.1 h)
  | some x => exact slot.readable hs blank (atMostOnce_some.1 h) hm hn

/-- What a draft holds of a member is what the values of that member are read as. -/
theorem Slot.get_eq_iff (slot : record.Slot decode name get value) (hs : record.Separate decode)
    (blank : get a = none) (h : takeAll (record.take decode) a ms = some b) {x : Option β} :
    get b = x ↔ AtMostOnce value (valuesOf name ms) x := by
  have hget := slot.get_of_takeAll hs h
  obtain ⟨member, hm, rfl, -⟩ := slot.exists_member
  have hr := (hs.isSome_takeAll_iff.1 (Option.isSome_of_eq_some h)).2 member hm
  rcases hr with hv | ⟨-, v, hv, hd⟩
  · rw [hget, hv, blank]
    cases x <;> simp [AtMostOnce]
  · rw [slot.isSome] at hd
    obtain ⟨y, hy⟩ := Option.isSome_iff_exists.1 hd
    rw [hget, hv]
    cases x <;> simp [AtMostOnce, hy]

theorem Slot.get_eq_some_iff (slot : record.Slot decode name get value)
    (hs : record.Separate decode) (blank : get a = none)
    (h : takeAll (record.take decode) a ms = some b) :
    get b = some x ↔ Once value (valuesOf name ms) x :=
  (slot.get_eq_iff hs blank h).trans atMostOnce_some

end Record
end CallDispatch.Json
