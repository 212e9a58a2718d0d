import CallDispatch.Config
import CallDispatch.Proofs.Text.Padding

namespace CallDispatch
open Text

variable {text before after core : String} {text? : Option String} {bytes : ByteArray}
  {bytes? : Option ByteArray}

theorem isBlank_of_mem_offTexts (h : core ∈ offTexts) : ∀ c ∈ core.toList, isBlank c = false := by
  have hs : offTexts.all fun core => core.toList.all fun c => !isBlank c := by decide
  intro c hc
  simpa using List.all_eq_true.1 (List.all_eq_true.1 hs core h) c hc

theorem turnsOn_eq_false_iff : turnsOn text = false ↔ ∃ core ∈ offTexts, Padded core text := by
  rw [turnsOn, Bool.not_eq_false', List.contains_iff_mem]
  constructor
  · intro h
    exact ⟨trim text, h, padded_trim text⟩
  · intro h
    obtain ⟨core, hc, hp⟩ := h
    rw [(trim_eq_iff (isBlank_of_mem_offTexts hc)).2 hp]
    exact hc

theorem turnsOn_padded (hb : Blank before) (ha : Blank after) (text : String) :
    turnsOn (before ++ text ++ after) = turnsOn text := by
  rw [turnsOn, trim_padded hb ha, turnsOn]

/-- The text that a variable holds, if it is set to one. -/
inductive Holds : Option ByteArray → Option String → Prop
  | unset : Holds none none
  | undecodable {bytes : ByteArray} (h : ¬bytes.IsValidUTF8) : Holds (some bytes) none
  | text (text : String) : Holds (some text.toUTF8) (some text)

theorem exists_holds (bytes? : Option ByteArray) : ∃ text?, Holds bytes? text? := by
  cases bytes? with
  | none => exact ⟨none, .unset⟩
  | some bytes =>
    by_cases h : bytes.IsValidUTF8
    · exact ⟨_, .text (String.fromUTF8 bytes h)⟩
    · exact ⟨none, .undecodable h⟩

theorem Holds.flagOf?_eq (h : Holds bytes? text?) : flagOf? bytes? = text?.map turnsOn := by
  cases h with
  | unset => rfl
  | undecodable h =>
    have hn : String.fromUTF8? _ = none := dif_neg h
    rw [flagOf?, Option.bind_some, hn]
  | text text =>
    have hs : String.fromUTF8? text.toUTF8 = some text := dif_pos text.isValidUTF8
    rw [flagOf?, Option.bind_some, hs]

theorem getD_flagOf?_eq_iff {default : Bool} : (flagOf? bytes?).getD default = default ↔
    bytes? = none ∨ (∃ bytes, bytes? = some bytes ∧ ¬bytes.IsValidUTF8) ∨
      ∃ text : String, bytes? = some text.toUTF8 ∧ turnsOn text = default := by
  constructor
  · intro h
    obtain ⟨text?, ht⟩ := exists_holds bytes?
    rw [ht.flagOf?_eq] at h
    cases ht with
    | unset => exact .inl rfl
    | undecodable hn => exact .inr (.inl ⟨_, rfl, hn⟩)
    | text text =>
      rw [Option.map_some, Option.getD_some] at h
      exact .inr (.inr ⟨text, rfl, h⟩)
  · intro h
    rcases h with rfl | ⟨bytes, rfl, hn⟩ | ⟨text, rfl, h⟩
    · rfl
    · rw [(Holds.undecodable hn).flagOf?_eq, Option.map_none, Option.getD_none]
    · rw [(Holds.text text).flagOf?_eq, Option.map_some, Option.getD_some, h]

inductive Switch
  | fastOps
  | fullTrace
deriving DecidableEq

def Switch.initial : Switch → Bool
  | .fastOps => true
  | .fullTrace => false

namespace Environment

def value (environment : Environment) : Switch → Option ByteArray
  | .fastOps => environment.fastOps
  | .fullTrace => environment.fullTrace

def set (environment : Environment) (bytes? : Option ByteArray) : Switch → Environment
  | .fastOps => { environment with fastOps := bytes? }
  | .fullTrace => { environment with fullTrace := bytes? }

theorem value_set (environment : Environment) (bytes? : Option ByteArray) (switch other : Switch) :
    (environment.set bytes? switch).value other =
      if switch = other then bytes? else environment.value other := by
  cases switch <;> cases other <;> rfl

end Environment

namespace Config
variable {config other : Config}

def setting (config : Config) : Switch → Bool
  | .fastOps => config.fastOps
  | .fullTrace => config.fullTrace

theorem eq_of_setting (same : ∀ switch, config.setting switch = other.setting switch) :
    config = other := by
  obtain ⟨fastOps, fullTrace⟩ := config
  obtain ⟨fastOps', fullTrace'⟩ := other
  obtain rfl : fastOps = fastOps' := same .fastOps
  obtain rfl : fullTrace = fullTrace' := same .fullTrace
  rfl

theorem setting_ofEnvironment (environment : Environment) (switch : Switch) :
    (ofEnvironment environment).setting switch =
      (flagOf? (environment.value switch)).getD switch.initial := by
  cases switch <;> rfl

theorem setting_ofEnvironment_set (environment : Environment) (bytes? : Option ByteArray)
    (switch other : Switch) :
    (ofEnvironment (environment.set bytes? switch)).setting other =
      if switch = other then (flagOf? bytes?).getD other.initial
      else (ofEnvironment environment).setting other := by
  rw [setting_ofEnvironment, setting_ofEnvironment, Environment.value_set]
  split <;> rfl

theorem ofEnvironment_set_congr {others? : Option ByteArray} (environment : Environment)
    (switch : Switch) (same : flagOf? bytes? = flagOf? others?) :
    ofEnvironment (environment.set bytes? switch) =
      ofEnvironment (environment.set others? switch) := by
  apply eq_of_setting
  intro other
  rw [setting_ofEnvironment_set, setting_ofEnvironment_set, same]

/-- A switch stands as by default unless its variable holds a text, and then as the text asks. -/
theorem ofEnvironment_switch (environment : Environment) (switch : Switch) :
    ((ofEnvironment environment).setting switch = switch.initial ↔
      environment.value switch = none ∨
      (∃ bytes, environment.value switch = some bytes ∧ ¬bytes.IsValidUTF8) ∨
      ∃ text : String, environment.value switch = some text.toUTF8 ∧
        turnsOn text = switch.initial) ∧
    (∀ text : String, environment.value switch = some text.toUTF8 →
      (ofEnvironment environment).setting switch = turnsOn text) ∧
    (∀ text, turnsOn text = false ↔
      ∃ core ∈ ["", "0", "false", "FALSE", "False"], Padded core text) ∧
    (∀ other bytes?, other ≠ switch →
      (ofEnvironment (environment.set bytes? other)).setting switch =
        (ofEnvironment environment).setting switch) ∧
    (∀ before text after : String, Blank before → Blank after →
      ofEnvironment (environment.set (some (before ++ text ++ after).toUTF8) switch) =
        ofEnvironment (environment.set (some text.toUTF8) switch)) ∧
    ∀ bytes : ByteArray, ¬bytes.IsValidUTF8 →
      ofEnvironment (environment.set (some bytes) switch) =
        ofEnvironment (environment.set none switch) := by
  refine ⟨?_, ?_, fun text => turnsOn_eq_false_iff, ?_, ?_, ?_⟩
  · rw [setting_ofEnvironment]
    exact getD_flagOf?_eq_iff
  · intro text h
    rw [setting_ofEnvironment, h, (Holds.text text).flagOf?_eq, Option.map_some, Option.getD_some]
  · intro other bytes? hne
    rw [setting_ofEnvironment_set, if_neg hne]
  · intro before text after hb ha
    apply ofEnvironment_set_congr
    rw [(Holds.text _).flagOf?_eq, (Holds.text _).flagOf?_eq, Option.map_some, Option.map_some,
      turnsOn_padded hb ha]
  · intro bytes hn
    apply ofEnvironment_set_congr
    rw [(Holds.undecodable hn).flagOf?_eq, Holds.unset.flagOf?_eq]

/-- The bytes that would make up half of a surrogate pair. -/
def surrogate : ByteArray := ⟨#[0xed, 0xa0, 0x80]⟩

/-- Off between an ideographic space and a tab, and by default where nothing can be decoded. -/
theorem ofEnvironment_switch_padded :
    Blank "\u3000" ∧ Blank "\t" ∧ ¬surrogate.IsValidUTF8 ∧
    ofEnvironment ⟨some ("\u3000" ++ "False" ++ "\t").toUTF8, some surrogate⟩ =
      ofEnvironment ⟨some "False".toUTF8, none⟩ ∧
    (ofEnvironment ⟨some "False".toUTF8, none⟩).setting .fastOps = false ∧
    (ofEnvironment ⟨some "False".toUTF8, none⟩).setting .fullTrace = false := by
  have hb : Blank "\u3000" := by simp [Blank, isBlank]
  have ha : Blank "\t" := by simp [Blank, isBlank]
  have hs : ¬surrogate.IsValidUTF8 := by decide
  have padded := (ofEnvironment_switch ⟨none, some surrogate⟩ .fastOps).2.2.2.2.1 _ "False" _ hb ha
  have unset := (ofEnvironment_switch ⟨some "False".toUTF8, none⟩ .fullTrace).2.2.2.2.2 _ hs
  have fast := ofEnvironment_switch ⟨some "False".toUTF8, none⟩ .fastOps
  have trace := ofEnvironment_switch ⟨some "False".toUTF8, none⟩ .fullTrace
  refine ⟨hb, ha, hs, padded.trans unset, ?_, trace.1.2 (.inl rfl)⟩
  rw [fast.2.1 "False" rfl, fast.2.2.1]
  exact ⟨"False", by simp, "", "", by simp [Blank], by simp [Blank], rfl⟩

end Config
end CallDispatch
