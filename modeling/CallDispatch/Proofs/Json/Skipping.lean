import CallDispatch.Proofs.Json.Tokens

namespace CallDispatch.Json

variable {s r : List Char}

def Value.Opens : Value → Char → Prop
  | .null, c => c = 'n'
  | .boolean true, c => c = 't'
  | .boolean false, c => c = 'f'
  | .number _, c => c = '-' ∨ c.isDigit = true
  | .string _, c => c = '"'
  | .list _, c => c = '['
  | .object _, c => c = '{'

theorem Spelled.opens {v : Value} (h : Spelled v s r) : ∃ c s', s = c :: s' ∧ v.Opens c := by
  cases h with
  | null => exact ⟨_, _, rfl, rfl⟩
  | true => exact ⟨_, _, rfl, rfl⟩
  | false => exact ⟨_, _, rfl, rfl⟩
  | number h => exact h.head
  | string => exact ⟨_, _, rfl, rfl⟩
  | list => exact ⟨_, _, rfl, rfl⟩
  | object => exact ⟨_, _, rfl, rfl⟩

theorem Value.Opens.not_mem_stops {v : Value} {c : Char} (h : v.Opens c) : c ∉ stops := by
  have hd : ∀ c ∈ stops, c ≠ '-' ∧ c.isDigit = false := forall_mem_stops (by decide)
  intro hc
  match v, h with
  | .null, h | .boolean true, h | .boolean false, h | .string _, h | .list _, h | .object _, h =>
    subst h
    exact absurd hc (by decide)
  | .number _, .inl h => exact (hd c hc).1 h
  | .number _, .inr h => exact absurd (h.symm.trans (hd c hc).2) (by decide)

theorem Value.Opens.isBlank_eq {v : Value} {c : Char} (h : v.Opens c) : isBlank c = false :=
  Bool.eq_false_iff.2 fun hb => h.not_mem_stops (mem_stops_of_isBlank hb)

def skipAfter (brackets : List Bracket) (s : List Char) : Except Failure (List Char) :=
  match skipEnd brackets s with
  | .error failure => .error failure
  | .ok ([], r) => .ok r
  | .ok (bracket :: outer, r) => skipWithin (bracket :: outer) r

theorem skipWithin_scalar {brackets : List Bracket} (h : skipStart s = .ok (none, r)) :
    skipWithin brackets s = skipAfter brackets r :=
  skipWithin_complete h

theorem skipAfter_nil (s : List Char) : skipAfter [] s = .ok s :=
  rfl

theorem skipWithin_error {brackets : List Bracket} {failure : Failure}
    (h : skipStart s = .error failure) : skipWithin brackets s = .error failure := by
  rw [skipWithin]
  split
  · next h' => cases h.symm.trans h'; rfl
  · next h' => cases h.symm.trans h'
  · next h' => cases h.symm.trans h'

theorem Blanks.skipWithin_eq (h : Blanks s r) (brackets : List Bracket) :
    skipWithin brackets s = skipWithin brackets r := by
  have hs : skipStart s = skipStart r := by rw [skipStart, skipStart, h.skipBlanks_eq]
  cases hr : skipStart r with
  | error failure => rw [skipWithin_error hr, skipWithin_error (hs.trans hr)]
  | ok p =>
    obtain ⟨opened, r'⟩ := p
    cases opened with
    | none => rw [skipWithin_scalar hr, skipWithin_scalar (hs.trans hr)]
    | some bracket => rw [skipWithin_opened hr, skipWithin_opened (hs.trans hr)]

def Bracket.opening : Bracket → Char
  | list => '['
  | object => '{'

theorem Bracket.skipStart_eq (bracket : Bracket) (s : List Char) :
    skipStart (bracket.opening :: s) = skipOpening bracket s := by
  cases bracket <;> rfl

/-- Passes over a bracket from before its first element, or else from behind an element. -/
def skipInside (bracket : Bracket) (brackets : List Bracket) : Bool → List Char →
    Except Failure (List Char)
  | true, s => skipWithin brackets (bracket.opening :: s)
  | false, s => skipAfter (bracket :: brackets) s

variable {bracket : Bracket} {brackets : List Bracket}

theorem Bracket.isBlank_closing (bracket : Bracket) : isBlank bracket.closing = false := by
  cases bracket <;> rfl

theorem Bracket.closing_ne_comma (bracket : Bracket) : bracket.closing ≠ ',' := by
  cases bracket <;> decide

theorem skipInside_closed (first : Bool) (h : Blanks s (bracket.closing :: r)) :
    skipInside bracket brackets first s = skipAfter brackets r := by
  have hs := h.skipBlanks_cons bracket.isBlank_closing
  cases first with
  | true =>
    have ho : skipOpening bracket s = .ok (none, r) := by
      rw [skipOpening, hs]
      exact if_pos rfl
    exact skipWithin_scalar ((bracket.skipStart_eq s).trans ho)
  | false =>
    have he : skipEnd (bracket :: brackets) s = skipEnd brackets r := by
      rw [skipEnd, hs]
      simp only [bracket.closing_ne_comma, if_false, if_true]
    rw [skipInside, skipAfter, he]
    rfl

theorem skipInside_opened (bracket : Bracket) (brackets : List Bracket) {first : Bool} {c : Char}
    (h : Separator first s (c :: r))
    (hb : isBlank c = false) (hc : c ≠ bracket.closing) :
    ∃ s', Blanks s' (c :: r) ∧ ∀ t, skipToValue bracket s' = .ok t →
      skipInside bracket brackets first s = skipWithin (bracket :: brackets) t := by
  cases first with
  | true =>
    have hs := Blanks.skipBlanks_cons h hb
    refine ⟨c :: r, .none _, ?_⟩
    intro t ht
    have ho : skipOpening bracket s = .ok (some bracket, t) := by
      rw [skipOpening, hs]
      simp only [hc, if_false, ht]
      rfl
    exact skipWithin_opened ((bracket.skipStart_eq s).trans ho)
  | false =>
    obtain ⟨s', hs, hs'⟩ := h
    refine ⟨s', hs', ?_⟩
    intro t ht
    have he : skipEnd (bracket :: brackets) s = .ok (bracket :: brackets, t) := by
      rw [skipEnd, hs.skipBlanks_cons rfl]
      simp only [if_true, ht]
      rfl
    rw [skipInside, skipAfter, he]

theorem skipStart_scalar {c : Char} (hb : isBlank c = false) (hl : c ≠ '[') (ho : c ≠ '{') :
    skipStart (c :: s) = (skipScalar (c :: s)).map (none, ·) := by
  have hs : skipBlanks (c :: s) = c :: s := (Blanks.none _).skipBlanks_cons hb
  rw [skipStart, hs]
  split
  · next he =>
    cases he
    exact absurd rfl hl
  · next he =>
    cases he
    exact absurd rfl ho
  · rfl

theorem Number.skipStart_eq {n : Decimal.Numeral} (h : Number n s r) (hr : Stops r) :
    skipStart s = .ok (none, r) := by
  obtain ⟨c, s', rfl, hc⟩ := h.head
  have hn : ∀ d, d ≠ '-' → d.isDigit = false → c ≠ d := by
    intro d hm hd he
    subst he
    rcases hc with hc | hc
    · exact hm hc
    · exact absurd (hc.symm.trans hd) (by decide)
  have hb : isBlank c = false := Value.Opens.isBlank_eq (v := .number n) hc
  rw [skipStart_scalar hb (hn _ (by decide) rfl) (hn _ (by decide) rfl), skipScalar, if_pos hc,
    h.numeral_eq hr]
  · rfl
  all_goals exact hn _ (by decide) rfl

theorem Blanks.colon_eq (h : Blanks s (':' :: r)) : colon s = .ok r := by
  rw [colon, h.skipBlanks_cons rfl]
  rfl

theorem Blanks.skipName_eq {pieces : List Piece} {s₁ s₂ : List Char} (h : Blanks s ('"' :: s₁))
    (hn : Quoted pieces s₁ s₂) (hc : Blanks s₂ (':' :: r)) : skipName s = .ok r := by
  rw [skipName, h.skipBlanks_cons rfl]
  change skipText s₁ >>= colon = .ok r
  rw [hn.skipText_eq]
  exact hc.colon_eq

theorem Separator.stops (h : Separator false s r) : Stops s := by
  obtain ⟨s', hb, -⟩ := h
  exact hb.stops (stops_cons (by decide) s')

theorem Elements.stops {vs : List Value} (h : Elements false vs s r) : Stops s := by
  cases h with
  | noElement h => exact h.stops (stops_cons (by decide) r)
  | element h => exact h.stops

theorem Members.stops {ms : List (Option String × Value)} (h : Members false ms s r) :
    Stops s := by
  cases h with
  | noMember h => exact h.stops (stops_cons (by decide) r)
  | member h => exact h.stops

/-- What is left when a value has been passed over depends on the brackets around it. -/
theorem Spelled.skipWithin_eq {v : Value} (h : Spelled v s r) :
    Stops r → ∀ brackets, skipWithin brackets s = skipAfter brackets r := by
  -- Brackets are passed over by a loop with a stack, so that the elements of a list are skipped
  -- within one more bracket than the list itself.
  induction h using Spelled.rec
    (motive_2 := fun first _ s r _ => ∀ brackets,
      skipInside .list brackets first s = skipAfter brackets r)
    (motive_3 := fun first _ s r _ => ∀ brackets,
      skipInside .object brackets first s = skipAfter brackets r) with
  | null r => intro _ _; exact skipWithin_scalar rfl
  | true r => intro _ _; exact skipWithin_scalar rfl
  | false r => intro _ _; exact skipWithin_scalar rfl
  | number h => intro hr _; exact skipWithin_scalar (h.skipStart_eq hr)
  | string h =>
    intro _ _
    apply skipWithin_scalar
    rw [skipStart_scalar rfl (by decide) (by decide), skipScalar, h.skipText_eq]
    rfl
  | list _ ih => intro _; exact ih
  | object _ ih => intro _; exact ih
  | noElement h => exact skipInside_closed _ h
  | @element first v vs s s₁ s₂ r hs hv hvs ihv ihvs brackets =>
    obtain ⟨c, s₁, rfl, hc⟩ := hv.opens
    have hne : c ≠ Bracket.list.closing := by
      intro he
      subst he
      exact hc.not_mem_stops (by decide)
    obtain ⟨s', hb, hs'⟩ := skipInside_opened .list brackets hs hc.isBlank_eq hne
    rw [hs' s' rfl, hb.skipWithin_eq, ihv hvs.stops]
    exact ihvs brackets
  | noMember h => exact skipInside_closed _ h
  | member hs hn hc hb hv hms ihv ihms brackets =>
    obtain ⟨s', hq, hs'⟩ := skipInside_opened .object brackets hs rfl (by decide)
    have hname : skipToValue .object s' = .ok _ := hq.skipName_eq hn hc
    rw [hs' _ hname, hb.skipWithin_eq, ihv hms.stops]
    exact ihms brackets

/-- A value is passed over to its end. -/
theorem Spelled.skipValue_eq {v : Value} (h : Spelled v s r) (hr : Stops r) {s' : List Char}
    (hb : Blanks s' s) : skipValue s' = .ok r := by
  rw [skipValue, hb.skipWithin_eq, h.skipWithin_eq hr, skipAfter_nil]

end CallDispatch.Json
