import CallDispatch.Json.Ignored
import CallDispatch.Proofs.Json.Grammar

namespace CallDispatch.Json

variable {s s' r : List Char}

theorem Blanks.of_append {blanks : List Char} (h : ∀ c ∈ blanks, isBlank c = true)
    (r : List Char) : Blanks (blanks ++ r) r := by
  induction blanks with
  | nil => exact .none r
  | cons c blanks ih =>
    exact .blank (h c List.mem_cons_self) (ih fun c hc => h c (List.mem_cons_of_mem _ hc))

theorem Blanks.mem_of_mem {c : Char} (h : Blanks s r) (hc : c ∈ r) : c ∈ s := by
  induction h with
  | none => exact hc
  | blank _ _ ih => exact List.mem_cons_of_mem _ (ih hc)

theorem Blanks.skipBlanks_eq (h : Blanks s r) : skipBlanks s = skipBlanks r := by
  induction h with
  | none => rfl
  | blank hc _ ih => exact (List.dropWhile_cons_of_pos hc).trans ih

theorem Blanks.skipBlanks_cons {c : Char} (h : Blanks s (c :: r)) (hc : isBlank c = false) :
    skipBlanks s = c :: r := by
  rw [h.skipBlanks_eq]
  exact List.dropWhile_cons_of_neg (by simp [hc])

theorem Blanks.skipBlanks_nil (h : Blanks s []) : skipBlanks s = [] :=
  h.skipBlanks_eq

def stops : List Char := [' ', '\n', '\t', '\r', ',', ']', '}']

theorem forall_mem_stops {p : Char → Prop} [DecidablePred p] (h : stops.all (p ·) = true) :
    ∀ c ∈ stops, p c := by
  intro c hc
  exact of_decide_eq_true (List.all_eq_true.1 h c hc)

/-- A text does not go on with what could belong to a value before it. -/
def Stops (r : List Char) : Prop :=
  ∀ c ∈ r.head?, c ∈ stops

theorem stops_cons {c : Char} (h : c ∈ stops) (r : List Char) : Stops (c :: r) := by
  intro c' hc
  cases hc
  exact h

theorem mem_stops_of_isBlank {c : Char} (h : isBlank c = true) : c ∈ stops := by
  simp only [isBlank, Bool.or_eq_true, decide_eq_true_eq] at h
  rcases h with ((h | h) | h) | h <;> subst h <;> decide

theorem Blanks.stops (h : Blanks s r) (hr : Stops r) : Stops s := by
  cases h with
  | none => exact hr
  | blank hc => exact stops_cons (mem_stops_of_isBlank hc) _

def Undigited (s : List Char) : Prop :=
  ∀ c ∈ s.head?, c.isDigit = false

theorem undigited_cons {c : Char} (h : c.isDigit = false) (r : List Char) :
    Undigited (c :: r) := by
  intro c' hc
  cases hc
  exact h

theorem Undigited.takeWhile_eq (h : Undigited s) : s.takeWhile Char.isDigit = [] := by
  cases s with
  | nil => rfl
  | cons c s => exact List.takeWhile_cons_of_neg (by simp [h c rfl])

theorem Undigited.dropWhile_eq (h : Undigited s) : s.dropWhile Char.isDigit = s := by
  cases s with
  | nil => rfl
  | cons c s => exact List.dropWhile_cons_of_neg (by simp [h c rfl])

theorem Undigited.takeWhile_append {ds : List Char} (h : Undigited s)
    (hd : ∀ d ∈ ds, d.isDigit = true) : (ds ++ s).takeWhile Char.isDigit = ds := by
  rw [List.takeWhile_append_of_pos hd, h.takeWhile_eq, List.append_nil]

theorem Undigited.dropWhile_append {ds : List Char} (h : Undigited s)
    (hd : ∀ d ∈ ds, d.isDigit = true) : (ds ++ s).dropWhile Char.isDigit = s := by
  rw [List.dropWhile_append_of_pos hd, h.dropWhile_eq]

theorem Stops.undigited (h : Stops r) : Undigited r := by
  have hd : ∀ c ∈ Json.stops, c.isDigit = false := forall_mem_stops (by decide)
  intro c hc
  exact hd c (h c hc)

theorem Power.undigited {power : Option Decimal.Exponent} (h : Power power s r) (hr : Stops r) :
    Undigited s := by
  cases h with
  | absent => exact hr.undigited
  | present he => rcases he with rfl | rfl <;> exact undigited_cons rfl _

theorem Fraction.undigited {fs : List Char} (h : Fraction fs s r) (hr : Undigited r) :
    Undigited s := by
  cases h with
  | absent => exact hr
  | present => exact undigited_cons rfl _

theorem Digits.someDigits_eq {ds : List Char} (h : Digits ds) (hr : Undigited r)
    (atEnd : Cause) : someDigits atEnd (ds ++ r) = .ok (ds, r) := by
  rw [someDigits, hr.takeWhile_append h.2, hr.dropWhile_append h.2]
  cases ds with
  | nil => exact absurd rfl h.1
  | cons d ds => rfl

theorem Whole.wholeDigits_eq {ws : List Char} (h : Whole ws) (hr : Undigited r)
    (atEnd : Cause) : wholeDigits atEnd (ws ++ r) = .ok (ws, r) := by
  cases h with
  | zero => simp [wholeDigits, hr.takeWhile_eq]
  | @digits d ds hne hd =>
    have hds : ∀ c ∈ ds, c.isDigit = true := fun c hc => hd.2 c (List.mem_cons_of_mem _ hc)
    rw [List.cons_append, wholeDigits, if_pos (hd.2 d List.mem_cons_self),
      hr.takeWhile_append hds, hr.dropWhile_append hds]
    simpa using hne

theorem Fraction.fractionDigits_eq {fs : List Char} (h : Fraction fs s r) (hr : Undigited r)
    (hp : ∀ c ∈ r.head?, c ≠ '.') (atEnd : Cause) :
    fractionDigits atEnd s = .ok (fs, r) := by
  cases h with
  | absent =>
    rw [fractionDigits]
    intro r' he
    exact hp '.' (by simp [he]) rfl
  | present _ hd => exact hd.someDigits_eq hr atEnd

theorem Sign.exponentSign_eq {negative : Bool} (h : Sign negative s r)
    (hr : ∀ c ∈ r.head?, c.isDigit = true) : exponentSign s = (negative, r) := by
  cases h with
  | plus => rfl
  | minus => rfl
  | absent =>
    rw [exponentSign]
    · intro r' he
      exact absurd (hr '-' (by simp [he])) (by decide)
    · intro r' he
      exact absurd (hr '+' (by simp [he])) (by decide)

theorem Power.exponentPart_eq {power : Option Decimal.Exponent} (h : Power power s r)
    (hr : Stops r) (atEnd : Cause) : exponentPart atEnd s = .ok (power, r) := by
  cases h with
  | absent =>
    have hne : ∀ c ∈ Json.stops, ¬(c = 'e' ∨ c = 'E') := forall_mem_stops (by decide)
    cases s with
    | nil => rfl
    | cons c s => exact if_neg (hne c (hr c rfl))
  | @present e negative s ds _ he hs hd =>
    have hds : ∀ c ∈ (ds ++ r).head?, c.isDigit = true := by
      intro c hc
      cases ds with
      | nil => exact absurd rfl hd.1
      | cons d ds =>
        cases hc
        exact hd.2 c List.mem_cons_self
    rw [exponentPart, if_pos he, hs.exponentSign_eq hds, hd.someDigits_eq hr.undigited]
    rfl

theorem Power.head_ne_point {power : Option Decimal.Exponent} (h : Power power s r)
    (hr : Stops r) : ∀ c ∈ s.head?, c ≠ '.' := by
  intro c hc
  cases h with
  | absent =>
    have hne : ∀ c ∈ Json.stops, c ≠ '.' := forall_mem_stops (by decide)
    exact hne c (hr c hc)
  | present he =>
    cases hc
    rcases he with rfl | rfl <;> decide

theorem Whole.head {ws : List Char} (h : Whole ws) :
    ∃ d ds, ws = d :: ds ∧ d.isDigit = true := by
  cases h with
  | zero => exact ⟨'0', [], rfl, rfl⟩
  | digits _ hd => exact ⟨_, _, rfl, hd.2 _ List.mem_cons_self⟩

theorem Number.numeral_eq {n : Decimal.Numeral} (h : Number n s r) (hr : Stops r)
    (atEnd : Cause) : numeral atEnd s = .ok (n, r) := by
  cases h with
  | @positive ws fs s s' _ power hw hf hp =>
    obtain ⟨d, ds, rfl, hd⟩ := hw.head
    have hm : minusSign (d :: ds ++ s) = (false, d :: ds ++ s) := by
      rw [minusSign]
      intro r' he
      cases he
      exact absurd hd (by decide)
    have hu := hp.undigited hr
    simp only [numeral, hm, hw.wholeDigits_eq (hf.undigited hu),
      hf.fractionDigits_eq hu (hp.head_ne_point hr), hp.exponentPart_eq hr, bind, Except.bind]
  | @negative ws fs s s' _ power hw hf hp =>
    have hu := hp.undigited hr
    simp only [numeral, minusSign, hw.wholeDigits_eq (hf.undigited hu),
      hf.fractionDigits_eq hu (hp.head_ne_point hr), hp.exponentPart_eq hr, bind, Except.bind]

theorem Number.head {n : Decimal.Numeral} (h : Number n s r) :
    ∃ c s', s = c :: s' ∧ (c = '-' ∨ c.isDigit = true) := by
  cases h with
  | positive hw =>
    obtain ⟨d, ds, rfl, hd⟩ := hw.head
    exact ⟨d, _, rfl, .inr hd⟩
  | negative => exact ⟨'-', _, rfl, .inl rfl⟩

theorem hexUnit_eq {a b c d : Char} {n : Nat} (h : hexNumber? a b c d = some n)
    (s : List Char) : hexUnit (a :: b :: c :: d :: s) = .ok (n, s) := by
  simp only [hexNumber?, bind, Option.bind_eq_some_iff] at h
  obtain ⟨h, ha, i, hb, j, hc, k, hd, he⟩ := h
  cases he
  simp [hexUnit, ha, hb, hc, hd]

theorem skipEscaped_escape {e c : Char} (h : escape? e = some c) (s : List Char) :
    skipEscaped (e :: s) = .ok s := by
  rw [skipEscaped, if_pos (by simp [h])]
  intro he
  subst he
  cases h

theorem skipEscaped_unit {a b c d : Char} {n : Nat} (h : hexNumber? a b c d = some n)
    (s : List Char) : skipEscaped ('u' :: a :: b :: c :: d :: s) = .ok s := by
  rw [skipEscaped, hexUnit_eq h]
  rfl

/-- A string is passed over to its end. -/
theorem Quoted.skipText_eq {pieces : List Piece} (h : Quoted pieces s r) :
    skipText s = .ok r := by
  induction h with
  | done r => exact skipText_quotation r
  | plain hq hb hc _ ih => rw [skipText_plain hq hb hc, ih]
  | escape he _ ih => rw [skipText_escaped (skipEscaped_escape he _), ih]
  | unit h _ ih => rw [skipText_escaped (skipEscaped_unit h _), ih]

theorem toOption_map {ε α β : Type} (x : Except ε α) (f : α → β) :
    (x.map f).toOption = x.toOption.map f := by
  cases x <;> rfl

theorem toOption_bind {ε α β : Type} (x : Except ε α) (f : α → Except ε β) :
    (x >>= f).toOption = x.toOption.bind fun a => (f a).toOption := by
  cases x <;> rfl

theorem escaped_escape {e c : Char} (h : escape? e = some c) (s : List Char) :
    escaped (e :: s) = .ok (c, s) := by
  rw [escaped, h]
  intro he
  subst he
  cases h

theorem toOption_textFrom_escaped (read s : List Char) :
    (textFrom read ('\\' :: s)).toOption =
      (escaped s).toOption.bind fun (c, r) => (textFrom (c :: read) r).toOption := by
  cases h : escaped s with
  | ok p => exact congrArg Except.toOption (textFrom_escaped h)
  | error failure =>
    rw [textFrom]
    split
    · next h' => cases h.symm.trans h'
    · rfl

section
variable {a b c d : Char} {n : Nat} (h : hexNumber? a b c d = some n) (s : List Char)
include h

theorem escaped_unit (hn : isSurrogate n = false) :
    escaped ('u' :: a :: b :: c :: d :: s) = .ok (.ofNat n, s) := by
  simp only [isSurrogate, Bool.or_eq_false_iff] at hn
  simp [escaped, numberedChar, hexUnit_eq h, bind, Except.bind, hn.1, hn.2]

theorem toOption_escaped_surrogate (hn : isSurrogate n = true) :
    (escaped ('u' :: a :: b :: c :: d :: s)).toOption =
      if isLeadingSurrogate n then (surrogatePair n s).toOption else none := by
  have hc : isTrailingSurrogate n = !isLeadingSurrogate n := by
    simp only [isSurrogate, isLeadingSurrogate, isTrailingSurrogate] at hn ⊢
    grind
  simp only [escaped, numberedChar, hexUnit_eq h, bind, Except.bind, hc]
  cases isLeadingSurrogate n <;> rfl

theorem toOption_surrogatePair_unit (leading : Nat) :
    (surrogatePair leading ('\\' :: 'u' :: a :: b :: c :: d :: s)).toOption =
      if isTrailingSurrogate n then some (ofSurrogates leading n, s) else none := by
  simp only [surrogatePair, surrogateMark, if_true, bind, Except.bind, hexUnit_eq h]
  split <;> rfl

end

theorem chars?_unit {n : Nat} (h : isSurrogate n = false) (pieces : List Piece) :
    chars? (.unit n :: pieces) = (chars? pieces).map (.ofNat n :: ·) := by
  rw [chars?.eq_def]
  simp only [h, Bool.false_eq_true, if_false]

theorem toOption_surrogatePair {pieces : List Piece} (h : Quoted pieces s r)
    (hp : ∀ m pieces', pieces ≠ .unit m :: pieces') (n : Nat) :
    (surrogatePair n s).toOption = none := by
  cases h with
  | done => rfl
  | plain hq hb => simp [surrogatePair, surrogateMark, hb, bind, Except.bind, Except.toOption]
  | @escape e c _ _ _ he =>
    have hu : e ≠ 'u' := by
      intro hu
      subst hu
      cases he
    simp [surrogatePair, surrogateMark, hu, bind, Except.bind, Except.toOption]
  | unit => exact absurd rfl (hp _ _)

/-- A string is read to its end, or refused if it is not Unicode. -/
theorem Quoted.toOption_textFrom {pieces : List Piece} (h : Quoted pieces s r)
    (read : List Char) : (textFrom read s).toOption =
      (chars? pieces).map fun cs => (String.ofList (read.reverse ++ cs), r) := by
  fun_induction chars? pieces generalizing s read with
  | case1 =>
    cases h
    simp [textFrom_quotation, Except.toOption]
  | case2 c pieces ih =>
    cases h with
    | plain hq hb hc h => simp [textFrom_plain hq hb hc, ih h, Function.comp_def]
    | escape he h => simp [textFrom_escaped (escaped_escape he _), ih h, Function.comp_def]
  | case3 n hn m pieces hp ih =>
    -- Both halves of a surrogate pair.
    simp only [Bool.and_eq_true] at hp
    cases h with
    | unit hx h =>
      cases h with
      | unit hx' h =>
        rw [toOption_textFrom_escaped, toOption_escaped_surrogate hx _ hn, if_pos hp.1,
          toOption_surrogatePair_unit hx', if_pos hp.2]
        simp [ih h, Function.comp_def]
  | case4 n hn m pieces hp =>
    -- A surrogate, and a unit that is not its other half.
    cases h with
    | unit hx h =>
      cases h with
      | unit hx' h =>
        rw [toOption_textFrom_escaped, toOption_escaped_surrogate hx _ hn,
          toOption_surrogatePair_unit hx']
        simp only [Bool.and_eq_true, not_and, Bool.not_eq_true] at hp
        by_cases hl : isLeadingSurrogate n = true
        · simp [hl, hp hl]
        · simp [hl]
  | case5 n pieces hn hp =>
    -- A surrogate with no unit behind it.
    cases h with
    | unit hx h =>
      rw [toOption_textFrom_escaped, toOption_escaped_surrogate hx _ hn,
        toOption_surrogatePair h hp]
      simp
  | case6 n pieces hn ih =>
    cases h with
    | unit hx h =>
      rw [textFrom_escaped (escaped_unit hx _ (Bool.eq_false_iff.2 hn)), ih h]
      simp [Function.comp_def]

theorem Quoted.toOption_text {pieces : List Piece} (h : Quoted pieces s r) :
    (text s).toOption = (text? pieces).map (·, r) := by
  rw [text, h.toOption_textFrom, text?, Option.map_map]
  rfl

end CallDispatch.Json
