import CallDispatch.Text
import Mathlib.Data.List.Infix

namespace CallDispatch.Text

/-- What stands for a thing also tells where it ends. -/
def Separable {α : Type} (f : α → List Char) : Prop :=
  ∀ ⦃a b : α⦄ ⦃r s : List Char⦄, f a ++ r = f b ++ s → a = b ∧ r = s

variable {c d e : Char} {r s t u : List Char}

theorem append_cons_inj {α : Type} {mark : α} {xs ys r s : List α} (hx : mark ∉ xs)
    (hy : mark ∉ ys) (h : xs ++ mark :: r = ys ++ mark :: s) : xs = ys ∧ r = s := by
  induction xs generalizing ys with
  | nil =>
    cases ys with
    | nil => exact ⟨rfl, (List.cons.inj h).2⟩
    | cons y ys => exact absurd (List.mem_cons.2 (.inl (List.cons.inj h).1)) hy
  | cons x xs ih =>
    cases ys with
    | nil => exact absurd (List.mem_cons.2 (.inl (List.cons.inj h).1.symm)) hx
    | cons y ys =>
      obtain ⟨rfl, ht⟩ := List.cons.inj h
      obtain ⟨he, hr⟩ := ih (List.not_mem_of_not_mem_cons hx) (List.not_mem_of_not_mem_cons hy) ht
      exact ⟨congrArg (x :: ·) he, hr⟩

theorem digitChar_inj {m n : Nat} (hm : m < 16) (hn : n < 16)
    (h : Nat.digitChar m = Nat.digitChar n) : m = n := by
  have hd : ∀ m < 16, ∀ n < 16, Nat.digitChar m = Nat.digitChar n → m = n := by decide
  exact hd m hm n hn h

theorem toDigits_ne_singleton {n : Nat} (hn : 16 ≤ n) (c : Char) : Nat.toDigits 16 n ≠ [c] := by
  intro h
  rw [Nat.toDigits_of_base_le (by decide) hn] at h
  have hl := congrArg List.length h
  have hne := List.length_pos_iff.2 (Nat.toDigits_ne_nil (n := n / 16) (b := 16))
  simp only [List.length_append, List.length_singleton] at hl
  omega

theorem toDigits_injective : Function.Injective (Nat.toDigits 16) := by
  intro m n h
  induction m using Nat.strongRecOn generalizing n with
  | ind m ih =>
    rcases Nat.lt_or_ge m 16 with hm | hm
    · rw [Nat.toDigits_of_lt_base hm] at h
      rcases Nat.lt_or_ge n 16 with hn | hn
      · rw [Nat.toDigits_of_lt_base hn] at h
        exact digitChar_inj hm hn (List.singleton_inj.1 h)
      · exact absurd h.symm (toDigits_ne_singleton hn _)
    · rcases Nat.lt_or_ge n 16 with hn | hn
      · rw [Nat.toDigits_of_lt_base hn] at h
        exact absurd h (toDigits_ne_singleton hm _)
      · -- The last digits agree, and so do the numbers before them.
        rw [Nat.toDigits_of_base_le (by decide) hm, Nat.toDigits_of_base_le (by decide) hn] at h
        obtain ⟨hq, hr⟩ := List.append_inj' h rfl
        have hq := ih (m / 16) (by omega) hq
        have hr := digitChar_inj (by omega) (by omega) (List.singleton_inj.1 hr)
        omega

theorem brace_not_mem_toDigits (n : Nat) : '}' ∉ Nat.toDigits 16 n := by
  have hd : ∀ n < 16, '}' ≠ Nat.digitChar n := by decide
  induction n using Nat.strongRecOn with
  | ind n ih =>
    rcases Nat.lt_or_ge n 16 with hn | hn
    · rw [Nat.toDigits_of_lt_base hn, List.mem_singleton]
      exact hd n hn
    · rw [Nat.toDigits_of_base_le (by decide) hn, List.mem_append, List.mem_singleton, not_or]
      exact ⟨ih (n / 16) (by omega), hd _ (Nat.mod_lt _ (by decide))⟩

def short? : Char → Option Char
  | '"' => some '"'
  | '\\' => some '\\'
  | '0' => some '\x00'
  | 't' => some '\t'
  | 'n' => some '\n'
  | 'r' => some '\r'
  | _ => none

/-- The forms in which characters are shown. -/
inductive Shows : Char → List Char → Prop
  | plain {c : Char} : c ≠ '"' → c ≠ '\\' → Shows c [c]
  | short {e c : Char} : short? e = some c → Shows c ['\\', e]
  | numbered (c : Char) : Shows c (numbered c)

theorem shows_shown (c : Char) : Shows c (shown c) := by
  unfold shown
  split
  · exact .short rfl
  · exact .short rfl
  · exact .short rfl
  · exact .short rfl
  · exact .short rfl
  · exact .short rfl
  · next hq hb _ _ _ _ =>
    split
    · exact .numbered c
    · exact .plain hq hb

theorem numbered_append_inj (h : numbered c ++ r = numbered d ++ s) : c = d ∧ r = s := by
  simp only [numbered, List.cons_append, List.append_assoc, List.cons.injEq, true_and] at h
  obtain ⟨hn, hr⟩ := append_cons_inj (brace_not_mem_toDigits _) (brace_not_mem_toDigits _) h
  exact ⟨Char.toNat_inj.1 (toDigits_injective hn), hr⟩

theorem Shows.append_inj (h : Shows c t) (h' : Shows d u) (he : t ++ r = u ++ s) :
    c = d ∧ r = s := by
  cases h with
  | plain hq hb =>
    cases h' with
    | plain => exact List.cons.inj he
    | short => exact absurd (List.cons.inj he).1 hb
    | numbered => exact absurd (List.cons.inj he).1 hb
  | short hc =>
    cases h' with
    | plain hq hb => exact absurd (List.cons.inj he).1.symm hb
    | short hd =>
      obtain ⟨rfl, hr⟩ := List.cons.inj (List.cons.inj he).2
      exact ⟨Option.some.inj (hc.symm.trans hd), hr⟩
    | numbered =>
      obtain ⟨rfl, -⟩ := List.cons.inj (List.cons.inj he).2
      cases hc
  | numbered =>
    cases h' with
    | plain hq hb => exact absurd (List.cons.inj he).1.symm hb
    | short hd =>
      obtain ⟨rfl, -⟩ := List.cons.inj (List.cons.inj he).2
      cases hd
    | numbered => exact numbered_append_inj he

theorem separable_shown : Separable shown := by
  intro c d r s h
  exact (shows_shown c).append_inj (shows_shown d) h

theorem Shows.ne_quotationMark (h : Shows c t) : t ++ r ≠ '"' :: s := by
  cases h with
  | plain hq _ => exact fun he => hq (List.cons.inj he).1
  | short => exact fun he => absurd (List.cons.inj he).1 (by decide)
  | numbered => exact fun he => absurd (List.cons.inj he).1 (by decide)

/-- The first quotation mark that is not part of a character ends a text. -/
theorem flatMap_shown_inj {cs ds : List Char}
    (h : cs.flatMap shown ++ '"' :: r = ds.flatMap shown ++ '"' :: s) : cs = ds ∧ r = s := by
  induction cs generalizing ds with
  | nil =>
    cases ds with
    | nil => exact ⟨rfl, (List.cons.inj h).2⟩
    | cons d ds =>
      rw [List.flatMap_cons, List.append_assoc] at h
      exact absurd h.symm (shows_shown d).ne_quotationMark
  | cons c cs ih =>
    cases ds with
    | nil =>
      rw [List.flatMap_cons, List.append_assoc] at h
      exact absurd h (shows_shown c).ne_quotationMark
    | cons d ds =>
      rw [List.flatMap_cons, List.flatMap_cons, List.append_assoc, List.append_assoc] at h
      obtain ⟨rfl, ht⟩ := separable_shown h
      obtain ⟨rfl, hr⟩ := ih ht
      exact ⟨rfl, hr⟩

theorem separable_quote : Separable fun text => (quote text).toList := by
  intro text other r s h
  simp only [quote, String.toList_ofList, List.cons_append, List.append_assoc, List.cons.injEq,
    true_and] at h
  obtain ⟨ht, h⟩ := flatMap_shown_inj h
  exact ⟨String.toList_inj.1 ht, h⟩

section
variable {α : Type} {f : α → String}

def behind (f : α → String) (as : List α) : List Char :=
  as.flatMap fun a => ',' :: ' ' :: (f a).toList

theorem toList_intercalate_cons (f : α → String) (a : α) (as : List α) :
    (", ".intercalate ((a :: as).map f)).toList = (f a).toList ++ behind f as := by
  induction as generalizing a with
  | nil => simp [behind]
  | cons b as ih =>
    have hb : behind f (b :: as) = ',' :: ' ' :: ((f b).toList ++ behind f as) := by
      simp [behind]
    rw [List.map_cons, List.map_cons, String.intercalate_cons_cons, String.toList_append,
      String.toList_append, ← List.map_cons, ih, hb]
    simp

theorem Separable.behind_inj (hf : Separable fun a => (f a).toList) {as bs : List α}
    (h : behind f as = behind f bs) : as = bs := by
  induction as generalizing bs with
  | nil =>
    cases bs with
    | nil => rfl
    | cons b bs => cases h
  | cons a as ih =>
    cases bs with
    | nil => cases h
    | cons b bs =>
      have hc := (List.cons.inj (List.cons.inj h).2).2
      obtain ⟨rfl, ht⟩ := hf hc
      rw [ih ht]

theorem Separable.intercalate_inj (hf : Separable fun a => (f a).toList) (hne : ∀ a, f a ≠ "")
    {as bs : List α} (h : ", ".intercalate (as.map f) = ", ".intercalate (bs.map f)) :
    as = bs := by
  have hl := congrArg String.toList h
  cases as with
  | nil =>
    cases bs with
    | nil => rfl
    | cons b bs =>
      rw [toList_intercalate_cons] at hl
      have hb := (List.append_eq_nil_iff.1 hl.symm).1
      exact absurd (String.toList_eq_nil_iff.1 hb) (hne b)
  | cons a as =>
    cases bs with
    | nil =>
      rw [toList_intercalate_cons] at hl
      have ha := (List.append_eq_nil_iff.1 hl).1
      exact absurd (String.toList_eq_nil_iff.1 ha) (hne a)
    | cons b bs =>
      rw [toList_intercalate_cons, toList_intercalate_cons] at hl
      obtain ⟨rfl, ht⟩ := hf hl
      rw [hf.behind_inj ht]

end

theorem enclosed_inj {opening closing text other : String}
    (h : opening ++ text ++ closing = opening ++ other ++ closing) : text = other := by
  rwa [String.append_left_inj, String.append_right_inj] at h

theorem quote_ne_empty (text : String) : quote text ≠ "" := by
  intro h
  have hl := congrArg String.toList h
  rw [quote, String.toList_ofList] at hl
  cases hl

/-- A list of quoted texts tells the texts, whatever characters they are made of. -/
theorem quoteAll_injective : Function.Injective quoteAll := by
  intro texts others h
  exact separable_quote.intercalate_inj quote_ne_empty (enclosed_inj h)

end CallDispatch.Text
