import CallDispatch.Json.Quotation
import CallDispatch.Proofs.Json.Grammar
import CallDispatch.Proofs.Json.Tokens
import Mathlib.Data.List.Forall2

namespace CallDispatch.Json

/-- A text spells a value, whatever follows it. -/
def Spells (t : List Char) (v : Value) : Prop :=
  ∀ r, Spelled v (t ++ r) r

theorem hexDigit?_digitChar {n : Nat} (h : n < 16) : hexDigit? (Nat.digitChar n) = some n := by
  have hd : ∀ n < 16, hexDigit? (Nat.digitChar n) = some n := by decide
  exact hd n h

theorem hexNumber?_low {n : Nat} (h : n < 0x20) :
    hexNumber? '0' '0' (Nat.digitChar (n / 16)) (Nat.digitChar (n % 16)) = some n := by
  have hz : hexDigit? '0' = some 0 := rfl
  have hi := hexDigit?_digitChar (n := n / 16) (by omega)
  have hj := hexDigit?_digitChar (n := n % 16) (by omega)
  simp only [hexNumber?, hz, hi, hj, bind, Option.bind_some, Option.some.injEq]
  omega

def SpellsPiece (t : List Char) (c : Char) : Prop :=
  ∃ piece, (∀ {pieces : List Piece} {s r : List Char}, Quoted pieces s r →
      Quoted (piece :: pieces) (t ++ s) r) ∧
    ∀ pieces, chars? (piece :: pieces) = (chars? pieces).map (c :: ·)

theorem spellsPiece_escape {e c : Char} (h : escape? e = some c) :
    SpellsPiece ['\\', e] c := by
  refine ⟨.char c, ?_, fun _ => rfl⟩
  intro pieces s r hq
  exact .escape h hq

theorem spellsPiece_low {c : Char} (h : c.toNat < 0x20) :
    SpellsPiece ['\\', 'u', '0', '0', Nat.digitChar (c.toNat / 16),
      Nat.digitChar (c.toNat % 16)] c := by
  refine ⟨.unit c.toNat, ?_, ?_⟩
  · intro pieces s r hq
    exact .unit (hexNumber?_low h) hq
  · intro pieces
    have hs : isSurrogate c.toNat = false := by
      simp only [isSurrogate, isLeadingSurrogate, isTrailingSurrogate]
      grind
    rw [chars?_unit hs, Char.ofNat_toNat]

theorem spellsPiece_written (c : Char) : SpellsPiece (Layout.written c) c := by
  unfold Layout.written
  split
  · exact spellsPiece_escape rfl
  · exact spellsPiece_escape rfl
  · exact spellsPiece_escape rfl
  · exact spellsPiece_escape rfl
  · exact spellsPiece_escape rfl
  · exact spellsPiece_escape rfl
  · exact spellsPiece_escape rfl
  · next hq hb _ _ _ _ _ =>
    split
    · next h => exact spellsPiece_low h
    · next h =>
      refine ⟨.char c, ?_, fun _ => rfl⟩
      intro pieces s r hs
      exact .plain hq hb h hs

theorem exists_quoted_written (cs r : List Char) : ∃ pieces,
    Quoted pieces (cs.flatMap Layout.written ++ '"' :: r) r ∧ chars? pieces = some cs := by
  induction cs with
  | nil => exact ⟨[], .done r, rfl⟩
  | cons c cs ih =>
    obtain ⟨pieces, hq, hcs⟩ := ih
    obtain ⟨piece, hp, hc⟩ := spellsPiece_written c
    refine ⟨piece :: pieces, ?_, ?_⟩
    · rw [List.flatMap_cons, List.append_assoc]
      exact hp hq
    · rw [hc, hcs]
      rfl

theorem exists_quoted (text : String) (r : List Char) : ∃ pieces s,
    Layout.quoted text ++ r = '"' :: s ∧ Quoted pieces s r ∧ text? pieces = some text := by
  obtain ⟨pieces, hq, hcs⟩ := exists_quoted_written text.toList r
  refine ⟨pieces, _, ?_, hq, ?_⟩
  · simp [Layout.quoted]
  · rw [text?, hcs, Option.map_some, String.ofList_toList]

theorem spells_quoted (text : String) : Spells (Layout.quoted text) (.string (some text)) := by
  intro r
  obtain ⟨pieces, s, hs, hq, ht⟩ := exists_quoted text r
  rw [hs, ← ht]
  exact .string hq

theorem blanks_newline (depth : Nat) (r : List Char) : Blanks (Layout.newline depth ++ r) r := by
  apply Blanks.of_append
  intro c hc
  rcases List.mem_cons.1 hc with rfl | hc
  · rfl
  · rw [List.eq_of_mem_replicate hc]
    rfl

/-- The elements of a block behind the first, up to the closing bracket. -/
def blockRest (closing : Char) (depth : Nat) (ts : List (List Char)) (r : List Char) : List Char :=
  ts.flatMap (fun t => ',' :: Layout.newline (depth + 1) ++ t) ++
    (Layout.newline depth ++ closing :: r)

theorem blockRest_cons (closing : Char) (depth : Nat) (t : List Char) (ts : List (List Char))
    (r : List Char) : blockRest closing depth (t :: ts) r =
      ',' :: (Layout.newline (depth + 1) ++ (t ++ blockRest closing depth ts r)) := by
  simp [blockRest]

theorem block_cons (opening closing : Char) (depth : Nat) (t : List Char)
    (ts : List (List Char)) (r : List Char) :
    Layout.block opening closing depth (t :: ts) ++ r =
      opening :: (Layout.newline (depth + 1) ++ (t ++ blockRest closing depth ts r)) := by
  simp [Layout.block, blockRest]

theorem separator_blockRest (closing : Char) (depth : Nat) (t : List Char)
    (ts : List (List Char)) (r : List Char) :
    Separator false (blockRest closing depth (t :: ts) r) (t ++ blockRest closing depth ts r) := by
  rw [blockRest_cons]
  exact ⟨_, .none _, blanks_newline (depth + 1) _⟩

theorem elements_blockRest {ts : List (List Char)} {vs : List Value}
    (h : List.Forall₂ Spells ts vs) (depth : Nat) (r : List Char) :
    Elements false vs (blockRest ']' depth ts r) r := by
  induction h with
  | nil => exact .noElement (blanks_newline depth _)
  | cons hv _ ih => exact .element (separator_blockRest ..) (hv _) ih

theorem spells_list {ts : List (List Char)} {vs : List Value} (h : List.Forall₂ Spells ts vs)
    (depth : Nat) : Spells (Layout.list depth ts) (.list vs) := by
  intro r
  cases h with
  | nil => exact .list (.noElement (.none _))
  | cons hv hvs =>
    rw [Layout.list, block_cons]
    exact .list (.element (blanks_newline (depth + 1) _) (hv _) (elements_blockRest hvs depth r))

theorem spells_list_map {α : Type} {layout : α → List Char} {value : α → Value}
    (h : ∀ a, Spells (layout a) (value a)) (as : List α) (depth : Nat) :
    Spells (Layout.list depth (as.map layout)) (.list (as.map value)) := by
  apply spells_list
  rw [List.forall₂_map_left_iff, List.forall₂_map_right_iff]
  exact List.forall₂_same.2 fun a _ => h a

def SpellsMember (m : String × List Char) (m' : Option String × Value) : Prop :=
  m'.1 = some m.1 ∧ Spells m.2 m'.2

theorem SpellsMember.cons {m : String × List Char} {m' : Option String × Value}
    (h : SpellsMember m m') {first : Bool} {ms : List (Option String × Value)}
    {s t r : List Char} (hs : Separator first s (Layout.member m.1 m.2 ++ t))
    (hms : Members false ms t r) : Members first (m' :: ms) s r := by
  obtain ⟨name, v⟩ := m'
  obtain ⟨rfl, hv⟩ := h
  obtain ⟨pieces, s', he, hq, ht⟩ := exists_quoted m.1 (':' :: ' ' :: m.2 ++ t)
  rw [Layout.member, List.append_assoc, he] at hs
  rw [← ht]
  exact .member hs hq (.none _) (.blank rfl (.none _)) (hv t) hms

theorem members_blockRest {ms : List (String × List Char)} {ms' : List (Option String × Value)}
    (h : List.Forall₂ SpellsMember ms ms') (depth : Nat) (r : List Char) :
    Members false ms' (blockRest '}' depth (ms.map fun m => Layout.member m.1 m.2) r) r := by
  induction h with
  | nil => exact .noMember (blanks_newline depth _)
  | cons hm _ ih => exact hm.cons (separator_blockRest ..) ih

theorem spells_object {ms : List (String × List Char)} {ms' : List (Option String × Value)}
    (h : List.Forall₂ SpellsMember ms ms') (depth : Nat) :
    Spells (Layout.object depth ms) (.object ms') := by
  intro r
  cases h with
  | nil => exact .object (.noMember (.none _))
  | cons hm hms =>
    rw [Layout.object, List.map_cons, block_cons]
    exact .object (hm.cons (blanks_newline (depth + 1) _) (members_blockRest hms depth r))

theorem Spells.document {t : List Char} {v : Value} (h : Spells t v) : Document v t := by
  have hv := h []
  rw [List.append_nil] at hv
  exact ⟨t, [], .none t, hv, .none []⟩

end CallDispatch.Json
