import ColumnBinding.Proofs.Spelling

/-! Texts that are put together from items, with blanks between them. Main statement: the tokens of such
a text are its items, if blanks part the items that would run together. -/
namespace ColumnBinding

/-- What a token can be made from. -/
inductive Item where
  | literal (text : String) (word : IsWord text)
  /-- A name between quotes, with its own quotes doubled already. -/
  | quoted (inner : String) (even : Text.Quoted.EvenRuns inner.toList)
  | equals
  | comma
  | leftParen
  | rightParen
  | stray (c : Char) (isStray : Stray c)

namespace Item

/-- The characters that the item is written as. -/
def lexeme : Item → List Char
  | .literal text _ => text.toList
  | .quoted inner _ => '"' :: (inner.toList ++ ['"'])
  | .equals => ['=']
  | .comma => [',']
  | .leftParen => ['(']
  | .rightParen => [')']
  | .stray c _ => [c]

def kind : Item → Kind
  | .literal text _ => .literal text
  | .quoted inner _ => .quoted inner
  | .equals => .equals
  | .comma => .comma
  | .leftParen => .leftParen
  | .rightParen => .rightParen
  | .stray c _ => .invalid ("token recognition error at: '" ++ c.toString ++ "'")

/-- Without a blank, the second item would be taken for a part of the first. -/
def Clings : Item → Item → Prop
  | .literal _ _, .literal _ _ => True
  | .quoted _ _, .quoted _ _ => True
  | _, _ => False

/-- The item is not made longer by the text `rest` behind it. -/
def EndsBefore : Item → List Char → Prop
  | .literal _ _, rest => ∀ c ∈ rest.head?, ¬ IsLiteral c
  | .quoted _ _, rest => rest.head? ≠ some '"'
  | _, _ => True

theorem kind_ne_eof (i : Item) : i.kind ≠ .eof := by
  intro h
  cases i <;> cases h

theorem spells {i : Item} {rest : List Char} (h : i.EndsBefore rest) :
    Spells i.kind i.lexeme rest := by
  cases i with
  | literal text word =>
      have hn : text.toList ≠ [] := fun hn => word.1 (String.toList_eq_nil_iff.1 hn)
      have hs := Spells.literal hn word.2 h
      rwa [String.ofList_toList] at hs
  | quoted inner even =>
      have hs := Spells.quoted even h
      rwa [String.ofList_toList] at hs
  | equals => exact .mark .equals
  | comma => exact .mark .comma
  | leftParen => exact .mark .leftParen
  | rightParen => exact .mark .rightParen
  | stray c isStray => exact .stray isStray

/-- An item ends before every other item that does not cling to it. -/
theorem endsBefore_lexeme {i j : Item} (h : ¬ i.Clings j) (rest : List Char) :
    i.EndsBefore (j.lexeme ++ rest) := by
  cases i with
  | literal text word =>
      intro c hc
      cases j with
      | literal other word => exact absurd trivial h
      | stray d isStray =>
          cases hc
          exact isStray.literal
      | _ =>
          cases hc
          decide
  | quoted inner even =>
      intro hc
      cases j with
      | literal other word =>
          have hn : other.toList ≠ [] := fun hn => word.1 (String.toList_eq_nil_iff.1 hn)
          obtain ⟨d, ds, hd⟩ := List.exists_cons_of_ne_nil hn
          rw [lexeme, hd] at hc
          cases hc
          have hl : IsLiteral '"' := word.2 '"' (by rw [hd]; exact .head ds)
          exact hl.ne_quote rfl
      | quoted other even => exact h trivial
      | stray d isStray =>
          cases hc
          exact isStray.quote rfl
      | _ => cases hc
  | _ => trivial

theorem EndsBefore.behind_blanks {i : Item} {bs rest : List Char} (hb : ∀ c ∈ bs, IsBlank c)
    (h : bs = [] → i.EndsBefore rest) : i.EndsBefore (bs ++ rest) := by
  cases bs with
  | nil => exact h rfl
  | cons b bs =>
      have he := (endsName_nil.behind_blanks hb) b rfl
      cases i with
      | literal text word =>
          intro c hc
          cases hc
          exact he.1
      | quoted inner even =>
          intro hc
          cases hc
          exact he.2 rfl
      | _ => trivial

theorem endsBefore_nil (i : Item) : i.EndsBefore [] := by
  cases i with
  | literal text word =>
      intro c hc
      cases hc
  | quoted inner even =>
      intro hc
      cases hc
  | _ => trivial

end Item

/-- The text of items, each behind its blanks, with more blanks at the end. -/
def rendering : List (String × Item) → String → String
  | [], last => last
  | (gap, item) :: parts, last => gap ++ String.ofList item.lexeme ++ rendering parts last

theorem toList_rendering_cons (gap : String) (item : Item) (parts : List (String × Item))
    (last : String) : (rendering ((gap, item) :: parts) last).toList =
      gap.toList ++ (item.lexeme ++ (rendering parts last).toList) := by
  rw [rendering, String.toList_append, String.toList_append, String.toList_ofList, List.append_assoc]

theorem readsKinds_rendering {parts : List (String × Item)} {last : String}
    (hb : ∀ p ∈ parts, ∀ c ∈ p.1.toList, IsBlank c) (hl : ∀ c ∈ last.toList, IsBlank c)
    (hs : parts.IsChain fun p q => p.2.Clings q.2 → q.1 ≠ "") :
    ReadsKinds (rendering parts last).toList (parts.map fun p => p.2.kind) last.toList := by
  induction parts with
  | nil => exact .nil _
  | cons p parts ih =>
      obtain ⟨gap, item⟩ := p
      have he : item.EndsBefore (rendering parts last).toList := by
        cases parts with
        | nil =>
            rw [rendering, ← List.append_nil last.toList]
            exact .behind_blanks hl fun _ => item.endsBefore_nil
        | cons q parts =>
            obtain ⟨next, other⟩ := q
            have hn : ∀ c ∈ next.toList, IsBlank c := hb (next, other) (.tail _ (.head _))
            rw [toList_rendering_cons]
            refine .behind_blanks hn fun hz => Item.endsBefore_lexeme ?_ _
            intro hc
            exact (List.isChain_cons_cons.1 hs).1 hc (String.toList_eq_nil_iff.1 hz)
      rw [toList_rendering_cons]
      refine .cons (hb (gap, item) (.head _)) (Item.spells he) item.kind_ne_eof (ih ?_ hs.of_cons)
      intro q hq
      exact hb q (.tail _ hq)

/-- A text that is put together from items has exactly their tokens, and the end, whatever blanks stand
before, between and behind them. Only between two names without quotes, and between two with quotes,
there must be a blank. -/
theorem kinds_rendering (parts : List (String × Item)) (last : String)
    (hb : ∀ p ∈ parts, ∀ c ∈ p.1.toList, IsBlank c) (hl : ∀ c ∈ last.toList, IsBlank c)
    (hs : parts.IsChain fun p q => p.2.Clings q.2 → q.1 ≠ "") :
    (tokenize (rendering parts last)).map Token.kind = parts.map (fun p => p.2.kind) ++ [.eof] :=
  (readsKinds_rendering hb hl hs).map_kind_tokenize hl

/-- Doubled quotes at the end of a name, two names of each kind side by side, and a stray mark. -/
theorem kinds_rendering_of_doubled_quotes :
    (tokenize "é b=\t\"a\"\"\" \"\"(;)\r\n").map Token.kind =
      [.literal "é", .literal "b", .equals, .quoted "a\"\"", .quoted "", .leftParen,
        .invalid "token recognition error at: ';'", .rightParen, .eof] := by
  have word : ∀ text ∈ ["é", "b"], IsWord text := by
    simp only [← needsQuotes_eq_false_iff]
    decide
  have even : Text.Quoted.EvenRuns "a\"\"".toList := Text.Quoted.evenRuns_encode ['a', '"']
  let parts : List (String × Item) :=
    [("", .literal "é" (word _ (by simp))), (" ", .literal "b" (word _ (by simp))), ("", .equals),
      ("\t", .quoted "a\"\"" even), (" ", .quoted "" Text.Quoted.evenRuns_nil), ("", .leftParen),
      ("", .stray ';' ⟨nofun, by decide, by decide, by decide⟩), ("", .rightParen)]
  have gaps : ∀ gap ∈ ["", " ", "", "\t", " ", "", "", ""], ∀ c ∈ String.toList gap, IsBlank c := by
    simp only [← all_isBlank_iff]
    decide
  have hb : ∀ p ∈ parts, ∀ c ∈ p.1.toList, IsBlank c :=
    fun p hp => gaps p.1 (List.mem_map_of_mem hp)
  have hl : ∀ c ∈ "\r\n".toList, IsBlank c := all_isBlank_iff.1 rfl
  have hs : parts.IsChain fun p q => p.2.Clings q.2 → q.1 ≠ "" := by
    simp [parts, Item.Clings]
  exact kinds_rendering parts "\r\n" hb hl hs

end ColumnBinding
