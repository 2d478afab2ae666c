import ColumnBinding.Proofs.Characters
import ColumnBinding.Proofs.QuoteRuns
import ColumnBinding.Token.Lexer

/-! How tokens are spelled, and how a text divides into them. Main statements: the piece that
`scan` takes is the only one that is spelled at the head of a text, and the tokens of a text are
those of its only division. -/
namespace ColumnBinding

/-- A character that no token is made of. -/
structure Stray (c : Char) : Prop where
  mark : ∀ k, ¬ IsMark c k
  quote : c ≠ '"'
  literal : ¬ IsLiteral c
  blank : ¬ IsBlank c

/-- `Spells k cs rest`: where `rest` follows, the characters `cs` are a token of kind `k`. -/
inductive Spells : Kind → List Char → List Char → Prop
  | eof : Spells .eof [] []
  | mark {c k rest} : IsMark c k → Spells k [c] rest
  | literal {cs rest} : cs ≠ [] → (∀ c ∈ cs, IsLiteral c) → (∀ c ∈ rest.head?, ¬ IsLiteral c) →
      Spells (.literal (String.ofList cs)) cs rest
  | quoted {inner rest} : Text.Quoted.EvenRuns inner → rest.head? ≠ some '"' →
      Spells (.quoted (String.ofList inner)) ('"' :: (inner ++ ['"'])) rest
  | stray {c rest} : Stray c →
      Spells (.invalid ("token recognition error at: '" ++ c.toString ++ "'")) [c] rest
  | unclosed {inner} : Text.Quoted.EvenRuns inner →
      Spells (.invalid ("token recognition error at: '" ++ String.ofList ('"' :: inner) ++ "'"))
        ('"' :: inner) []

theorem takeWhile_append_of_test {test : Char → Bool} {cs rest : List Char}
    (hc : ∀ c ∈ cs, test c = true) (hr : ∀ c ∈ rest.head?, test c = false) :
    (cs ++ rest).takeWhile test = cs ∧ (cs ++ rest).dropWhile test = rest := by
  rw [List.takeWhile_append_of_pos hc, List.dropWhile_append_of_pos hc]
  cases rest with
  | nil => simp
  | cons c rest => simp [hr c rfl]

namespace Spells

theorem head_not_blank {k : Kind} {cs rest : List Char} (h : Spells k cs rest) :
    ∀ c ∈ (cs ++ rest).head?, ¬ IsBlank c := by
  cases h with
  | eof => simp
  | mark hm => simpa using hm.not_blank
  | literal hn hl hr =>
      cases cs with
      | nil => exact absurd rfl hn
      | cons c cs => simpa using (hl c (.head _)).not_blank
  | quoted hi hr => simp; decide
  | stray hs => simpa using hs.blank
  | unclosed hi => simp; decide

theorem of_eof {cs rest : List Char} (h : Spells .eof cs rest) : cs = [] ∧ rest = [] := by
  cases h with
  | eof => exact ⟨rfl, rfl⟩
  | mark hm => exact absurd rfl hm.ne_eof

theorem ne_nil {k : Kind} {cs rest : List Char} (h : Spells k cs rest) (hk : k ≠ .eof) : cs ≠ [] := by
  cases h with
  | eof => exact absurd rfl hk
  | literal hn hl hr => exact hn
  | mark | quoted | stray | unclosed => simp

/-- A spelled piece is the one that `scan` takes. -/
theorem scan_eq {k : Kind} {cs rest : List Char} (h : Spells k cs rest) :
    scan (cs ++ rest) = ⟨k, cs, rest⟩ := by
  cases h with
  | eof => rfl
  | mark hm => simp [scan, ofMark?_eq_some_iff.2 hm]
  | literal hn hl hr =>
      cases cs with
      | nil => exact absurd rfl hn
      | cons c cs =>
          have hc := hl c (.head _)
          have ht := takeWhile_append_of_test (fun d hd => isLiteral_iff.2 (hl d (.tail _ hd)))
            fun d hd => isLiteral_eq_false_iff.2 (hr d hd)
          simp only [List.cons_append, scan, hc.ofMark?, if_neg hc.ne_quote, isLiteral_iff.2 hc,
            if_true, ht.1, ht.2]
  | quoted hi hr =>
      have hs := Text.Quoted.split_eq_some_iff.2 ⟨rfl, hi, hr⟩
      have hm : Kind.ofMark? '"' = none := rfl
      simp only [List.cons_append, List.append_assoc, List.nil_append, scan, hm, if_true, hs]
  | stray hs =>
      simp [scan, ofMark?_eq_none_iff.2 hs.mark, hs.quote, isLiteral_eq_false_iff.2 hs.literal,
        Kind.unrecognized]
  | @unclosed inner hi =>
      have hs := Text.Quoted.split_eq_none_iff.2 hi
      have hm : Kind.ofMark? '"' = none := rfl
      simp only [List.append_nil, scan, hm, if_true, hs]
      rfl

end Spells

theorem head_dropWhile (test : Char → Bool) (cs : List Char) :
    ∀ c ∈ (cs.dropWhile test).head?, test c = false := by
  intro c hc
  have hn := List.head?_dropWhile_not test cs
  rw [hc] at hn
  exact hn

theorem spells_scan {cs : List Char} (h : ∀ c ∈ cs.head?, ¬ IsBlank c) :
    Spells (scan cs).kind (scan cs).lexeme (scan cs).rest := by
  cases cs with
  | nil => exact .eof
  | cons c cs =>
      cases hm : Kind.ofMark? c with
      | some k =>
          simp only [scan, hm]
          exact .mark (ofMark?_eq_some_iff.1 hm)
      | none =>
          by_cases hq : c = '"'
          · subst hq
            cases hs : Text.Quoted.split cs with
            | some p =>
                obtain ⟨-, hi, hr⟩ := Text.Quoted.split_eq_some_iff.1 hs
                simp only [scan, hm, if_true, hs]
                exact .quoted hi hr
            | none =>
                simp only [scan, hm, if_true, hs]
                exact .unclosed (Text.Quoted.split_eq_none_iff.1 hs)
          · cases hl : isLiteral c with
            | true =>
                simp only [scan, hm, if_neg hq, hl, if_true]
                refine .literal (by simp) ?_ ?_
                · intro d hd
                  rw [← isLiteral_iff]
                  rcases List.mem_cons.1 hd with rfl | hd
                  · exact hl
                  · exact List.all_eq_true.1 List.all_takeWhile d hd
                · intro d hd
                  exact isLiteral_eq_false_iff.1 (head_dropWhile isLiteral cs d hd)
            | false =>
                simp only [scan, hm, if_neg hq, hl, Bool.false_eq_true, if_false]
                exact .stray
                  ⟨ofMark?_eq_none_iff.1 hm, hq, isLiteral_eq_false_iff.1 hl, h c rfl⟩

/-- `Reads p cs ts q rest`: from the place `p`, the characters `cs` begin with the tokens `ts`,
none of which is the end, and `rest` is left at the place `q`. -/
inductive Reads : Position → List Char → List Token → Position → List Char → Prop
  | nil {p cs} : Reads p cs [] p cs
  | cons {p bs cs k rest ts q behind} : (∀ c ∈ bs, IsBlank c) → Spells k cs rest → k ≠ .eof →
      Reads ((p.after bs).after cs) rest ts q behind →
      Reads p (bs ++ (cs ++ rest)) (⟨k, ⟨p.after bs, ((p.after bs).after cs).offset⟩⟩ :: ts) q behind

namespace Reads

theorem consumed {p q : Position} {cs ds : List Char} {ts : List Token} (h : Reads p cs ts q ds) :
    ∃ taken, cs = taken ++ ds ∧ q = p.after taken := by
  induction h with
  | nil => exact ⟨[], rfl, rfl⟩
  | @cons p bs cs k rest ts q behind hb hs hk _ ih =>
      obtain ⟨taken, rfl, rfl⟩ := ih
      exact ⟨bs ++ (cs ++ taken), by simp only [List.append_assoc], by simp only [Position.after_append]⟩

theorem kind_ne_eof {p q : Position} {cs ds : List Char} {ts : List Token} (h : Reads p cs ts q ds) :
    ∀ t ∈ ts, t.kind ≠ .eof := by
  induction h with
  | nil => intro t ht; cases ht
  | cons hb hs hk _ ih =>
      intro t ht
      cases ht with
      | head => exact hk
      | tail _ ht => exact ih t ht

end Reads

/-- The end that a lexer makes behind nothing but blanks. -/
def endAt (p : Position) (bs : List Char) : Token := ⟨.eof, ⟨p.after bs, (p.after bs).offset⟩⟩

namespace Lexer

theorem next?_eq {p : Position} {bs cs rest : List Char} {k : Kind} (hb : ∀ c ∈ bs, IsBlank c)
    (hs : Spells k cs rest) :
    (⟨bs ++ (cs ++ rest), p, false⟩ : Lexer).next? =
      some (⟨k, ⟨p.after bs, ((p.after bs).after cs).offset⟩⟩,
        ⟨rest, (p.after bs).after cs, k.isEof⟩) := by
  have hw := takeWhile_append_of_test (fun c hc => isBlank_iff.2 (hb c hc))
    fun c hc => isBlank_eq_false_iff.2 (hs.head_not_blank c hc)
  simp only [next?, Bool.false_eq_true, if_false, hw.1, hw.2, hs.scan_eq]

/-- The tokens of a text are those that are read from it, and the end. -/
theorem tokens_of_reads {p q : Position} {cs bs : List Char} {ts : List Token}
    (h : Reads p cs ts q bs) (hb : ∀ c ∈ bs, IsBlank c) :
    Supply.tokens (⟨cs, p, false⟩ : Lexer) = ts ++ [endAt q bs] := by
  induction h with
  | @nil p cs =>
      have hn := next?_eq (p := p) hb .eof
      simp only [List.append_nil] at hn
      rw [Supply.tokens_of_some (s := (⟨cs, p, false⟩ : Lexer)) hn, Supply.tokens_of_none rfl]
      rfl
  | @cons p bs cs k rest ts q behind hc hs hk _ ih =>
      have hn := next?_eq (p := p) hc hs
      rw [Kind.isEof_of_ne hk] at hn
      rw [Supply.tokens_of_some (s := (⟨bs ++ (cs ++ rest), p, false⟩ : Lexer)) hn, ih hb]
      rfl

end Lexer

theorem exists_spells (text : List Char) : ∃ bs k cs rest, text = bs ++ (cs ++ rest) ∧
    (∀ c ∈ bs, IsBlank c) ∧ Spells k cs rest := by
  have hs : ∀ c ∈ (text.dropWhile isBlank).head?, ¬ IsBlank c := by
    intro c hc
    exact isBlank_eq_false_iff.1 (head_dropWhile isBlank text c hc)
  refine ⟨text.takeWhile isBlank, _, _, _, ?_, ?_, spells_scan hs⟩
  · rw [scan_append, List.takeWhile_append_dropWhile]
  · intro c hc
    exact isBlank_iff.1 (List.all_eq_true.1 List.all_takeWhile c hc)

theorem exists_reads (p : Position) (text : List Char) :
    ∃ ts q bs, Reads p text ts q bs ∧ ∀ c ∈ bs, IsBlank c := by
  obtain ⟨bs, k, cs, rest, he, hb, hs⟩ := exists_spells text
  by_cases hk : k = .eof
  · subst hk
    obtain ⟨rfl, rfl⟩ := hs.of_eof
    refine ⟨[], p, text, .nil, ?_⟩
    rwa [he, List.append_nil, List.append_nil]
  · have hlt : rest.length < text.length := by
      have hp := List.length_pos_iff.2 (hs.ne_nil hk)
      simp only [he, List.length_append]
      omega
    obtain ⟨ts, q, ds, hr, hd⟩ := exists_reads ((p.after bs).after cs) rest
    subst he
    exact ⟨_, q, ds, .cons hb hs hk hr, hd⟩
termination_by text.length

/-- What the tokens of a text are read from. -/
theorem tokenize_reads (text : String) : ∃ ts q bs, Reads .start text.toList ts q bs ∧
    (∀ c ∈ bs, IsBlank c) ∧ tokenize text = ts ++ [endAt q bs] := by
  obtain ⟨ts, q, bs, hr, hb⟩ := exists_reads .start text.toList
  exact ⟨ts, q, bs, hr, hb, Lexer.tokens_of_reads hr hb⟩

end ColumnBinding
