import ColumnBinding.Proofs.Lexing
import Mathlib.Data.List.Chain

/-! Where tokens stand in a text. A division of a text says of each token what it is written as,
from which byte to which, and in which line and column; between tokens it allows nothing but
blanks. Main statement: the tokens of a text are its only division. -/
namespace ColumnBinding

def byteSize (cs : List Char) : Nat := (String.ofList cs).utf8ByteSize

@[simp] theorem byteSize_append (cs ds : List Char) :
    byteSize (cs ++ ds) = byteSize cs + byteSize ds := by
  simp only [byteSize, String.ofList_append, String.utf8ByteSize_append]

theorem byteSize_pos {cs : List Char} (h : cs ≠ []) : 0 < byteSize cs := by
  cases cs with
  | nil => exact absurd rfl h
  | cons c cs =>
      have hc := Char.utf8Size_pos c
      simp only [byteSize, String.ofList_cons, String.utf8ByteSize_append, String.utf8ByteSize_singleton]
      omega

namespace Position

theorem column_after (cs : List Char) :
    (start.after cs).column = 1 + (cs.reverse.takeWhile (· != '\n')).length := by
  induction cs using List.reverseRecOn with
  | nil => rfl
  | append_singleton cs c ih =>
      rw [after_append, after_cons, after_nil, next, List.reverse_append, List.reverse_singleton,
        List.singleton_append, List.takeWhile_cons]
      by_cases hc : c = '\n'
      · simp [hc]
      · simp [hc, ih]
        omega

theorem offset_start_after (cs : List Char) : (start.after cs).offset = byteSize cs := by
  rw [after_offset]
  exact Nat.zero_add _

/-- The place behind a text, known from the bytes, the line feeds, and the last line of the text. -/
structure StandsBehind (p : Position) (cs : List Char) : Prop where
  offset : p.offset = byteSize cs
  line : p.line = 1 + cs.count '\n'
  column : p.column = 1 + (cs.reverse.takeWhile (· != '\n')).length

theorem start_after_standsBehind (cs : List Char) : (start.after cs).StandsBehind cs :=
  ⟨offset_start_after cs, after_line start cs, column_after cs⟩

theorem standsBehind_iff {p : Position} {cs : List Char} :
    p.StandsBehind cs ↔ p = start.after cs := by
  constructor
  · intro h
    have hs := start_after_standsBehind cs
    have ho := h.offset.trans hs.offset.symm
    have hl := h.line.trans hs.line.symm
    have hc := h.column.trans hs.column.symm
    cases p
    cases ho
    cases hl
    cases hc
    rfl
  · rintro rfl
    exact start_after_standsBehind cs

end Position

/-- From byte `m` to byte `n`, a text holds nothing but blanks. -/
def BlankBetween (text : List Char) (m n : Nat) : Prop :=
  ∃ before gap behind, text = before ++ (gap ++ behind) ∧ byteSize before = m ∧
    byteSize (before ++ gap) = n ∧ ∀ c ∈ gap, IsBlank c

/-- The span of a token tells what the token is written as, and where that is. -/
structure Placed (text : List Char) (t : Token) (before lexeme behind : List Char) : Prop where
  text_eq : text = before ++ (lexeme ++ behind)
  start : t.span.start.StandsBehind before
  stop : t.span.stop = byteSize (before ++ lexeme)
  spells : Spells t.kind lexeme behind

/-- A text divides into the spans of tokens and blanks between them. The end is the last token,
and stands behind the last character. -/
structure Division (text : List Char) (ts : List Token) : Prop where
  ending : ∃ init e, ts = init ++ [e] ∧ (∀ t ∈ init, t.kind ≠ .eof) ∧ e.kind = .eof ∧
    e.span.start.offset = byteSize text ∧ e.span.stop = byteSize text
  wide : ∀ t ∈ ts, t.kind ≠ .eof → t.span.start.offset < t.span.stop
  ordered : ts.Pairwise fun s t => s.span.stop ≤ t.span.start.offset
  first : ∀ t ∈ ts.head?, BlankBetween text 0 t.span.start.offset
  gaps : ts.IsChain fun s t => BlankBetween text s.span.stop t.span.start.offset
  placed : ∀ t ∈ ts, ∃ before lexeme behind, Placed text t before lexeme behind

theorem placed_of_spells (before : List Char) {lexeme behind : List Char} {k : Kind}
    (h : Spells k lexeme behind) :
    Placed (before ++ (lexeme ++ behind))
      ⟨k, ⟨Position.start.after before, (Position.start.after (before ++ lexeme)).offset⟩⟩
      before lexeme behind :=
  ⟨rfl, Position.start_after_standsBehind before, Position.offset_start_after _, h⟩

namespace Reads

variable {p q : Position} {cs bs : List Char} {ts : List Token}

theorem offset_le (h : Reads p cs ts q bs) (ds : List Char) :
    ∀ t ∈ ts ++ [endAt q ds], p.offset ≤ t.span.start.offset := by
  have grows : ∀ (p : Position) (cs : List Char), p.offset ≤ (p.after cs).offset := by
    intro p cs
    rw [Position.after_offset]
    omega
  induction h with
  | @nil p cs =>
      intro t ht
      cases List.mem_singleton.1 ht
      exact grows p ds
  | @cons p bs cs k rest ts q behind hb hs hk _ ih =>
      intro t ht
      cases ht with
      | head => exact grows p bs
      | tail _ ht => exact ((grows p bs).trans (grows _ cs)).trans (ih t ht)

theorem ordered (h : Reads p cs ts q bs) (ds : List Char) :
    (ts ++ [endAt q ds]).Pairwise fun s t => s.span.stop ≤ t.span.start.offset := by
  induction h with
  | nil => exact List.pairwise_singleton _ _
  | cons hb hs hk hr ih => exact List.pairwise_cons.2 ⟨hr.offset_le ds, ih⟩

theorem placed (h : Reads p cs ts q bs) (before : List Char) (hp : p = Position.start.after before) :
    ∀ t ∈ ts, ∃ b l r, Placed (before ++ cs) t b l r := by
  induction h generalizing before with
  | nil => intro t ht; cases ht
  | @cons p bs cs k rest ts q behind hb hs hk _ ih =>
      subst hp
      intro t ht
      rw [← List.append_assoc]
      cases ht with
      | head =>
          rw [← Position.after_append, ← Position.after_append]
          exact ⟨_, _, _, placed_of_spells _ hs⟩
      | tail _ ht =>
          rw [← List.append_assoc]
          exact ih (before ++ bs ++ cs) (by simp only [Position.after_append]) t ht

theorem gaps (h : Reads p cs ts q bs) (hb : ∀ c ∈ bs, IsBlank c) (before : List Char)
    (hp : p = Position.start.after before) {m : Nat} (hm : m = byteSize before) :
    (∀ t ∈ (ts ++ [endAt q bs]).head?, BlankBetween (before ++ cs) m t.span.start.offset) ∧
      (ts ++ [endAt q bs]).IsChain fun s t =>
        BlankBetween (before ++ cs) s.span.stop t.span.start.offset := by
  induction h generalizing before m with
  | @nil p cs =>
      subst hp
      refine ⟨?_, .singleton _⟩
      rintro _ ⟨⟩
      refine ⟨before, cs, [], by rw [List.append_nil], hm.symm, ?_, hb⟩
      rw [← Position.offset_start_after, Position.after_append]
      rfl
  | @cons p bs cs k rest ts q behind hc hk he _ ih =>
      subst hp
      constructor
      · rintro _ ⟨⟩
        refine ⟨before, bs, cs ++ rest, rfl, hm.symm, ?_, hc⟩
        rw [← Position.offset_start_after, Position.after_append]
      · rw [List.cons_append, List.isChain_cons]
        have hi := ih hb (before ++ bs ++ cs) (by simp only [Position.after_append])
          (Position.offset_start_after _)
        simpa only [List.append_assoc, Position.after_append] using hi

theorem division (h : Reads .start cs ts q bs) (hb : ∀ c ∈ bs, IsBlank c) :
    Division cs (ts ++ [endAt q bs]) := by
  obtain ⟨taken, rfl, rfl⟩ := h.consumed
  have he : Placed (taken ++ bs) (endAt (Position.start.after taken) bs) (taken ++ bs) [] [] := by
    have hp := placed_of_spells (taken ++ bs) .eof
    simpa only [List.append_nil, Position.after_append, endAt] using hp
  have hp : ∀ t ∈ ts ++ [endAt (Position.start.after taken) bs], ∃ b l r,
      Placed (taken ++ bs) t b l r := by
    intro t ht
    rcases List.mem_append.1 ht with ht | ht
    · exact h.placed [] rfl t ht
    · cases List.mem_singleton.1 ht
      exact ⟨_, _, _, he⟩
  obtain ⟨first, gaps⟩ := h.gaps hb [] rfl (m := 0) rfl
  refine ⟨⟨ts, _, rfl, h.kind_ne_eof, rfl, he.start.offset, ?_⟩, ?_, h.ordered bs, first, gaps, hp⟩
  · rw [he.stop, List.append_nil]
  · intro t ht hk
    obtain ⟨b, l, r, hl⟩ := hp t ht
    have hn := byteSize_pos (hl.spells.ne_nil hk)
    rw [hl.start.offset, hl.stop, byteSize_append]
    omega

end Reads

theorem append_inj_of_byteSize {a b x y : List Char} (h : a ++ x = b ++ y)
    (hs : byteSize a = byteSize b) : a = b ∧ x = y := by
  have cut : ∀ {a c : List Char}, byteSize a = byteSize (a ++ c) → c = [] := by
    intro a c h
    by_contra hc
    have hp := byteSize_pos hc
    rw [byteSize_append] at h
    omega
  rcases List.append_eq_append_iff.1 h with ⟨c, rfl, rfl⟩ | ⟨c, rfl, rfl⟩
  · cases cut hs
    exact ⟨(List.append_nil a).symm, rfl⟩
  · cases cut hs.symm
    exact ⟨List.append_nil b, rfl⟩

theorem Placed.eq_mk {text before lexeme behind : List Char} {t : Token}
    (h : Placed text t before lexeme behind) :
    t = ⟨t.kind, ⟨Position.start.after before, ((Position.start.after before).after lexeme).offset⟩⟩ := by
  obtain ⟨k, p, stop⟩ := t
  have hp : p = Position.start.after before := Position.standsBehind_iff.1 h.start
  have ho : stop = ((Position.start.after before).after lexeme).offset := by
    rw [← Position.after_append, Position.offset_start_after]
    exact h.stop
  rw [hp, ho]

theorem Placed.behind_gap {before cs b l r : List Char} {m : Nat} {t : Token}
    (h : Placed (before ++ cs) t b l r) (hm : m = byteSize before)
    (hg : BlankBetween (before ++ cs) m t.span.start.offset) :
    ∃ gap, b = before ++ gap ∧ cs = gap ++ (l ++ r) ∧ ∀ c ∈ gap, IsBlank c := by
  obtain ⟨d, gap, e, he, hd, hgap, hblank⟩ := hg
  obtain ⟨rfl, rfl⟩ := append_inj_of_byteSize he (hm.symm.trans hd.symm)
  have hb := h.text_eq
  rw [← List.append_assoc] at hb
  obtain ⟨rfl, rfl⟩ := append_inj_of_byteSize hb (hgap.trans h.start.offset)
  exact ⟨gap, rfl, rfl, hblank⟩

/-- Tokens that are placed one behind the other, with blanks between them, are read. -/
theorem reads_of_placed {before cs : List Char} {init : List Token} {e : Token} {m : Nat}
    (hm : m = byteSize before)
    (first : ∀ t ∈ (init ++ [e]).head?, BlankBetween (before ++ cs) m t.span.start.offset)
    (gaps : (init ++ [e]).IsChain fun s t =>
      BlankBetween (before ++ cs) s.span.stop t.span.start.offset)
    (placed : ∀ t ∈ init ++ [e], ∃ b l r, Placed (before ++ cs) t b l r)
    (hi : ∀ t ∈ init, t.kind ≠ .eof) (he : e.kind = .eof) :
    ∃ q bs, Reads (Position.start.after before) cs init q bs ∧ (∀ c ∈ bs, IsBlank c) ∧
      e = endAt q bs := by
  -- `before` grows by a gap and a lexeme with each token, and so keeps up with the place
  induction init generalizing before cs m with
  | nil =>
      obtain ⟨b, l, r, hp⟩ := placed e (.head _)
      obtain ⟨gap, rfl, rfl, hblank⟩ := hp.behind_gap hm (first e rfl)
      obtain ⟨rfl, rfl⟩ := (he ▸ hp.spells).of_eof
      refine ⟨_, gap ++ ([] ++ []), .nil, by simpa using hblank, ?_⟩
      rw [hp.eq_mk, he]
      simp only [List.append_nil, Position.after_append, Position.after_nil, endAt]
  | cons t init ih =>
      rw [List.cons_append, List.isChain_cons] at gaps
      obtain ⟨next, gaps⟩ := gaps
      obtain ⟨b, l, r, hp⟩ := placed t (.head _)
      obtain ⟨gap, rfl, rfl, hblank⟩ := hp.behind_gap hm (first t rfl)
      have same : before ++ (gap ++ (l ++ r)) = before ++ gap ++ l ++ r := by
        simp only [List.append_assoc]
      rw [same] at next gaps placed
      have behind : ∀ u ∈ init ++ [e], ∃ x y z, Placed (before ++ gap ++ l ++ r) u x y z := by
        intro u hu
        exact placed u (.tail _ hu)
      have inner : ∀ u ∈ init, u.kind ≠ .eof := by
        intro u hu
        exact hi u (.tail _ hu)
      obtain ⟨q, bs, hr, hb, hq⟩ := ih hp.stop next gaps behind inner
      refine ⟨q, bs, ?_, hb, hq⟩
      rw [hp.eq_mk]
      simp only [Position.after_append] at hr ⊢
      exact .cons hblank hp.spells (hi t (.head _)) hr

/-- The tokens of a text are its only division. -/
theorem tokenize_eq_iff_division {text : String} {ts : List Token} :
    tokenize text = ts ↔ Division text.toList ts := by
  constructor
  · rintro rfl
    obtain ⟨ts, q, bs, hr, hb, he⟩ := tokenize_reads text
    rw [he]
    exact hr.division hb
  · intro h
    obtain ⟨init, e, rfl, hi, he, -, -⟩ := h.ending
    have hz : 0 = byteSize [] := rfl
    obtain ⟨q, bs, hr, hb, rfl⟩ := reads_of_placed hz h.first h.gaps h.placed hi he
    exact Lexer.tokens_of_reads hr hb

/-- All blanks and marks, a letter of two bytes, a doubled quote and a line feed between quotes, a
character that is no token, and a quote that is never closed. -/
theorem tokenize_eq_iff_division_of_each_token :
    tokenize " é=\t\"a\"\"\n\",f(\r)\n; \"x" =
      [⟨.literal "é", ⟨⟨1, 1, 2⟩, 3⟩⟩, ⟨.equals, ⟨⟨3, 1, 3⟩, 4⟩⟩, ⟨.quoted "a\"\"\n", ⟨⟨5, 1, 5⟩, 11⟩⟩,
        ⟨.comma, ⟨⟨11, 2, 2⟩, 12⟩⟩, ⟨.literal "f", ⟨⟨12, 2, 3⟩, 13⟩⟩, ⟨.leftParen, ⟨⟨13, 2, 4⟩, 14⟩⟩,
        ⟨.rightParen, ⟨⟨15, 2, 6⟩, 16⟩⟩,
        ⟨.invalid "token recognition error at: ';'", ⟨⟨17, 3, 1⟩, 18⟩⟩,
        ⟨.invalid "token recognition error at: '\"x'", ⟨⟨19, 3, 3⟩, 21⟩⟩,
        ⟨.eof, ⟨⟨21, 3, 5⟩, 21⟩⟩] ∧
    Division " é=\t\"a\"\"\n\",f(\r)\n; \"x".toList
      [⟨.literal "é", ⟨⟨1, 1, 2⟩, 3⟩⟩, ⟨.equals, ⟨⟨3, 1, 3⟩, 4⟩⟩, ⟨.quoted "a\"\"\n", ⟨⟨5, 1, 5⟩, 11⟩⟩,
        ⟨.comma, ⟨⟨11, 2, 2⟩, 12⟩⟩, ⟨.literal "f", ⟨⟨12, 2, 3⟩, 13⟩⟩, ⟨.leftParen, ⟨⟨13, 2, 4⟩, 14⟩⟩,
        ⟨.rightParen, ⟨⟨15, 2, 6⟩, 16⟩⟩,
        ⟨.invalid "token recognition error at: ';'", ⟨⟨17, 3, 1⟩, 18⟩⟩,
        ⟨.invalid "token recognition error at: '\"x'", ⟨⟨19, 3, 3⟩, 21⟩⟩,
        ⟨.eof, ⟨⟨21, 3, 5⟩, 21⟩⟩] := by
  refine ⟨?_, tokenize_eq_iff_division.1 ?_⟩ <;> decide +kernel

end ColumnBinding
