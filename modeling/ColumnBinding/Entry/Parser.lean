import ColumnBinding.Entry.Stage
import ColumnBinding.Token.Lexer

/-! Reading entries from a supply of tokens. A parser holds one token and takes another only when
that one fits, so it stops on the first token that does not, or on the end. -/
namespace ColumnBinding

structure Parser (σ : Type) where
  current : Token
  supply : σ

namespace Parser

variable {σ : Type} [Supply σ]

/-- Takes the first token. A supply without one counts as an empty text. -/
def ofSupply (s : σ) : Parser σ :=
  match Supply.next? s with
  | some (t, r) => ⟨t, r⟩
  | none => ⟨⟨.eof, .zero⟩, s⟩

/-- Takes the next token. Where there is none, the end follows. -/
def advance (p : Parser σ) : Parser σ :=
  match Supply.next? p.supply with
  | some (t, r) => ⟨t, r⟩
  | none => ⟨p.current.endAfter, p.supply⟩

/-- How many tokens there are up to an end. -/
def left (p : Parser σ) : Nat := if p.current.kind = .eof then 0 else Supply.left p.supply + 1

theorem advance_of_some {p : Parser σ} {t : Token} {r : σ}
    (h : Supply.next? p.supply = some (t, r)) : p.advance = ⟨t, r⟩ := by
  rw [advance, h]

theorem advance_of_none {p : Parser σ} (h : Supply.next? p.supply = none) :
    p.advance = ⟨p.current.endAfter, p.supply⟩ := by
  rw [advance, h]

theorem left_advance_lt {p : Parser σ} (h : p.current.kind ≠ .eof) :
    p.advance.left < p.left := by
  rw [left, left, if_neg h]
  match hs : Supply.next? p.supply with
  | none => simp [advance_of_none hs, Token.endAfter]
  | some (t, r) =>
      have hl := Supply.left_lt hs
      rw [advance_of_some hs]
      split
      · exact Nat.succ_pos _
      · exact Nat.succ_lt_succ hl

/-- Reads entries up to the end, and leaves the parser where it stopped. -/
def run (stage : Stage) (p : Parser σ) : Except SyntaxError (List Entry) × Parser σ :=
  match _h : stage.step p.current with
  | .next stage => run stage p.advance
  | .finish entry =>
      let (result, q) := run .column p.advance
      (result.map (entry :: ·), q)
  | .accept entry => (.ok [entry], p)
  | .reject error => (.error error, p)
termination_by p.left
decreasing_by
  · exact left_advance_lt (Stage.kind_of_next _h)
  · exact left_advance_lt (Stage.kind_of_finish _h)

theorem run_next {p : Parser σ} {stage following : Stage}
    (h : stage.step p.current = .next following) : p.run stage = p.advance.run following := by
  rw [run]
  split <;> simp_all

theorem run_finish {p : Parser σ} {stage : Stage} {entry : Entry}
    (h : stage.step p.current = .finish entry) :
    p.run stage = ((p.advance.run .column).1.map (entry :: ·), (p.advance.run .column).2) := by
  rw [run]
  split <;> simp_all

theorem run_accept {p : Parser σ} {stage : Stage} {entry : Entry}
    (h : stage.step p.current = .accept entry) : p.run stage = (.ok [entry], p) := by
  rw [run]
  split <;> simp_all

theorem run_reject {p : Parser σ} {stage : Stage} {error : SyntaxError}
    (h : stage.step p.current = .reject error) : p.run stage = (.error error, p) := by
  rw [run]
  split <;> simp_all

/-- Reads a whole mapping from where the parser stands. -/
def parse (p : Parser σ) : Except SyntaxError (List Entry) × Parser σ := p.run .column

/-- Reads again and again, each time from where the last reading stopped. -/
def parseTimes : Nat → Parser σ → List (Except SyntaxError (List Entry)) × Parser σ
  | 0, p => ([], p)
  | n + 1, p =>
      let (result, q) := p.parse
      let (results, r) := parseTimes n q
      (result :: results, r)

end Parser

def parseEntries (text : String) : Except SyntaxError (List Entry) :=
  (Parser.ofSupply (Lexer.ofString text)).parse.1

end ColumnBinding
