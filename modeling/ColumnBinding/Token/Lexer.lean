import ColumnBinding.Token.Scan
import ColumnBinding.Token.Supply

/-! Mapping text as a supply of tokens that are read only as they are taken. -/
namespace ColumnBinding

/-- The text that is not read yet and its place. The end is handed out once, then the lexer is
finished. -/
structure Lexer where
  rest : List Char
  position : Position
  finished : Bool

namespace Lexer

def ofString (text : String) : Lexer := ⟨text.toList, .start, false⟩

def next? (x : Lexer) : Option (Token × Lexer) :=
  if x.finished then none
  else
    let piece := scan (x.rest.dropWhile isBlank)
    let start := x.position.after (x.rest.takeWhile isBlank)
    let stop := start.after piece.lexeme
    some (⟨piece.kind, ⟨start, stop.offset⟩⟩, ⟨piece.rest, stop, piece.kind.isEof⟩)

def left (x : Lexer) : Nat := if x.finished then 0 else x.rest.length + 1

theorem left_lt {x y : Lexer} {t : Token} (h : x.next? = some (t, y)) : y.left < x.left := by
  unfold next? at h
  split at h
  · cases h
  · next hf =>
      cases h
      simp only [left, hf]
      by_cases he : (scan (x.rest.dropWhile isBlank)).kind = .eof
      · simp [he, Kind.isEof]
      · have hk := Kind.isEof_of_ne he
        have hs := scan_rest_lt he
        have hd := (List.dropWhile_sublist isBlank (l := x.rest)).length_le
        simp only [hk, Bool.false_eq_true, if_false]
        omega

instance : Supply Lexer := ⟨next?, left, left_lt⟩

end Lexer

/-- All tokens of a text, with the end as the last one. -/
def tokenize (text : String) : List Token := Supply.tokens (Lexer.ofString text)

end ColumnBinding
