import ColumnBinding.Text.Quoted
import ColumnBinding.Token.Basic

/-! Reading one token off the head of a text. Main statements: no character is lost, and every
token but the last takes at least one. -/
namespace ColumnBinding

/-- A token, the text that it is written as, and the text behind it. -/
structure Piece where
  kind : Kind
  lexeme : List Char
  rest : List Char

/-- The piece at the head of a text that starts with no blank. A literal takes every literal
character there is, a quoted name ends at the first quote that is not doubled, and a quote that
is never closed spoils the rest of the text. -/
def scan : List Char → Piece
  | [] => ⟨.eof, [], []⟩
  | c :: cs =>
      match Kind.ofMark? c with
      | some kind => ⟨kind, [c], cs⟩
      | none =>
          if c = '"' then
            match Text.Quoted.split cs with
            | some (inner, rest) => ⟨.quoted (String.ofList inner), c :: (inner ++ [c]), rest⟩
            | none => ⟨.unrecognized (String.ofList (c :: cs)), c :: cs, []⟩
          else if isLiteral c then
            let word := c :: cs.takeWhile isLiteral
            ⟨.literal (String.ofList word), word, cs.dropWhile isLiteral⟩
          else ⟨.unrecognized c.toString, [c], cs⟩

theorem scan_append (cs : List Char) : (scan cs).lexeme ++ (scan cs).rest = cs := by
  unfold scan
  split
  · rfl
  · split
    · rfl
    · split
      · next hq =>
          split
          · next hs => simpa [hq] using Text.Quoted.append_of_split hs
          · simp
      · split <;> simp

theorem scan_lexeme_ne_nil (c : Char) (cs : List Char) : (scan (c :: cs)).lexeme ≠ [] := by
  simp only [scan]
  repeat' split
  all_goals simp

theorem scan_rest_lt {cs : List Char} (h : (scan cs).kind ≠ .eof) :
    (scan cs).rest.length < cs.length := by
  cases cs with
  | nil => exact absurd rfl h
  | cons c cs =>
      have hl := congrArg List.length (scan_append (c :: cs))
      have hp := List.length_pos_iff.2 (scan_lexeme_ne_nil c cs)
      rw [List.length_append] at hl
      omega

end ColumnBinding
