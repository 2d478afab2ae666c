import ColumnBinding.Position
import ColumnBinding.Text.Alphanumeric

/-! The tokens of mapping text and the characters they are made of. -/
namespace ColumnBinding

/-- Blanks stand between tokens and mean nothing. -/
def isBlank (c : Char) : Bool := c == ' ' || c == '\t' || c == '\r' || c == '\n'

/-- The characters of a name that is written without quotes. -/
def isLiteral (c : Char) : Bool := Text.isAlphanumeric c || c == '_' || c == '.' || c == '-'

/-- What a token is. The text of a quoted name is held with its quotes still doubled. -/
inductive Kind where
  | literal (text : String)
  | quoted (inner : String)
  | equals
  | comma
  | leftParen
  | rightParen
  | eof
  | invalid (message : String)
deriving DecidableEq

namespace Kind

/-- The token of text that starts none. -/
def unrecognized (text : String) : Kind :=
  .invalid ("token recognition error at: '" ++ text ++ "'")

/-- The token that a single character makes on its own. -/
def ofMark? : Char → Option Kind
  | '=' => some .equals
  | ',' => some .comma
  | '(' => some .leftParen
  | ')' => some .rightParen
  | _ => none

def describe : Kind → String
  | .literal text => "'" ++ text ++ "'"
  | .quoted inner => "'\"" ++ inner ++ "\"'"
  | .equals => "'='"
  | .comma => "','"
  | .leftParen => "'('"
  | .rightParen => "')'"
  | .eof => "'<EOF>'"
  | .invalid message => message

def isEof : Kind → Bool
  | .eof => true
  | _ => false

@[simp] theorem isEof_iff {k : Kind} : k.isEof = true ↔ k = .eof := by cases k <;> simp [isEof]

theorem isEof_of_ne {k : Kind} (h : k ≠ .eof) : k.isEof = false :=
  Bool.eq_false_iff.2 fun he => h (isEof_iff.1 he)

end Kind

structure Token where
  kind : Kind
  span : Span
deriving DecidableEq

/-- The end that follows a token when no more are supplied. -/
def Token.endAfter (t : Token) : Token := ⟨.eof, t.span.ending⟩

end ColumnBinding
