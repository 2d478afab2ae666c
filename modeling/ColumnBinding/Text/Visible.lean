import ColumnBinding.Text.DefaultIgnorable
import ColumnBinding.Text.GraphemeExtend
import ColumnBinding.Text.Hidden

/-! String literals in which every character can be seen. -/
namespace ColumnBinding.Text

/-- Marks that join the character before them. The half-width voiced sound marks extend it, too,
but they are letters with a place of their own. -/
def isCombining (c : Char) : Bool :=
  graphemeExtend.contains c && c != '\uff9e' && c != '\uff9f'

/-- A character can be seen when it is the blank, or is drawn at a place of its own. -/
def isVisible (c : Char) : Bool :=
  c == ' ' || !(hidden.contains c || defaultIgnorable.contains c || isCombining c)

/-- Five characters have an escape of one letter, quotes and backslashes are marked by a
backslash, and the rest of what cannot be seen is named by its code point. -/
def visible (c : Char) : String :=
  match c with
  | '\x00' => "\\0"
  | '\t' => "\\t"
  | '\r' => "\\r"
  | '\n' => "\\n"
  | '"' => "\\\""
  | '\\' => "\\\\"
  | c =>
      if isVisible c then c.toString
      else "\\u\x7b" ++ String.ofList (Nat.toDigits 16 c.toNat) ++ "\x7d"

/-- The literal of a text, in double quotes. -/
def visibleLiteral (text : String) : String :=
  "\"" ++ String.join (text.toList.map visible) ++ "\""

end ColumnBinding.Text
