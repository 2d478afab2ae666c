import ColumnBinding.ColumnTable.Text
import ColumnBinding.Compiled.Text
import ColumnBinding.Text.Visible

/-! A report on one mapping text: its tokens, its entries, the table that they make, and what is
wrong with them. -/
namespace ColumnBinding

/-- All parts of a stretch of text, by name. -/
def Span.inspect (s : Span) : String :=
  "Span \x7b start: " ++ toString s.start.offset ++ ", end: " ++ toString s.stop ++
    ", line: " ++ toString s.start.line ++ ", column: " ++ toString s.start.column ++ " \x7d"

def WrittenName.inspect : WrittenName → String
  | .literal text s =>
      "Literal \x7b text: " ++ Text.visibleLiteral text ++ ", span: " ++ s.inspect ++ " \x7d"
  | .quoted inner s =>
      "Quoted \x7b inner: " ++ Text.visibleLiteral inner ++ ", span: " ++ s.inspect ++ " \x7d"

def WrittenField.inspect : WrittenField → String
  | .name n => "Identifier(" ++ n.inspect ++ ")"
  | .call function s =>
      "Function \x7b name: " ++ Text.visibleLiteral function ++ ", span: " ++ s.inspect ++ " \x7d"

namespace Report

/-- A text with blanks behind it, up to a width. -/
def padded (width : Nat) (text : String) : String := text.pushn ' ' (width - text.length)

def tokenLine (t : Token) : String :=
  "  " ++ toString t.span.start.line ++ ":" ++ padded 4 (toString t.span.start.column) ++ " " ++
    t.kind.describe

def entryLine (e : Entry) : String := "  " ++ e.column.inspect ++ " = " ++ e.field.inspect

def pairLine (p : Name × Name) : String := "  " ++ p.1.cql ++ " -> " ++ p.2

def tokenSection (text : String) : List String := "TOKENS:" :: (tokenize text).map tokenLine ++ [""]

/-- Only a text that can be read has entries. -/
def entrySection (text : String) : List String :=
  match parseEntries text with
  | .ok es => ("AST: " ++ toString es.length ++ " entries") :: es.map entryLine ++ [""]
  | .error _ => []

def tableSection (t : ColumnTable) : List String :=
  "MAPPING:" :: t.pairs.map pairLine ++ ["", "CANONICAL: " ++ t.text .standard, ""]

def errorSection (r : Compiled) : List String :=
  if r.isValid then ["No errors."] else "ERRORS:" :: r.messages.map ("  - " ++ ·)

/-- The report in lines. -/
def lines (text : String) (r : Compiled) : List String :=
  tokenSection text ++ entrySection text ++ tableSection r.table ++ errorSection r

end Report
end ColumnBinding
