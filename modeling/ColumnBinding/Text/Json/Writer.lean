import ColumnBinding.Text.Json.Basic

/-! The two texts of a JSON value: the compact one without blanks, and the one indented by two
blanks a level. -/
namespace ColumnBinding.Json

/-- Controls, quotes and backslashes are escaped; everything else stands for itself. -/
def escape (c : Char) : List Char :=
  match c with
  | '"' => ['\\', '"']
  | '\\' => ['\\', '\\']
  | '\x08' => ['\\', 'b']
  | '\t' => ['\\', 't']
  | '\n' => ['\\', 'n']
  | '\x0c' => ['\\', 'f']
  | '\r' => ['\\', 'r']
  | c =>
      if c.toNat < 0x20 then
        ['\\', 'u', '0', '0', Nat.digitChar (c.toNat / 16), Nat.digitChar (c.toNat % 16)]
      else [c]

def literal (text : String) : String :=
  String.ofList ('"' :: text.toList.flatMap escape ++ ['"'])

/-- The text of a value without parts. -/
def atom : Json → String
  | null => "null"
  | bool b => if b then "true" else "false"
  | integer n => toString n
  | scaled m e => toString m ++ "e" ++ toString e
  | string s => literal s
  | array _ => "[]"
  | object _ => "\x7b\x7d"

mutual

def compact : Json → String
  | array vs => "[" ++ ",".intercalate (compactItems vs) ++ "]"
  | object ms => "\x7b" ++ ",".intercalate (compactMembers ms) ++ "\x7d"
  | j => j.atom

def compactItems : List Json → List String
  | [] => []
  | v :: vs => compact v :: compactItems vs

def compactMembers : List (String × Json) → List String
  | [] => []
  | (k, v) :: ms => (literal k ++ ":" ++ compact v) :: compactMembers ms

end

def newline (level : Nat) : String := "\n" ++ "".pushn ' ' (2 * level)

/-- Parts on lines of their own, one level further in. -/
def block (level : Nat) (parts : List String) : String :=
  newline (level + 1) ++ ("," ++ newline (level + 1)).intercalate parts ++ newline level

mutual

def indented (level : Nat) : Json → String
  | array (v :: vs) => "[" ++ block level (indentedItems (level + 1) (v :: vs)) ++ "]"
  | object (m :: ms) => "\x7b" ++ block level (indentedMembers (level + 1) (m :: ms)) ++ "\x7d"
  | j => j.atom

def indentedItems (level : Nat) : List Json → List String
  | [] => []
  | v :: vs => indented level v :: indentedItems level vs

def indentedMembers (level : Nat) : List (String × Json) → List String
  | [] => []
  | (k, v) :: ms => (literal k ++ ": " ++ indented level v) :: indentedMembers level ms

end

def pretty (j : Json) : String := j.indented 0

end ColumnBinding.Json
