import ColumnBinding.Text.Json.Basic

/-! The place at which a mapping text stops to make sense. -/
namespace ColumnBinding

structure SyntaxError where
  message : String
  line : Nat
  column : Nat
deriving DecidableEq

namespace SyntaxError

def describe (e : SyntaxError) : String :=
  "Could not be parsed at line " ++ toString e.line ++ ":" ++ toString e.column ++ ": " ++ e.message

def toJson (e : SyntaxError) : Json :=
  .object [("message", .string e.message), ("line", .integer e.line), ("column", .integer e.column)]

/-- Reads an object with the three members, others aside, or the three values in a row. -/
def ofJson? : Json → Option SyntaxError
  | .array [message, line, column] => return ⟨← message.text?, ← line.count?, ← column.count?⟩
  | .object members => do
      let j := Json.object members
      return ⟨← (← j.member? "message").text?, ← (← j.member? "line").count?,
        ← (← j.member? "column").count?⟩
  | _ => none

end SyntaxError
end ColumnBinding
