import ColumnBinding.Conventions
import ColumnBinding.Entry.Basic

/-! The names that written columns and fields stand for. -/
namespace ColumnBinding

inductive Origin where
  | literal
  | quoted
  | call
deriving DecidableEq

/-- The name as it is meant, without the quotes. -/
def WrittenName.text : WrittenName → Name
  | .literal text _ => text
  | .quoted inner _ => Text.Quoted.collapse inner

namespace WrittenField

/-- The field as it is meant. A call keeps its parentheses. -/
def text : WrittenField → Name
  | .name n => n.text
  | .call function _ => function ++ "()"

def origin : WrittenField → Origin
  | .name (.literal _ _) => .literal
  | .name (.quoted _ _) => .quoted
  | .call _ _ => .call

end WrittenField

namespace Conventions

variable (conv : Conventions)

/-- A reserved column becomes its bound variable, unless it is written with quotes. -/
def column : WrittenName → Name
  | .literal text _ => (conv.boundVariable? text).getD text
  | .quoted inner _ => Text.Quoted.collapse inner

/-- Only a field without quotes can stand for a whole side of the record. -/
def bindsWhole (field : WrittenField) : Bool :=
  field.origin == .literal && conv.isWholeRecord field.text

/-- The field that a table holds for a written one. -/
def field (field : WrittenField) : Name :=
  if conv.bindsWhole field then conv.selfReference field.text else field.text

/-- What a field may be: a whole side of the record, part of a namespace, or a known call. -/
def accepts (field : WrittenField) : Bool := conv.bindsWhole field || conv.isWellFormed field.text

end Conventions
end ColumnBinding
