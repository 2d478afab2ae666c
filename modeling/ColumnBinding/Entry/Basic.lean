import ColumnBinding.Position

/-! Entries of a mapping as they are written: a column, and the field that is bound to it. -/
namespace ColumnBinding

/-- A written name. Between quotes, the quotes of the name itself are still doubled. -/
inductive WrittenName where
  | literal (text : String) (span : Span)
  | quoted (inner : String) (span : Span)
deriving DecidableEq

def WrittenName.span : WrittenName → Span
  | .literal _ s => s
  | .quoted _ s => s

/-- A written field: a name, or the call of a function without arguments. -/
inductive WrittenField where
  | name (name : WrittenName)
  | call (function : String) (span : Span)
deriving DecidableEq

def WrittenField.span : WrittenField → Span
  | .name n => n.span
  | .call _ s => s

structure Entry where
  column : WrittenName
  field : WrittenField
  span : Span
deriving DecidableEq

/-- The entry of a column and a field, from the start of the one to the end of the other. -/
def Entry.of (column : WrittenName) (field : WrittenField) : Entry :=
  ⟨column, field, column.span.through field.span⟩

end ColumnBinding
