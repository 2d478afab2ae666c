import ColumnBinding.ColumnTable.Basic
import ColumnBinding.Conventions
import ColumnBinding.Token.Basic

/-! The mapping text of a table. A name is written with quotes where it would not be read back as
itself without them. -/
namespace ColumnBinding

/-- No literal has this text. -/
def needsQuotes (name : Name) : Bool := name.isEmpty || !name.toList.all isLiteral

namespace Conventions

variable (conv : Conventions)

/-- Reserved columns are written with quotes, or else they would be renamed. -/
def columnText (column : Name) : String :=
  if needsQuotes column || (conv.boundVariable? column).isSome then Text.Quoted.enclose column
  else column

/-- The sides of the record are written with quotes, or else they would be bound whole. -/
def fieldText (field : Name) : String :=
  if needsQuotes field || conv.isWholeRecord field then Text.Quoted.enclose field else field

end Conventions

def ColumnTable.text (t : ColumnTable) (conv : Conventions) : String :=
  ", ".intercalate (t.pairs.map fun p => conv.columnText p.1 ++ "=" ++ conv.fieldText p.2)

end ColumnBinding
