import ColumnBinding.Text.Json.Basic
import ColumnBinding.Text.Quoted

/-! Names of columns and fields. A name is its text: case counts, and whether it was written
with quotes does not. -/
namespace ColumnBinding

abbrev Name := String

namespace Name

/-- A name that a CQL statement takes without quotes: a lower-case ASCII letter, then lower-case
ASCII letters, digits and underscores. -/
def isPlain (name : Name) : Bool :=
  match name.toList with
  | [] => false
  | c :: cs => c.isLower && cs.all fun c => c.isLower || c.isDigit || c == '_'

/-- The name as a CQL statement writes it. -/
def cql (name : Name) : String := if isPlain name then name else Text.Quoted.enclose name

def toJson (name : Name) : Json := .string name

def ofJson? : Json → Option Name := Json.text?

/-- Names in the order of their code points. -/
def sort (names : List Name) : List Name := names.mergeSort fun a b => decide (a ≤ b)

/-- How many different names a list holds. -/
def countDistinct (names : List Name) : Nat := names.eraseDups.length

end Name
end ColumnBinding
