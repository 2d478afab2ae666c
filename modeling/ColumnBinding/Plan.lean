import ColumnBinding.ColumnTable.Basic
import ColumnBinding.Conventions

/-! Mappings given by what they shall bind. A plan has a mapping text, and an outcome that is
found without looking at that text. -/
namespace ColumnBinding.Plan

inductive Column where
  | literal (text : String)
  | quoted (text : String)
  | ttl
  | timestamp
deriving DecidableEq

inductive Field where
  /-- A name that lies in a namespace. -/
  | namespaced (text : String)
  /-- A whole side of the record. -/
  | whole (side : String)
  | quoted (text : String)
  | function (name : String)
  /-- A name that lies in no namespace. -/
  | bare (text : String)
deriving DecidableEq

structure Entry where
  column : Column
  field : Field
deriving DecidableEq

/-- The column as a mapping text writes it. -/
def Column.text : Column → String
  | .literal text => text
  | .quoted text => Text.Quoted.enclose text
  | .ttl => Conventions.standard.ttlColumn
  | .timestamp => Conventions.standard.timestampColumn

/-- The column that the table shall have. -/
def Column.bound : Column → Name
  | .literal text | .quoted text => text
  | .ttl => Conventions.standard.ttlVariable
  | .timestamp => Conventions.standard.timestampVariable

namespace Field

/-- The field as a mapping text writes it. -/
def text : Field → String
  | .namespaced text | .bare text => text
  | .whole side => side
  | .quoted text => Text.Quoted.enclose text
  | .function name => name ++ "()"

/-- The field that the table shall have. -/
def bound : Field → Name
  | .namespaced text | .quoted text | .bare text => text
  | .whole side => Conventions.standard.selfReference side
  | .function name => name ++ "()"

def isValid : Field → Bool
  | .namespaced _ | .whole _ => true
  | .quoted text => Conventions.standard.isWellFormed text
  | .function name => Conventions.standard.isFunction (name ++ "()")
  | .bare _ => false

end Field

/-- An entry with the same padding at each place where blanks may stand. -/
def Entry.text (e : Entry) (padding : String) : String :=
  padding ++ e.column.text ++ padding ++ "=" ++ padding ++ e.field.text ++ padding

/-- The texts of all entries, each with its own padding as long as there is one. -/
def texts : List Entry → List String → List String
  | [], _ => []
  | e :: es, [] => e.text "" :: texts es []
  | e :: es, p :: ps => e.text p :: texts es ps

/-- The mapping text of a plan. -/
def text (es : List Entry) (paddings : List String) : String :=
  ",".intercalate (texts es paddings)

/-- The table and the number of errors so far, after one more entry. -/
def tally (outcome : ColumnTable × Nat) (e : Entry) : ColumnTable × Nat :=
  (outcome.1.insert e.column.bound e.field.bound,
    outcome.2 + (if outcome.1.contains e.column.bound then 1 else 0) +
      if e.field.isValid then 0 else 1)

/-- The table that a plan shall make, and how many errors its text shall have. -/
def outcome (es : List Entry) : ColumnTable × Nat := es.foldl tally (.empty, 0)

end ColumnBinding.Plan
