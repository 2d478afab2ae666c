import ColumnBinding.ColumnTable.Basic
import ColumnBinding.Entry.Resolution

/-! Compiled mappings: the table that the entries of a text make, and everything that is wrong
with them. An entry with an error is still part of the table. -/
namespace ColumnBinding

inductive EntryError where
  | duplicateColumn (column : Name)
  | invalidField (field : Name)
deriving DecidableEq

/-- Names in single quotes, joined by a separator. -/
def quotedNames (separator : String) (names : List String) : String :=
  separator.intercalate (names.map fun name => "'" ++ name ++ "'")

def EntryError.message (conv : Conventions) : EntryError → String
  | .duplicateColumn column => "Mapping already defined for column '" ++ column ++ "'"
  | .invalidField field =>
      "Invalid field name '" ++ field ++ "': field names in mapping must be " ++
        quotedNames ", " conv.wholeRecordFields ++ ", or start with " ++
        quotedNames " or " conv.namespaces ++ ", or be one of supported functions: '" ++
        conv.functionList ++ "'."

structure Compiled where
  conventions : Conventions
  table : ColumnTable
  errors : List EntryError
deriving DecidableEq

namespace Compiled

/-- What is wrong with an entry that follows those of a table. -/
def errorsOf (conv : Conventions) (t : ColumnTable) (e : Entry) : List EntryError :=
  let column := conv.column e.column
  (if t.contains column then [.duplicateColumn column] else []) ++
    if conv.accepts e.field then [] else [.invalidField e.field.text]

def record (r : Compiled) (e : Entry) : Compiled where
  conventions := r.conventions
  table := r.table.insert (r.conventions.column e.column) (r.conventions.field e.field)
  errors := r.errors ++ errorsOf r.conventions r.table e

def ofEntries (conv : Conventions) (es : List Entry) : Compiled :=
  es.foldl record ⟨conv, .empty, []⟩

variable (r : Compiled)

def messages : List String := r.errors.map (·.message r.conventions)

def isValid : Bool := r.errors.isEmpty

def bindsTtl : Bool := r.table.contains r.conventions.ttlVariable

def bindsTimestamp : Bool := r.table.contains r.conventions.timestampVariable

def regularColumns : List Name := r.table.columns.filter fun c => !r.conventions.isBoundVariable c

def functionColumns : List Name :=
  (r.table.pairs.filter fun p => r.conventions.isFunction p.2).map Prod.fst

def toJson : Json :=
  .object [("mapping", r.table.toJson), ("errors", .array (r.messages.map .string))]

end Compiled
end ColumnBinding
