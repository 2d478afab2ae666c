import ColumnBinding.Name

/-! The names that a mapping treats specially. -/
namespace ColumnBinding

/-- Two reserved columns bind the time to live and the write timestamp of a record. Each is written
through a bound variable. -/
structure Conventions where
  ttlColumn : Name
  timestampColumn : Name
  ttlVariable : Name
  timestampVariable : Name
  /-- The part of a record side that stands for all of it. -/
  selfMarker : String
  wholeRecordFields : List Name
  /-- What the name of a field starts with. -/
  namespaces : List String
  functions : List Name
deriving DecidableEq

namespace Conventions

/-- The names that the connector goes by. -/
def standard : Conventions where
  ttlColumn := "__ttl"
  timestampColumn := "__timestamp"
  ttlVariable := "kafka_internal_ttl"
  timestampVariable := "kafka_internal_timestamp"
  selfMarker := "__self"
  wholeRecordFields := ["key", "value"]
  namespaces := ["key.", "value.", "header."]
  functions := ["now()"]

variable (conv : Conventions)

def boundVariable? (column : Name) : Option Name :=
  if column = conv.ttlColumn then some conv.ttlVariable
  else if column = conv.timestampColumn then some conv.timestampVariable
  else none

def isBoundVariable (column : Name) : Bool :=
  column == conv.ttlVariable || column == conv.timestampVariable

def isWholeRecord (field : Name) : Bool := conv.wholeRecordFields.contains field

/-- The field that stands for a whole side of the record. -/
def selfReference (side : Name) : Name := side ++ "." ++ conv.selfMarker

def inNamespace (field : Name) : Bool :=
  conv.namespaces.any fun space => space.toList.isPrefixOf field.toList

def isFunction (field : Name) : Bool := conv.functions.contains field

/-- A field of one of the namespaces, or one of the calls. -/
def isWellFormed (field : Name) : Bool := conv.inNamespace field || conv.isFunction field

def functionList : String := "[" ++ ", ".intercalate conv.functions ++ "]"

end Conventions
end ColumnBinding
