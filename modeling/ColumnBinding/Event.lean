import ColumnBinding.Compiled.Text

/-! What is logged about the compiling of mappings. -/
namespace ColumnBinding

/-- Levels of events, the graver ones first. -/
inductive Level where
  | error
  | warn
  | info
  | debug
  | trace
deriving DecidableEq

namespace Level

def name : Level → String
  | .error => "ERROR"
  | .warn => "WARN"
  | .info => "INFO"
  | .debug => "DEBUG"
  | .trace => "TRACE"

/-- How much is let through by a limit at this level. -/
def rank : Level → Nat
  | .error => 1
  | .warn => 2
  | .info => 3
  | .debug => 4
  | .trace => 5

/-- The limit of that name: `off` lets nothing through. -/
def limit? (name : String) : Option (Option Level) :=
  match name with
  | "off" => some none
  | "error" => some (some .error)
  | "warn" => some (some .warn)
  | "info" => some (some .info)
  | "debug" => some (some .debug)
  | "trace" => some (some .trace)
  | _ => none

end Level

inductive Event where
  | textRejected (setting : String) (cause : SyntaxError)
  | entryRejected (message : String)
  | compiled (setting : String) (entries errors : Nat)
  | settingUnreadable (setting : String) (cause : SyntaxError)
  | settingInvalid (setting : String) (errors : Nat)
  | tracing (setting : String)
  | tracingFailed (line column : Nat)
deriving DecidableEq

namespace Event

def level : Event → Level
  | .textRejected .. | .entryRejected .. | .compiled .. => .debug
  | .settingUnreadable .. | .settingInvalid .. => .warn
  | .tracing .. => .info
  | .tracingFailed .. => .error

/-- The part of the program that the event comes from. -/
def target : Event → String
  | .tracing .. | .tracingFailed .. => "trace_mapping"
  | _ => "sinkmap_dsl::compiler"

def message : Event → String
  | .textRejected .. => "mapping could not be parsed"
  | .entryRejected .. => "mapping entry rejected"
  | .compiled .. => "compiled mapping"
  | .settingUnreadable .. | .settingInvalid .. => "rejecting mapping setting"
  | .tracing .. => "tracing mapping"
  | .tracingFailed .. => "syntax error"

def details : Event → List (String × Json)
  | .textRejected setting cause => [("setting", .string setting), ("error", .string cause.describe)]
  | .entryRejected message => [("error", .string message)]
  | .compiled setting entries errors =>
      [("setting", .string setting), ("entries", .integer entries), ("errors", .integer errors)]
  | .settingUnreadable setting cause =>
      [("setting", .string setting), ("error", .string cause.describe)]
  | .settingInvalid setting errors => [("setting", .string setting), ("errors", .integer errors)]
  | .tracing setting => [("setting", .string setting)]
  | .tracingFailed line column => [("line", .integer line), ("column", .integer column)]

def fields (e : Event) : Json := .object (("message", .string e.message) :: e.details)

def toJson (e : Event) : Json :=
  .object [("level", .string e.level.name), ("fields", e.fields), ("target", .string e.target)]

/-- The events that a limit lets through. -/
def admitted (limit : Option Level) (events : List Event) : List Event :=
  match limit with
  | none => []
  | some l => events.filter fun e => e.level.rank ≤ l.rank

def ofCompile (setting : String) : Except MappingError Compiled → List Event
  | .error e => [.textRejected setting e.cause]
  | .ok r =>
      r.messages.map .entryRejected ++ [.compiled setting r.table.size r.errors.length]

def ofSetting (s : MappingSetting) (text : String) : List Event :=
  let result := compile .standard s.name text
  ofCompile s.name result ++
    match result with
    | .error e => [.settingUnreadable s.name e.cause]
    | .ok r => if r.isValid then [] else [.settingInvalid s.name r.errors.length]

end Event
end ColumnBinding
