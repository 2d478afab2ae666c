import ColumnBinding.Event
import ColumnBinding.Inspection.Report
import ColumnBinding.Text.Json.Writer

/-! The command that shows how a mapping text is understood. -/
namespace ColumnBinding.Inspection

structure Outcome where
  exit : Nat
  stdout : String
  stderr : String
  events : List Event

/-- Lines of text, each of them ended. -/
def unlines (lines : List String) : String := String.join (lines.map (· ++ "\n"))

def usage : List String :=
  ["Usage: cargo run --bin trace_mapping <mapping> [setting-name]", "", "Example:",
    "  cargo run --bin trace_mapping 'c1=value.f1, __ttl=value.ttl'"]

/-- The setting that a text is read for unless another is named. -/
def defaultSetting : String := "mapping"

/-- The form of the report is JSON only where it is asked for by that name, in any case. -/
def wantsJson (form : Option String) : Bool :=
  match form with
  | some name => name.toList.map Char.toLower == "json".toList
  | none => false

def report (form : Option String) (text : String) (r : Compiled) : String :=
  if wantsJson form then unlines [r.toJson.pretty] else unlines (Report.lines text r)

/-- Exits with 1 without a text, with 2 for a text that cannot be read, with 3 for one with other
errors, and with 0 otherwise. -/
def run (arguments : List String) (form : Option String) : Outcome :=
  match arguments with
  | [] => ⟨1, "", unlines usage, []⟩
  | text :: rest =>
      let setting := rest.head?.getD defaultSetting
      let result := compile .standard setting text
      let events := .tracing setting :: Event.ofCompile setting result
      match result with
      | .error e =>
          ⟨2, "", unlines [e.describe], events ++ [.tracingFailed e.cause.line e.cause.column]⟩
      | .ok r => ⟨if r.isValid then 0 else 3, report form text r, "", events⟩

end ColumnBinding.Inspection
