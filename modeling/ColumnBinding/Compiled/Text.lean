import ColumnBinding.Compiled.Basic
import ColumnBinding.Entry.Parser
import ColumnBinding.Setting

/-! Compiling mapping texts. A text that cannot be read has no compiled mapping; where a setting
holds the text, every other error is fatal, too. -/
namespace ColumnBinding

/-- A mapping text that cannot be read, with the setting that it comes from. -/
structure MappingError where
  setting : String
  text : String
  cause : SyntaxError
deriving DecidableEq

namespace MappingError

def describe (e : MappingError) : String :=
  "Invalid value '" ++ e.text ++ "' for configuration " ++ e.setting ++ ": " ++ e.cause.describe

def toSettingError (e : MappingError) : SettingError :=
  .invalidValue e.setting ("'" ++ e.text ++ "'") e.cause.describe

end MappingError

/-- Compiles a text. The setting is only a label for the error. -/
def compile (conv : Conventions) (setting text : String) : Except MappingError Compiled :=
  match parseEntries text with
  | .ok es => .ok (.ofEntries conv es)
  | .error cause => .error ⟨setting, text, cause⟩

theorem compile_eq_ok_iff {conv : Conventions} {setting text : String} {r : Compiled} :
    compile conv setting text = .ok r ↔
      ∃ es, parseEntries text = .ok es ∧ r = .ofEntries conv es := by
  rw [compile]
  cases parseEntries text with
  | ok es => simp only [Except.ok.injEq, exists_eq_left', eq_comm]
  | error cause => simp only [reduceCtorEq, false_and, exists_false]

theorem compile_eq_error_iff {conv : Conventions} {setting text : String} {e : MappingError} :
    compile conv setting text = .error e ↔
      ∃ cause, parseEntries text = .error cause ∧ e = ⟨setting, text, cause⟩ := by
  rw [compile]
  cases parseEntries text with
  | ok es => simp only [reduceCtorEq, false_and, exists_false]
  | error cause => simp only [Except.error.injEq, exists_eq_left', eq_comm]

/-- The error of a setting whose text can be read but has errors, one to a line. -/
def Compiled.toSettingError (r : Compiled) (setting text : String) : SettingError :=
  .invalidValue setting ("'" ++ text ++ "'") ("\n".intercalate r.messages)

/-- Compiles the text of a setting by the standard conventions. -/
def MappingSetting.compile (s : MappingSetting) (text : String) : Except SettingError Compiled :=
  match ColumnBinding.compile .standard s.name text with
  | .error e => .error e.toSettingError
  | .ok r => if r.isValid then .ok r else .error (r.toSettingError s.name text)

/-- Under the standard conventions, a setting refuses a text that has an error. -/
theorem MappingSetting.compile_of_invalid {s : MappingSetting} {text : String} {r : Compiled}
    (h : ColumnBinding.compile .standard s.name text = .ok r) (hv : r.isValid = false) :
    s.compile text = .error (r.toSettingError s.name text) := by
  rw [MappingSetting.compile, h]
  simp only [hv, Bool.false_eq_true, if_false]

/-- Whether two texts compile to the same mapping, or have the same error. -/
def sameOutcome : Except MappingError Compiled → Except MappingError Compiled → Bool
  | .ok r, .ok s => r == s
  | .error e, .error f => e == f
  | _, _ => false

end ColumnBinding
