/-! The settings that mapping texts are read from. A topic has settings `topic.<topic>.<option>`;
topics may hold dots, options do not. -/
namespace ColumnBinding

inductive SettingError where
  | invalidValue (setting value reason : String)
  | invalidName (name : String)
deriving DecidableEq

def SettingError.describe : SettingError → String
  | .invalidValue setting value reason =>
      "Invalid value " ++ value ++ " for configuration " ++ setting ++ ": " ++ reason
  | .invalidName name =>
      "Invalid mapping setting name: " ++ name ++ " (expected topic.<topic>.mapping)"

namespace Setting

def root : String := "topic."

def mappingOption : String := "mapping"

def name (topic option : String) : String := root ++ topic ++ "." ++ option

def splitLastDot : List Char → Option (List Char × List Char)
  | [] => none
  | c :: cs =>
      match splitLastDot cs with
      | some (before, behind) => some (c :: before, behind)
      | none => if c = '.' then some ([], cs) else none

theorem splitLastDot_eq_none_iff {cs : List Char} : splitLastDot cs = none ↔ '.' ∉ cs := by
  induction cs with
  | nil => exact iff_of_true rfl List.not_mem_nil
  | cons c cs ih =>
      rw [List.mem_cons, not_or, ← ih, splitLastDot]
      cases splitLastDot cs with
      | some p => simp
      | none =>
          by_cases hc : c = '.'
          · simp [hc]
          · simp [hc, Ne.symm hc]

theorem splitLastDot_append (before : List Char) {behind : List Char} (h : '.' ∉ behind) :
    splitLastDot (before ++ '.' :: behind) = some (before, behind) := by
  induction before with
  | nil =>
      rw [List.nil_append, splitLastDot, splitLastDot_eq_none_iff.2 h]
      exact if_pos rfl
  | cons c cs ih => rw [List.cons_append, splitLastDot, ih]

/-- A cut loses the dot alone, and the last part holds none. -/
theorem splitLastDot_eq_some_iff {cs before behind : List Char} :
    splitLastDot cs = some (before, behind) ↔ cs = before ++ '.' :: behind ∧ '.' ∉ behind := by
  constructor
  · intro h
    induction cs generalizing before with
    | nil => cases h
    | cons c cs ih =>
        rw [splitLastDot] at h
        split at h
        · next b e hs =>
            cases h
            obtain ⟨rfl, hn⟩ := ih hs
            exact ⟨rfl, hn⟩
        · next hs =>
            split at h
            · next hc =>
                cases h
                exact ⟨by rw [hc, List.nil_append], splitLastDot_eq_none_iff.1 hs⟩
            · cases h
  · rintro ⟨rfl, h⟩
    exact splitLastDot_append before h

end Setting

/-- The setting that holds the mapping of a topic. -/
structure MappingSetting where
  topic : String
deriving DecidableEq

namespace MappingSetting

def name (s : MappingSetting) : String := Setting.name s.topic Setting.mappingOption

theorem name_eq (topic : String) :
    (⟨topic⟩ : MappingSetting).name = "topic." ++ topic ++ ".mapping" := by
  have hm : ".mapping" = "." ++ "mapping" := by decide
  rw [hm, ← String.append_assoc]
  rfl

/-- Reads the topic back from a name. It must not be empty. -/
def ofName (name : String) : Except SettingError MappingSetting :=
  let cs := name.toList
  if Setting.root.toList.isPrefixOf cs then
    match Setting.splitLastDot (cs.drop Setting.root.length) with
    | some (topic, option) =>
        if topic ≠ [] ∧ String.ofList option = Setting.mappingOption then
          .ok ⟨String.ofList topic⟩
        else .error (.invalidName name)
    | none => .error (.invalidName name)
  else .error (.invalidName name)

end MappingSetting
end ColumnBinding
