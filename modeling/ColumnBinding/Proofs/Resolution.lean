import ColumnBinding.Compiled.Basic
import Mathlib.Data.List.Basic

/-! What the names of an entry are resolved to, and which fields are refused, told from how the names are
written. Main statements: the columns and fields that a table holds are the resolved ones, and a field is
accepted unless it is refused. -/
namespace ColumnBinding

/-- The name that a field is meant as, without quotes. A call keeps its parentheses. -/
def WrittenField.resolvedText : WrittenField → Name
  | .name (.literal text _) => text
  | .name (.quoted inner _) => Text.Quoted.collapse inner
  | .call function _ => function ++ "()"

theorem WrittenField.text_eq (f : WrittenField) : f.text = f.resolvedText := by
  cases f with
  | name n => cases n <;> rfl
  | call function span => rfl

namespace Conventions

variable (conv : Conventions)

/-- The name of a column. Without quotes, a reserved column has the name of its variable. -/
def resolvedColumn : WrittenName → Name
  | .literal text _ =>
      if text = conv.ttlColumn then conv.ttlVariable
      else if text = conv.timestampColumn then conv.timestampVariable
      else text
  | .quoted inner _ => Text.Quoted.collapse inner

/-- Without quotes, a field that is a whole side of the record. -/
def IsSide : WrittenField → Prop
  | .name (.literal text _) => text ∈ conv.wholeRecordFields
  | _ => False

instance (f : WrittenField) : Decidable (conv.IsSide f) :=
  match f with
  | .name (.literal text _) => inferInstanceAs (Decidable (text ∈ conv.wholeRecordFields))
  | .name (.quoted _ _) | .call _ _ => inferInstanceAs (Decidable False)

/-- The field that is recorded for an entry: a whole side under the name that refers to itself, and every
other field under its own. -/
def recordedField (f : WrittenField) : Name :=
  if conv.IsSide f then f.resolvedText ++ "." ++ conv.selfMarker else f.resolvedText

/-- The field starts with one of the namespaces. -/
def HasNamespace (field : Name) : Prop := ∃ space ∈ conv.namespaces, space.toList <+: field.toList

/-- A name that is not part of a namespace, and no call that is known. -/
def Unsupported (field : Name) : Prop :=
  (∀ space ∈ conv.namespaces, ¬ space.toList <+: field.toList) ∧ field ∉ conv.functions

instance (field : Name) : Decidable (conv.Unsupported field) :=
  inferInstanceAs (Decidable (_ ∧ _))

/-- Neither a whole side of the record without quotes, nor a name that is supported. -/
def Refuses (f : WrittenField) : Prop := ¬ conv.IsSide f ∧ conv.Unsupported f.resolvedText

instance (f : WrittenField) : Decidable (conv.Refuses f) :=
  inferInstanceAs (Decidable (_ ∧ _))

/-- The variable that a reserved column is written through. -/
def Reserves (column variableName : Name) : Prop :=
  column = conv.ttlColumn ∧ variableName = conv.ttlVariable ∨
    column ≠ conv.ttlColumn ∧ column = conv.timestampColumn ∧
      variableName = conv.timestampVariable

variable {conv}

theorem boundVariable?_eq_some_iff {column variableName : Name} :
    conv.boundVariable? column = some variableName ↔ conv.Reserves column variableName := by
  unfold boundVariable? Reserves
  by_cases ht : column = conv.ttlColumn
  · simp [ht, eq_comm]
  · rw [if_neg ht]
    by_cases hs : column = conv.timestampColumn
    · rw [if_pos hs, Option.some.injEq]
      constructor
      · exact fun h => .inr ⟨ht, hs, h.symm⟩
      · exact fun h => (h.resolve_left fun h => ht h.1).2.2.symm
    · simp [ht, hs]

theorem boundVariable?_cases {column variableName : Name}
    (h : conv.boundVariable? column = some variableName) :
    (column = conv.ttlColumn ∧ variableName = conv.ttlVariable) ∨
      (column = conv.timestampColumn ∧ variableName = conv.timestampVariable) :=
  (boundVariable?_eq_some_iff.1 h).imp_right And.right

theorem boundVariable?_eq_none_iff {column : Name} : conv.boundVariable? column = none ↔
    column ≠ conv.ttlColumn ∧ column ≠ conv.timestampColumn := by
  unfold boundVariable?
  split
  · next h => simp [h]
  · next h =>
      split
      · next hs => simp [hs]
      · next hs => simp [h, hs]

theorem column_eq (conv : Conventions) : conv.column = conv.resolvedColumn := by
  funext n
  cases n with
  | quoted inner span => rfl
  | literal text span =>
      rw [column, boundVariable?, resolvedColumn]
      split
      · rfl
      · split <;> rfl

theorem bindsWhole_iff {f : WrittenField} : conv.bindsWhole f = true ↔ conv.IsSide f := by
  have hw : conv.bindsWhole f = true ↔ f.origin = .literal ∧ f.text ∈ conv.wholeRecordFields := by
    rw [bindsWhole, isWholeRecord, Bool.and_eq_true, beq_iff_eq, List.contains_iff_mem]
  rw [hw]
  cases f with
  | name n =>
      cases n with
      | literal text span => exact and_iff_right rfl
      | quoted inner span => exact iff_of_false (fun h => nomatch h.1) id
  | call function span => exact iff_of_false (fun h => nomatch h.1) id

theorem field_eq (conv : Conventions) : conv.field = conv.recordedField := by
  funext f
  simp only [field, bindsWhole_iff, recordedField, selfReference, f.text_eq]

theorem inNamespace_iff {field : Name} : conv.inNamespace field = true ↔ conv.HasNamespace field := by
  simp only [inNamespace, HasNamespace, List.any_eq_true, List.isPrefixOf_iff_prefix]

theorem not_unsupported_iff {field : Name} :
    ¬ conv.Unsupported field ↔ conv.HasNamespace field ∨ field ∈ conv.functions := by
  simp only [Unsupported, HasNamespace, not_and_or, not_forall, not_not, exists_prop]

theorem isWellFormed_eq_false_iff {field : Name} :
    conv.isWellFormed field = false ↔ conv.Unsupported field := by
  simp only [isWellFormed, inNamespace, isFunction, Unsupported, Bool.or_eq_false_iff,
    List.any_eq_false, List.isPrefixOf_iff_prefix, List.contains_eq_mem, decide_eq_false_iff_not]

theorem accepts_eq_false_iff {f : WrittenField} : conv.accepts f = false ↔ conv.Refuses f := by
  rw [accepts, Bool.or_eq_false_iff, Bool.eq_false_iff, ne_eq, bindsWhole_iff,
    isWellFormed_eq_false_iff, f.text_eq, Refuses]

section checkedField

variable {f : WrittenField}

theorem field_eq_text (h : conv.bindsWhole f = false) : conv.field f = f.text := by
  rw [field, h]
  rfl

theorem accepts_eq_isWellFormed (h : conv.bindsWhole f = false) :
    conv.accepts f = conv.isWellFormed f.text := by
  rw [accepts, h, Bool.false_or]

theorem refuses_iff_unsupported (h : conv.bindsWhole f = false) :
    conv.Refuses f ↔ conv.Unsupported f.text := by
  rw [← accepts_eq_false_iff, accepts_eq_isWellFormed h, isWellFormed_eq_false_iff]

end checkedField

/-- A part of the key, of the value, or of the headers of a record. -/
def InRecord (field : Name) : Prop :=
  "key.".toList <+: field.toList ∨ "value.".toList <+: field.toList ∨
    "header.".toList <+: field.toList

theorem mem_wholeRecordFields_standard_iff {side : Name} :
    side ∈ standard.wholeRecordFields ↔ side = "key" ∨ side = "value" := by
  simp only [standard, List.mem_cons, List.not_mem_nil, or_false]

theorem hasNamespace_standard_iff {field : Name} : standard.HasNamespace field ↔ InRecord field := by
  simp only [HasNamespace, InRecord, standard, List.exists_mem_cons_iff, List.not_mem_nil, false_and,
    exists_false, or_false]

end Conventions
end ColumnBinding
