import ColumnBinding.Proofs.Outcome
import Mathlib.Data.List.Flatten

/-! What a list of errors tells about the entries that were compiled. Main statements: a message
determines its error, and there is no error exactly where no column occurs twice and no field is
refused. -/
namespace ColumnBinding

theorem EntryError.message_duplicate_ne (conv : Conventions) (column field : Name) :
    (duplicateColumn column).message conv ≠ (invalidField field).message conv := by
  intro h
  unfold message at h
  simp only [String.append_assoc] at h
  have hl := congrArg (fun s => s.toList.head?) h
  simp only [String.toList_append, List.head?_append] at hl
  have hm : "Mapping already defined for column '".toList.head? = some 'M' := by rfl
  have hi : "Invalid field name '".toList.head? = some 'I' := by rfl
  rw [hm, hi] at hl
  cases hl

theorem EntryError.message_injective (conv : Conventions) :
    Function.Injective (EntryError.message conv) := by
  intro a b h
  cases a with
  | duplicateColumn c =>
      cases b with
      | duplicateColumn d =>
          have hc := (String.append_right_inj _).1 ((String.append_left_inj _).1 h)
          rw [hc]
      | invalidField f => exact absurd h (message_duplicate_ne conv c f)
  | invalidField f =>
      cases b with
      | duplicateColumn d => exact absurd h.symm (message_duplicate_ne conv d f)
      | invalidField g =>
          unfold message at h
          simp only [String.append_assoc] at h
          have hf := (String.append_left_inj _).1 ((String.append_right_inj _).1 h)
          rw [hf]

namespace Compiled

@[ext] theorem ext {r s : Compiled} (hc : r.conventions = s.conventions) (ht : r.table = s.table)
    (he : r.errors = s.errors) : r = s := by
  cases r
  cases s
  cases hc
  cases ht
  cases he
  rfl

/-- Compiled mappings are the same where their conventions, tables and messages are. -/
theorem eq_iff_messages {r s : Compiled} : r = s ↔
    r.conventions = s.conventions ∧ r.table = s.table ∧ r.messages = s.messages := by
  constructor
  · rintro rfl
    exact ⟨rfl, rfl, rfl⟩
  · rintro ⟨hc, ht, hm⟩
    rw [messages, messages, hc] at hm
    exact ext hc ht (List.map_injective_iff.2 (EntryError.message_injective s.conventions) hm)

theorem isValid_eq_false_iff {r : Compiled} : r.isValid = false ↔ r.messages ≠ [] := by
  rw [isValid, List.isEmpty_eq_false_iff, messages, ne_eq, ne_eq, List.map_eq_nil_iff]

variable {conv : Conventions}

theorem fieldErrors_sublist (conv : Conventions) (es : List Entry) :
    (es.flatMap (errorsIf conv False)).Sublist (ofEntries conv es).errors := by
  rw [← flatMap_errorsIf_get, errors_ofEntries]
  apply List.Sublist.flatMap_right
  intro i _
  exact errorsIf_sublist False.elim (es.get i)

theorem duplicateColumn_notMem_errorsIf (e : Entry) (column : Name) :
    EntryError.duplicateColumn column ∉ errorsIf conv False e := by
  rw [errorsIf, if_neg not_false, List.nil_append]
  split <;> simp

/-- A column is reported as a duplicate unless the columns are pairwise different. -/
theorem nodup_iff_no_duplicate {es : List Entry} :
    (es.map fun e => conv.column e.column).Nodup ↔
      ∀ column, .duplicateColumn column ∉ (ofEntries conv es).errors := by
  constructor
  · intro hn column hm
    rw [errors_of_nodup hn] at hm
    obtain ⟨e, -, he⟩ := List.mem_flatMap.1 hm
    exact duplicateColumn_notMem_errorsIf e column he
  · intro h
    rw [List.nodup_iff_pairwise_ne, List.pairwise_map, List.pairwise_iff_get]
    intro i j hij he
    apply h (conv.column (es.get j).column)
    rw [errors_ofEntries]
    refine List.mem_flatMap.2 ⟨j, List.mem_finRange j, List.mem_append_left _ ?_⟩
    rw [if_pos ⟨i, hij, he⟩, ← Conventions.column_eq]
    exact List.mem_singleton_self _

theorem errorsIf_false_eq_nil_iff {e : Entry} :
    errorsIf conv False e = [] ↔ ¬ conv.Refuses e.field := by
  rw [errorsIf, if_neg not_false, List.nil_append]
  split <;> simp_all

theorem errors_eq_nil_iff {es : List Entry} : (ofEntries conv es).errors = [] ↔
    (es.map fun e => conv.column e.column).Nodup ∧ ∀ e ∈ es, ¬ conv.Refuses e.field := by
  have fields : (es.map fun e => conv.column e.column).Nodup →
      ((ofEntries conv es).errors = [] ↔ ∀ e ∈ es, ¬ conv.Refuses e.field) := by
    intro hn
    rw [errors_of_nodup hn, List.flatMap_eq_nil_iff]
    simp only [errorsIf_false_eq_nil_iff]
  constructor
  · intro h
    have hn : (es.map fun e => conv.column e.column).Nodup := by
      rw [nodup_iff_no_duplicate, h]
      intro column
      exact List.not_mem_nil
    exact ⟨hn, (fields hn).1 h⟩
  · rintro ⟨hn, hf⟩
    exact (fields hn).2 hf

end Compiled
end ColumnBinding
