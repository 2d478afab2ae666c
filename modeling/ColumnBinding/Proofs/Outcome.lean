import ColumnBinding.Proofs.LastBindings
import ColumnBinding.Proofs.Resolution
import Mathlib.Data.List.Pairwise

/-! What compiling entries comes to. Main statement: the table and the errors are those of the
entries by their places: an entry is in the table unless a later one has its column, and its column
is a duplicate if an earlier one has it. -/
namespace ColumnBinding

namespace Compiled

variable {conv : Conventions}

def binding (conv : Conventions) (e : Entry) : Name × Name := (conv.column e.column, conv.field e.field)

/-- Adds entries to those that are compiled already. -/
def recordMany (r : Compiled) (es : List Entry) : Compiled := es.foldl record r

theorem conventions_recordMany (r : Compiled) (es : List Entry) :
    (r.recordMany es).conventions = r.conventions := by
  induction es generalizing r with
  | nil => rfl
  | cons e es ih => exact ih (r.record e)

theorem table_recordMany (r : Compiled) (es : List Entry) :
    (r.recordMany es).table = r.table.insertMany (es.map (binding r.conventions)) := by
  induction es generalizing r with
  | nil => rfl
  | cons e es ih => exact ih (r.record e)

/-- The errors of an entry, given whether its column is bound already. -/
def errorsIf (conv : Conventions) (bound : Prop) [Decidable bound] (e : Entry) : List EntryError :=
  (if bound then [.duplicateColumn (conv.resolvedColumn e.column)] else []) ++
    if conv.Refuses e.field then [.invalidField e.field.resolvedText] else []

theorem errorsIf_congr {a b : Prop} [Decidable a] [Decidable b] (h : a ↔ b) (e : Entry) :
    errorsIf conv a e = errorsIf conv b e := by
  simp only [errorsIf, h]

theorem errorsIf_sublist {a b : Prop} [Decidable a] [Decidable b] (h : a → b) (e : Entry) :
    (errorsIf conv a e).Sublist (errorsIf conv b e) := by
  refine List.Sublist.append ?_ (List.Sublist.refl _)
  by_cases ha : a
  · rw [if_pos ha, if_pos (h ha)]
  · rw [if_neg ha]
    exact List.nil_sublist _

theorem errorsOf_eq (t : ColumnTable) (e : Entry) :
    errorsOf conv t e = errorsIf conv (conv.column e.column ∈ t.columns) e := by
  simp only [errorsOf, errorsIf, ColumnTable.contains, List.contains_iff_mem,
    ← Conventions.accepts_eq_false_iff, Conventions.column_eq, WrittenField.text_eq]
  cases conv.accepts e.field <;> rfl

/-- Before the entry at a place, its column is bound by a table or by an earlier entry. -/
def BoundBefore (conv : Conventions) (t : ColumnTable) (es : List Entry) (i : Fin es.length) : Prop :=
  conv.column (es.get i).column ∈ t.columns ∨
    ∃ j < i, conv.column (es.get j).column = conv.column (es.get i).column

instance (t : ColumnTable) (es : List Entry) (i : Fin es.length) :
    Decidable (BoundBefore conv t es i) := inferInstanceAs (Decidable (_ ∨ _))

theorem boundBefore_zero {t : ColumnTable} {e : Entry} {es : List Entry} :
    BoundBefore conv t (e :: es) (0 : Fin (es.length + 1)) ↔ conv.column e.column ∈ t.columns := by
  simp only [BoundBefore, Fin.not_lt_zero, false_and, exists_false, or_false]
  rfl

theorem boundBefore_succ {t : ColumnTable} {e : Entry} {es : List Entry} (i : Fin es.length) :
    BoundBefore conv t (e :: es) i.succ ↔
      BoundBefore conv (t.insert (conv.column e.column) (conv.field e.field)) es i := by
  have earlier : (∃ j : Fin (es.length + 1), j < i.succ ∧
      conv.column ((e :: es).get j).column = conv.column (es.get i).column) ↔
      conv.column (es.get i).column = conv.column e.column ∨
        ∃ j < i, conv.column (es.get j).column = conv.column (es.get i).column := by
    rw [Fin.exists_fin_succ]
    simp only [Fin.succ_pos, true_and, Fin.succ_lt_succ_iff, List.get_cons_zero, eq_comm]
    rfl
  unfold BoundBefore
  rw [ColumnTable.mem_columns_insert, or_assoc, ← earlier]
  rfl

theorem errors_recordMany (r : Compiled) (es : List Entry) :
    (r.recordMany es).errors = r.errors ++ (List.finRange es.length).flatMap fun i =>
      errorsIf r.conventions (BoundBefore r.conventions r.table es i) (es.get i) := by
  induction es generalizing r with
  | nil => exact (List.append_nil _).symm
  | cons e es ih =>
      have hr : (r.record e).errors = r.errors ++ errorsOf r.conventions r.table e := rfl
      have hf : List.finRange (e :: es).length = 0 :: (List.finRange es.length).map Fin.succ :=
        List.finRange_succ
      refine (ih (r.record e)).trans ?_
      rw [hr, List.append_assoc, errorsOf_eq, hf, List.flatMap_cons, List.flatMap_map]
      congr 2
      · exact errorsIf_congr boundBefore_zero.symm e
      · apply List.flatMap_congr
        intro i _
        exact errorsIf_congr (boundBefore_succ i).symm (es.get i)

theorem length_errorsIf (bound : Prop) [Decidable bound] (e : Entry) :
    (errorsIf conv bound e).length =
      (if bound then 1 else 0) + if conv.Refuses e.field then 1 else 0 := by
  rw [errorsIf, List.length_append]
  congr 1
  · split <;> rfl
  · split <;> rfl

/-- An entry that adds no column adds the error that its column is a duplicate. -/
theorem length_errors_record (r : Compiled) (e : Entry) :
    (r.record e).errors.length + (r.record e).table.size =
      r.errors.length + r.table.size + 1 + if r.conventions.Refuses e.field then 1 else 0 := by
  have hl : (r.record e).errors.length = r.errors.length +
      ((if r.conventions.column e.column ∈ r.table.columns then 1 else 0) +
        if r.conventions.Refuses e.field then 1 else 0) := by
    rw [record, List.length_append, errorsOf_eq, length_errorsIf]
  have ht : (r.record e).table.size = r.table.size +
      if r.conventions.column e.column ∈ r.table.columns then 0 else 1 :=
    r.table.size_insert _ _
  rw [hl, ht]
  by_cases hb : r.conventions.column e.column ∈ r.table.columns
  · rw [if_pos hb, if_pos hb]
    omega
  · rw [if_neg hb, if_neg hb]
    omega

theorem length_errors_recordMany (r : Compiled) (es : List Entry) :
    (r.recordMany es).errors.length + (r.recordMany es).table.size =
      r.errors.length + r.table.size + es.length +
        es.countP fun e => decide (r.conventions.Refuses e.field) := by
  induction es generalizing r with
  | nil => rfl
  | cons e es ih =>
      have hr := length_errors_record r e
      have hes := ih (r.record e)
      have hc : (r.record e).conventions = r.conventions := rfl
      rw [hc] at hes
      rw [recordMany, List.foldl_cons, ← recordMany, hes, hr, List.countP_cons, List.length_cons]
      simp only [decide_eq_true_eq]
      omega

theorem errors_ofEntries (conv : Conventions) (es : List Entry) :
    (ofEntries conv es).errors = (List.finRange es.length).flatMap fun i =>
      errorsIf conv (∃ j < i, conv.column (es.get j).column = conv.column (es.get i).column)
        (es.get i) := by
  have ho : ofEntries conv es = (⟨conv, .empty, []⟩ : Compiled).recordMany es := rfl
  rw [ho, errors_recordMany, List.nil_append]
  apply List.flatMap_congr
  intro i _
  apply errorsIf_congr
  simp only [BoundBefore, ColumnTable.columns, ColumnTable.empty, List.map_nil, List.not_mem_nil,
    false_or]

theorem flatMap_errorsIf_get (conv : Conventions) (es : List Entry) :
    ((List.finRange es.length).flatMap fun i => errorsIf conv False (es.get i)) =
      es.flatMap (errorsIf conv False) := by
  conv_rhs => rw [← List.map_get_finRange es, List.flatMap_map]

theorem errors_of_nodup {es : List Entry} (h : (es.map fun e => conv.column e.column).Nodup) :
    (ofEntries conv es).errors = es.flatMap (errorsIf conv False) := by
  have never : ∀ i : Fin es.length,
      (∃ j < i, conv.column (es.get j).column = conv.column (es.get i).column) ↔ False := by
    intro i
    rw [iff_false]
    rintro ⟨j, hj, he⟩
    have hp := (List.pairwise_map.1 h).rel_get_of_lt hj
    exact hp he
  rw [errors_ofEntries]
  calc (List.finRange es.length).flatMap _
      = (List.finRange es.length).flatMap fun i => errorsIf conv False (es.get i) :=
        List.flatMap_congr fun i _ => errorsIf_congr (never i) _
    _ = es.flatMap (errorsIf conv False) := flatMap_errorsIf_get conv es

theorem conventions_ofEntries (conv : Conventions) (es : List Entry) :
    (ofEntries conv es).conventions = conv := conventions_recordMany _ es

theorem table_ofEntries (conv : Conventions) (es : List Entry) :
    (ofEntries conv es).table = .ofList (es.map (binding conv)) := table_recordMany _ es

/-- Compiling entries, by their places. The table holds an entry unless a later one has its column,
in the order of the entries. An entry is reported as a duplicate if an earlier one has its column,
and then for its field if the conventions refuse that. -/
theorem ofEntries_by_place (conv : Conventions) (es : List Entry) :
    (ofEntries conv es).conventions = conv ∧
    (ofEntries conv es).table.pairs =
      ((List.finRange es.length).filter fun i => decide (∀ j, i < j →
        conv.resolvedColumn (es.get j).column ≠ conv.resolvedColumn (es.get i).column)).map (fun i =>
          (conv.resolvedColumn (es.get i).column, conv.recordedField (es.get i).field)) ∧
    (ofEntries conv es).errors = (List.finRange es.length).flatMap (fun i =>
      errorsIf conv (∃ j < i,
        conv.resolvedColumn (es.get j).column = conv.resolvedColumn (es.get i).column) (es.get i)) ∧
    (ofEntries conv es).messages = (ofEntries conv es).errors.map (EntryError.message conv) ∧
    (ofEntries conv es).table.size ≤ es.length ∧
    (ofEntries conv es).messages.length = (es.length - (ofEntries conv es).table.size) +
      es.countP fun e => decide (conv.Refuses e.field) := by
  have ho : ofEntries conv es = (⟨conv, .empty, []⟩ : Compiled).recordMany es := rfl
  have he : ColumnTable.empty.size = 0 := rfl
  have hp := ColumnTable.lastBindings_map (binding conv) es
  rw [← ColumnTable.pairs_ofList, ← table_ofEntries] at hp
  have hs : (ofEntries conv es).table.size ≤ es.length := by
    rw [ColumnTable.size, hp, List.length_map]
    exact (List.length_filter_le _ _).trans_eq List.length_finRange
  have hl : (ofEntries conv es).errors.length + (ofEntries conv es).table.size =
      es.length + es.countP fun e => decide (conv.Refuses e.field) := by
    have hsum := length_errors_recordMany ⟨conv, .empty, []⟩ es
    rwa [← ho, he, List.length_nil, Nat.add_zero, Nat.zero_add] at hsum
  rw [← Conventions.column_eq, ← Conventions.field_eq]
  refine ⟨conventions_ofEntries conv es, hp, errors_ofEntries conv es, ?_, hs, ?_⟩
  · rw [messages, conventions_ofEntries]
  · rw [messages, List.length_map]
    omega

/-- Reserved columns with quotes and without, a doubled quote, sides of the record, calls, and a column that
is bound twice. -/
theorem ofEntries_by_place_of_each_kind :
    ∃ r, r = ofEntries .standard [.of (.literal "__ttl" .zero) (.name (.literal "key" .zero)),
        .of (.quoted "a\"\"b" .zero) (.name (.quoted "key" .zero)),
        .of (.literal "c" .zero) (.call "now" .zero),
        .of (.quoted "c" .zero) (.name (.literal "value.x" .zero)),
        .of (.quoted "__timestamp" .zero) (.call "later" .zero)] ∧
      r.table.pairs = [("kafka_internal_ttl", "key.__self"), ("a\"b", "key"), ("c", "value.x"),
        ("__timestamp", "later()")] ∧
      r.errors = [.invalidField "key", .duplicateColumn "c", .invalidField "later()"] ∧
      r.messages = ["Invalid field name 'key': field names in mapping must be 'key', 'value', or " ++
          "start with 'key.' or 'value.' or 'header.', or be one of supported functions: '[now()]'.",
        "Mapping already defined for column 'c'",
        "Invalid field name 'later()': field names in mapping must be 'key', 'value', or " ++
          "start with 'key.' or 'value.' or 'header.', or be one of supported functions: '[now()]'."] := by
  obtain ⟨-, hp, he, hm, -⟩ := ofEntries_by_place .standard
    [.of (.literal "__ttl" .zero) (.name (.literal "key" .zero)),
      .of (.quoted "a\"\"b" .zero) (.name (.quoted "key" .zero)),
      .of (.literal "c" .zero) (.call "now" .zero),
      .of (.quoted "c" .zero) (.name (.literal "value.x" .zero)),
      .of (.quoted "__timestamp" .zero) (.call "later" .zero)]
  refine ⟨_, rfl, hp.trans (by decide), he.trans (by decide), ?_⟩
  rw [hm, he]
  decide +kernel

end Compiled
end ColumnBinding
