import ColumnBinding.Proofs.PrintedText
import Mathlib

/-! The variables among the columns of a table. No column is ever lost, so a variable is bound as soon as
one entry writes it, and the other columns are counted apart from the variables. Main statement: the
queries on a compiled table tell which columns the entries of the text resolve to. -/
namespace ColumnBinding

namespace Conventions

variable {conv : Conventions}

/-- A column resolves to the name that it is renamed to, or to its own one, which then is written with
quotes or not reserved. -/
theorem column_eq_iff {n : WrittenName} {name : Name} : conv.column n = name ↔
    (∃ text span, n = .literal text span ∧ conv.boundVariable? text = some name) ∨
      (n.text = name ∧ ∀ span, n = .literal name span → conv.boundVariable? name = none) := by
  cases n with
  | quoted inner s =>
      constructor
      · intro h
        exact .inr ⟨h, nofun⟩
      · rintro (⟨_, _, hn, _⟩ | ⟨h, -⟩)
        · cases hn
        · exact h
  | literal text s =>
      rw [column]
      cases hb : conv.boundVariable? text with
      | none =>
          constructor
          · rintro rfl
            exact .inr ⟨rfl, fun _ _ => hb⟩
          · rintro (⟨_, _, hn, hv⟩ | ⟨h, -⟩)
            · cases hn
              rw [hb] at hv
              cases hv
            · exact h
      | some v =>
          constructor
          · rintro rfl
            exact .inl ⟨text, s, rfl, hb⟩
          · rintro (⟨_, _, hn, hv⟩ | ⟨h, hr⟩)
            · cases hn
              exact Option.some.inj (hb.symm.trans hv)
            · cases h
              cases hb.symm.trans (hr s rfl)

theorem column_standard_eq_ttlVariable_iff {n : WrittenName} :
    standard.column n = standard.ttlVariable ↔
      (∃ span, n = .literal "__ttl" span) ∨ n.text = "kafka_internal_ttl" := by
  have hb : standard.boundVariable? "kafka_internal_ttl" = none := by decide
  rw [column_eq_iff]
  constructor
  · rintro (⟨text, span, rfl, hv⟩ | ⟨ht, -⟩)
    · rcases boundVariable?_cases hv with ⟨rfl, -⟩ | ⟨-, hv⟩
      · exact .inl ⟨span, rfl⟩
      · exact absurd hv (by decide)
    · exact .inr ht
  · rintro (⟨span, rfl⟩ | ht)
    · exact .inl ⟨_, span, rfl, by decide⟩
    · exact .inr ⟨ht, fun _ _ => hb⟩

theorem column_standard_eq_ttlColumn_iff {n : WrittenName} :
    standard.column n = "__ttl" ↔ ∃ inner span, n = .quoted inner span ∧ n.text = "__ttl" := by
  rw [column_eq_iff]
  constructor
  · rintro (⟨text, span, rfl, hv⟩ | ⟨ht, hr⟩)
    · rcases boundVariable?_cases hv with ⟨-, hv⟩ | ⟨-, hv⟩ <;> exact absurd hv (by decide)
    · cases n with
      | literal text span =>
          cases ht
          cases hr span rfl
      | quoted inner span => exact ⟨inner, span, rfl, ht⟩
  · rintro ⟨inner, span, rfl, ht⟩
    exact .inr ⟨ht, nofun⟩

end Conventions

theorem length_filter_ne {α : Type} [DecidableEq α] {as : List α} (h : as.Nodup) (a : α) :
    as.length = (as.filter fun b => b != a).length + if a ∈ as then 1 else 0 := by
  rw [← h.erase_eq_filter, List.length_erase]
  by_cases ha : a ∈ as
  · rw [if_pos ha, if_pos ha, Nat.sub_add_cancel (List.length_pos_of_mem ha)]
  · rw [if_neg ha, if_neg ha]
    rfl

theorem eq_singleton_of_nodup {α : Type} {as : List α} {a : α} (h : as.Nodup) (hm : a ∈ as)
    (ha : ∀ b ∈ as, b = a) : as = [a] := by
  have hr : as = List.replicate as.length a := List.eq_replicate_of_mem ha
  have hl : as.length ≤ 1 := by
    rw [hr] at h
    exact List.nodup_replicate.1 h
  have hp := List.length_pos_of_mem hm
  rw [hr, Nat.le_antisymm hl hp]
  rfl

namespace Compiled

variable {conv : Conventions} {es : List Entry}

theorem mem_columns_ofEntries {column : Name} : column ∈ (ofEntries conv es).table.columns ↔
    ∃ e ∈ es, conv.column e.column = column := by
  rw [table_ofEntries, ColumnTable.mem_columns_ofList, List.map_map, List.mem_map]
  rfl

theorem bindsTtl_ofEntries : (ofEntries conv es).bindsTtl = true ↔
    ∃ e ∈ es, conv.column e.column = conv.ttlVariable := by
  rw [bindsTtl, ColumnTable.contains, List.contains_iff_mem, conventions_ofEntries,
    mem_columns_ofEntries]

theorem bindsTimestamp_ofEntries : (ofEntries conv es).bindsTimestamp = true ↔
    ∃ e ∈ es, conv.column e.column = conv.timestampVariable := by
  rw [bindsTimestamp, ColumnTable.contains, List.contains_iff_mem, conventions_ofEntries,
    mem_columns_ofEntries]

theorem regularColumns_eq (r : Compiled) : r.regularColumns = r.table.columns.filter fun c =>
    decide (c ≠ r.conventions.ttlVariable ∧ c ≠ r.conventions.timestampVariable) := by
  apply List.filter_congr
  intro c _
  rw [Bool.eq_iff_iff, Conventions.isBoundVariable, Bool.not_eq_true', Bool.or_eq_false_iff,
    beq_eq_false_iff_ne, beq_eq_false_iff_ne, decide_eq_true_eq]

/-- A column is one of two different variables, or else it is regular. -/
theorem size_eq_regularColumns {r : Compiled}
    (h : r.conventions.ttlVariable ≠ r.conventions.timestampVariable) :
    r.table.size = r.regularColumns.length + (if r.bindsTtl then 1 else 0) +
      if r.bindsTimestamp then 1 else 0 := by
  have hc : r.table.columns.Nodup := r.table.distinct
  have ttl := length_filter_ne hc r.conventions.ttlVariable
  have timestamp := length_filter_ne (hc.filter fun c => c != r.conventions.ttlVariable)
    r.conventions.timestampVariable
  have hm : r.conventions.timestampVariable ∈
      r.table.columns.filter (fun c => c != r.conventions.ttlVariable) ↔
        r.conventions.timestampVariable ∈ r.table.columns := by
    rw [List.mem_filter, bne_iff_ne, and_iff_left h.symm]
  have hr : (r.table.columns.filter fun c => c != r.conventions.ttlVariable).filter
      (fun c => c != r.conventions.timestampVariable) = r.regularColumns := by
    rw [List.filter_filter, regularColumns_eq]
    apply List.filter_congr
    intro c _
    rw [Bool.eq_iff_iff, Bool.and_eq_true, bne_iff_ne, bne_iff_ne, decide_eq_true_eq, and_comm]
  have hs : r.table.size = r.table.columns.length := (List.length_map _).symm
  rw [hr] at timestamp
  simp only [hm] at timestamp
  simp only [bindsTtl, bindsTimestamp, ColumnTable.contains, List.contains_iff_mem]
  omega

theorem ttlColumn_mem_regularColumns_iff : "__ttl" ∈ (ofEntries .standard es).regularColumns ↔
    ∃ e ∈ es, ∃ inner span, e.column = .quoted inner span ∧ e.column.text = "__ttl" := by
  have hn : "__ttl" ≠ Conventions.standard.ttlVariable ∧
      "__ttl" ≠ Conventions.standard.timestampVariable := by decide
  rw [regularColumns_eq, conventions_ofEntries, List.mem_filter, decide_eq_true hn,
    and_iff_left rfl, mem_columns_ofEntries]
  simp only [Conventions.column_standard_eq_ttlColumn_iff]

theorem regularColumns_of_quoted_ttlColumn (hn : es ≠ [])
    (h : ∀ e ∈ es, ∃ inner span, e.column = .quoted inner span ∧ e.column.text = "__ttl") :
    (ofEntries .standard es).bindsTtl = false ∧
      (ofEntries .standard es).regularColumns = ["__ttl"] := by
  have column : ∀ e ∈ es, Conventions.standard.column e.column = "__ttl" :=
    fun e he => Conventions.column_standard_eq_ttlColumn_iff.2 (h e he)
  constructor
  · rw [Bool.eq_false_iff, ne_eq, bindsTtl_ofEntries]
    rintro ⟨e, he, hc⟩
    exact absurd ((column e he).symm.trans hc) (by decide)
  · obtain ⟨e, he⟩ := List.exists_mem_of_ne_nil es hn
    have hd : (ofEntries .standard es).table.columns.Nodup := (ofEntries .standard es).table.distinct
    refine eq_singleton_of_nodup (hd.filter _)
      (ttlColumn_mem_regularColumns_iff.2 ⟨e, he, h e he⟩) ?_
    intro c hc
    obtain ⟨d, hd, rfl⟩ := mem_columns_ofEntries.1 (List.mem_filter.1 hc).1
    exact column d hd

end Compiled

/-- The columns of a compiled table, by the entries of its text, where the two variables differ. A
variable is bound if and only if the column of some entry resolves to it, whatever overwrites that entry.
The regular columns are all others, in the order of the table, and each column is counted once. By the
standard conventions, the time to live is bound by its reserved name without quotes and by the name of its
variable, and the reserved name with quotes is a regular column. -/
theorem bound_variables_by_entries {conv : Conventions} {setting text : String} {r : Compiled}
    (hv : conv.ttlVariable ≠ conv.timestampVariable) (h : compile conv setting text = .ok r) :
    ∃ es, parseEntries text = .ok es ∧
      (r.bindsTtl = true ↔ ∃ e ∈ es, conv.resolvedColumn e.column = conv.ttlVariable) ∧
      (r.bindsTimestamp = true ↔ ∃ e ∈ es, conv.resolvedColumn e.column = conv.timestampVariable) ∧
      r.regularColumns = r.table.columns.filter (fun c =>
        decide (c ≠ conv.ttlVariable ∧ c ≠ conv.timestampVariable)) ∧
      r.table.size = r.regularColumns.length + (if r.bindsTtl then 1 else 0) +
        (if r.bindsTimestamp then 1 else 0) ∧
      (conv = .standard →
        (r.bindsTtl = true ↔ ∃ e ∈ es, (∃ span, e.column = .literal "__ttl" span) ∨
          e.column.text = "kafka_internal_ttl") ∧
        ("__ttl" ∈ r.regularColumns ↔
          ∃ e ∈ es, ∃ inner span, e.column = .quoted inner span ∧ e.column.text = "__ttl") ∧
        ((∀ e ∈ es, ∃ inner span, e.column = .quoted inner span ∧ e.column.text = "__ttl") →
          r.bindsTtl = false ∧ r.regularColumns = ["__ttl"])) := by
  obtain ⟨es, hes, rfl⟩ := compile_eq_ok_iff.1 h
  have hc := Compiled.conventions_ofEntries conv es
  have hregular := Compiled.regularColumns_eq (.ofEntries conv es)
  have hsize := Compiled.size_eq_regularColumns (r := .ofEntries conv es)
  rw [hc] at hregular hsize
  rw [← Conventions.column_eq]
  refine ⟨es, hes, Compiled.bindsTtl_ofEntries, Compiled.bindsTimestamp_ofEntries, hregular, hsize hv, ?_⟩
  rintro rfl
  obtain ⟨hn, -⟩ := parseEntries_ok_iff.1 ⟨es, hes, rfl⟩
  refine ⟨?_, Compiled.ttlColumn_mem_regularColumns_iff,
    Compiled.regularColumns_of_quoted_ttlColumn hn⟩
  rw [Compiled.bindsTtl_ofEntries]
  simp only [Conventions.column_standard_eq_ttlVariable_iff]

/-- The time to live under both its names, and its reserved name as a regular column. -/
theorem bound_variables_by_entries_of_each_name :
    Conventions.standard.ttlVariable ≠ Conventions.standard.timestampVariable ∧
    ∃ r, compile .standard "m" "\"__ttl\"=key,__ttl=value.a,kafka_internal_ttl=value.b" = .ok r ∧
      r.regularColumns = ["__ttl"] ∧ r.bindsTtl = true ∧ r.bindsTimestamp = false ∧
      r.table.size = 1 + 1 + 0 ∧
      ∃ es, parseEntries "\"__ttl\"=key,__ttl=value.a,kafka_internal_ttl=value.b" = .ok es ∧
        (∃ e ∈ es, (∃ span, e.column = .literal "__ttl" span) ∨ e.column.text = "kafka_internal_ttl") ∧
        ∃ e ∈ es, ∃ inner span, e.column = .quoted inner span ∧ e.column.text = "__ttl" := by
  have hv : Conventions.standard.ttlVariable ≠ Conventions.standard.timestampVariable := by decide
  have hc : compile .standard "m" "\"__ttl\"=key,__ttl=value.a,kafka_internal_ttl=value.b" =
      .ok ⟨.standard, ⟨[("__ttl", "key.__self"), ("kafka_internal_ttl", "value.b")], by decide⟩,
        [.duplicateColumn "kafka_internal_ttl"]⟩ := by
    have hk : (tokenize "\"__ttl\"=key,__ttl=value.a,kafka_internal_ttl=value.b").map Token.kind =
        flatten [.of (.quoted "__ttl" .zero) (.name (.literal "key" .zero)),
          .of (.literal "__ttl" .zero) (.name (.literal "value.a" .zero)),
          .of (.literal "kafka_internal_ttl" .zero) (.name (.literal "value.b" .zero))] ++
          [.eof] := by cbv
    exact (Compiled.compile_of_kinds (by simp) hk).trans (congrArg _ (by decide))
  obtain ⟨es, hes, -, -, -, hs, standard⟩ := bound_variables_by_entries hv hc
  obtain ⟨ttl, regular, -⟩ := standard rfl
  exact ⟨hv, _, hc, by decide, by decide, by decide, hs, es, hes, ttl.1 (by decide),
    regular.1 (by decide)⟩

end ColumnBinding
