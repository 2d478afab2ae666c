import ColumnBinding.Proofs.ErrorLists
import ColumnBinding.Proofs.Spelling

/-! The text of a compiled table, compiled again. A field that stands for a whole side of the record is
bound without being checked, but is checked as the name under which it is bound when the text of the
table is read. Main statement: reading again adds no error exactly where the conventions support these
names, and then it changes nothing exactly where no column was bound twice. -/
namespace ColumnBinding

namespace Conventions

variable (conv : Conventions)

/-- A side of the record that a text can bind whole is bound under a supported name. -/
def SupportsSides : Prop :=
  ∀ side ∈ conv.wholeRecordFields, IsWord side →
    conv.HasNamespace (side ++ "." ++ conv.selfMarker) ∨
      side ++ "." ++ conv.selfMarker ∈ conv.functions

theorem supportsSides_standard : standard.SupportsSides := by
  have sides : ∀ side ∈ standard.wholeRecordFields,
      standard.inNamespace (standard.selfReference side) = true := by decide
  intro side hs _
  exact .inl (inNamespace_iff.1 (sides side hs))

end Conventions

namespace Compiled

variable {conv : Conventions} {es : List Entry}

/-- Where an entry is written again, the same is wrong with its field. -/
theorem errorsIf_entryOf_binding (h : conv.SupportsSides) {e : Entry}
    (he : e.Spelled) :
    errorsIf conv False (conv.entryOf (binding conv e)) = errorsIf conv False e := by
  have hf : (binding conv e).2 = conv.field e.field := rfl
  rw [errorsIf_entryOf, hf, errorsIf, if_neg not_false, List.nil_append, Conventions.field]
  cases hb : conv.bindsWhole e.field with
  | true =>
      obtain ⟨c, f, s⟩ := e
      have ha : ¬ conv.Refuses f := fun hr => hr.1 (Conventions.bindsWhole_iff.1 hb)
      rw [if_pos rfl, if_neg ha]
      -- Unchecked at first, the side is checked under its own name when it is read again.
      cases f with
      | call text t => cases hb
      | name n =>
          cases n with
          | quoted inner t => cases hb
          | literal side t =>
              have hw : IsWord side := he (.literal side) (.tail _ (.tail _ (.head _)))
              have hs := h side (List.contains_iff_mem.1 hb) hw
              exact if_neg (Conventions.not_unsupported_iff.2 hs)
  | false =>
      have hr := Conventions.refuses_iff_unsupported hb
      simp only [hr, Bool.false_eq_true, if_false, ← WrittenField.text_eq]

theorem errors_ofEntries_entryOf (conv : Conventions) (t : ColumnTable) :
    (ofEntries conv (t.pairs.map conv.entryOf)).errors =
      (t.pairs.map conv.entryOf).flatMap (errorsIf conv False) := by
  rw [ofEntries_entryOf, flatMap_errorsIf_entryOf]
  rfl

theorem flatMap_entryOf_binding (h : conv.SupportsSides) (he : ∀ e ∈ es, e.Spelled) :
    ((es.map (binding conv)).map conv.entryOf).flatMap (errorsIf conv False) =
      es.flatMap (errorsIf conv False) := by
  rw [List.map_map, List.flatMap_map]
  exact List.flatMap_congr fun e hm => errorsIf_entryOf_binding h (he e hm)

theorem pairs_ofEntries (conv : Conventions) (es : List Entry) :
    (ofEntries conv es).table.pairs = ColumnTable.lastBindings (es.map (binding conv)) := by
  rw [table_ofEntries, ColumnTable.pairs_ofList]

/-- What is compiled from the text of the table of some entries. -/
def again (conv : Conventions) (es : List Entry) : Compiled :=
  ofEntries conv ((ofEntries conv es).table.pairs.map conv.entryOf)

theorem compile_again (conv : Conventions) (setting : String) (hn : es ≠ []) :
    compile conv setting ((ofEntries conv es).table.text conv) = .ok (again conv es) := by
  have hp : (ofEntries conv es).table.pairs ≠ [] := by
    intro hp
    obtain ⟨e, he⟩ := List.exists_mem_of_ne_nil es hn
    have hm : (binding conv e).1 ∈ (ofEntries conv es).table.columns := by
      rw [table_ofEntries, ColumnTable.mem_columns_ofList]
      exact List.mem_map_of_mem (List.mem_map_of_mem he)
    rw [ColumnTable.columns, hp] at hm
    cases hm
  refine compile_of_kinds ?_ (kinds_text conv hp)
  intro hm
  exact hp (List.map_eq_nil_iff.1 hm)

theorem errors_again_sublist (h : conv.SupportsSides) (he : ∀ e ∈ es, e.Spelled) :
    (again conv es).errors.Sublist (ofEntries conv es).errors := by
  have hl := ColumnTable.lastBindings_sublist (es.map (binding conv))
  rw [← pairs_ofEntries] at hl
  have hs := (hl.map conv.entryOf).flatMap (errorsIf conv False)
  rw [← errors_ofEntries_entryOf, flatMap_entryOf_binding h he] at hs
  exact hs.trans (fieldErrors_sublist conv es)

theorem messages_again_sublist (h : conv.SupportsSides) (he : ∀ e ∈ es, e.Spelled) :
    (again conv es).messages.Sublist (ofEntries conv es).messages := by
  rw [messages, messages, again, conventions_ofEntries, conventions_ofEntries]
  exact (errors_again_sublist h he).map _

theorem again_eq_iff (h : conv.SupportsSides) (he : ∀ e ∈ es, e.Spelled) :
    again conv es = ofEntries conv es ↔ (es.map fun e => conv.column e.column).Nodup := by
  constructor
  · intro ha
    rw [nodup_iff_no_duplicate, ← ha, again, errors_ofEntries_entryOf]
    intro column hm
    obtain ⟨e, -, he⟩ := List.mem_flatMap.1 hm
    exact duplicateColumn_notMem_errorsIf e column he
  · intro hn
    have hb : ((es.map (binding conv)).map Prod.fst).Nodup := by
      rw [List.map_map]
      exact hn
    apply ext
    · rw [again, conventions_ofEntries, conventions_ofEntries]
    · rw [again, ofEntries_entryOf]
    · rw [again, errors_ofEntries_entryOf, pairs_ofEntries, ColumnTable.lastBindings_of_nodup hb,
        flatMap_entryOf_binding h he, errors_of_nodup hn]

end Compiled

/-- The entry of a column and a field without quotes. -/
def bareEntry (column field : String) : Entry :=
  .of (asWritten false column) (.name (asWritten false field))

theorem kinds_bareEntry {field : String} (h : IsWord field) :
    (tokenize ("c=" ++ field)).map Token.kind = flatten [bareEntry "c" field] ++ [.eof] := by
  have hc : IsWord "c" := needsQuotes_eq_false_iff.1 (by decide)
  have ht : ("c=" ++ field).toList = [] ++ ("c".toList ++ '=' :: ([] ++ (field.toList ++ []))) := by
    rw [String.toList_append, List.append_nil]
    rfl
  have hf : ReadsKinds ([] ++ (field.toList ++ [])) [.literal field] [] :=
    .cons (List.forall_mem_nil _) (spells_word h endsName_nil)
      (WrittenName.kind_ne_eof (.literal field .zero)) (.nil [])
  have hr : ReadsKinds ("c=" ++ field).toList (flatten [bareEntry "c" field]) [] := by
    rw [ht]
    exact .cons (List.forall_mem_nil _) (spells_word hc (endsName_of_mark .equals _))
      (WrittenName.kind_ne_eof (.literal "c" .zero)) (.mark .equals hf)
  exact hr.map_kind_tokenize (List.forall_mem_nil _)

namespace Compiled

variable {conv : Conventions}

theorem errors_bareEntry {column side : String} (h : side ∈ conv.wholeRecordFields) :
    (ofEntries conv [bareEntry column side]).errors = [] := by
  refine errors_eq_nil_iff.2 ⟨List.nodup_singleton _, ?_⟩
  intro e he hr
  cases List.mem_singleton.1 he
  exact hr.1 h

theorem supports_of_errors_again {column side : String} (h : side ∈ conv.wholeRecordFields)
    (he : (again conv [bareEntry column side]).errors = []) :
    conv.HasNamespace (side ++ "." ++ conv.selfMarker) ∨
      side ++ "." ++ conv.selfMarker ∈ conv.functions := by
  have hp : (ofEntries conv [bareEntry column side]).table.pairs =
      [binding conv (bareEntry column side)] := by
    rw [pairs_ofEntries]
    exact ColumnTable.lastBindings_of_nodup (List.nodup_singleton _)
  have hb : (binding conv (bareEntry column side)).2 = side ++ "." ++ conv.selfMarker :=
    if_pos (List.contains_iff_mem.2 h)
  rw [← Conventions.not_unsupported_iff, ← hb, ← Conventions.refuses_entryOf]
  refine (errors_eq_nil_iff.1 he).2 _ ?_
  rw [hp]
  exact List.mem_singleton_self _

end Compiled

/-- One field that stands for a side tells whether the conventions support that side. -/
theorem supportsSides_of_messages_sublist {conv : Conventions} {setting : String}
    (h : ∀ text r, compile conv setting text = .ok r →
      ∃ s, compile conv setting (r.table.text conv) = .ok s ∧ s.messages.Sublist r.messages) :
    conv.SupportsSides := by
  intro side hs hw
  have hn : [bareEntry "c" side] ≠ [] := List.cons_ne_nil _ _
  have hc : compile conv setting ("c=" ++ side) = .ok (.ofEntries conv [bareEntry "c" side]) :=
    Compiled.compile_of_kinds hn (kinds_bareEntry hw)
  obtain ⟨s, ha, hm⟩ := h _ _ hc
  rw [Compiled.compile_again conv setting hn] at ha
  cases ha
  rw [Compiled.messages, Compiled.messages, Compiled.errors_bareEntry hs] at hm
  have he : (Compiled.again conv [bareEntry "c" side]).errors = [] :=
    List.map_eq_nil_iff.1 (List.sublist_nil.1 hm)
  exact Compiled.supports_of_errors_again hs he

/-- A text is compiled, and then the text of its table. For every text, the errors of the second
compilation are some of those of the first, in the same order, if and only if the conventions support
each side of the record under the name by which it is bound. If they do, as the standard ones, the two
compilations come to the same conventions, table and messages exactly where no two entries of the text
have the same column, and what is valid stays valid. -/
theorem reprint_errors_sublist_iff (conv : Conventions) (setting : String) :
    (conv.SupportsSides ↔ ∀ text r, compile conv setting text = .ok r →
      ∃ s, compile conv setting (r.table.text conv) = .ok s ∧ s.messages.Sublist r.messages) ∧
    (conv.SupportsSides → ∀ text es, parseEntries text = .ok es →
      ∃ r s, compile conv setting text = .ok r ∧
        compile conv setting (r.table.text conv) = .ok s ∧
        ((s.conventions = r.conventions ∧ s.table = r.table ∧ s.messages = r.messages) ↔
          (es.map fun e => conv.resolvedColumn e.column).Nodup) ∧
        (r.isValid = true → s.isValid = true)) ∧
    Conventions.standard.SupportsSides := by
  refine ⟨⟨?_, supportsSides_of_messages_sublist⟩, ?_, Conventions.supportsSides_standard⟩
  · intro h text r hr
    obtain ⟨es, hes, rfl⟩ := compile_eq_ok_iff.1 hr
    obtain ⟨hn, -⟩ := parseEntries_ok_iff.1 ⟨es, hes, rfl⟩
    refine ⟨_, Compiled.compile_again conv setting hn, ?_⟩
    exact Compiled.messages_again_sublist h (spelled_of_parseEntries hes)
  · intro h text es hes
    have hs := spelled_of_parseEntries hes
    obtain ⟨hn, -⟩ := parseEntries_ok_iff.1 ⟨es, hes, rfl⟩
    refine ⟨_, _, compile_eq_ok_iff.2 ⟨es, hes, rfl⟩, Compiled.compile_again conv setting hn,
      ?_, ?_⟩
    · rw [← Compiled.eq_iff_messages, Compiled.again_eq_iff h hs, Conventions.column_eq]
    · intro hv
      rw [Compiled.isValid, List.isEmpty_iff] at hv ⊢
      have he := Compiled.errors_again_sublist h hs
      rw [hv] at he
      exact List.sublist_nil.1 he

end ColumnBinding
