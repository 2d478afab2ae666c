import ColumnBinding.Proofs.BoundVariables
import ColumnBinding.Proofs.Spelling
import ColumnBinding.Proofs.StrictSettings

/-! The errors of a setting as lines of text. A message quotes a name without escaping it, so a line feed
in the name breaks the message into two lines. Main statement: the lines of the reason for which a setting
is refused are the messages exactly where no name that is reported has a line feed. -/
namespace ColumnBinding

/-- What stands between the line feeds of a text. -/
def lines (text : String) : List String := (text.toList.splitOn '\n').map String.ofList

theorem notMem_of_mem_splitOn {α : Type} [DecidableEq α] {a : α} {as bs : List α}
    (h : bs ∈ as.splitOn a) : a ∉ bs := by
  induction as generalizing bs with
  | nil =>
      cases List.mem_singleton.1 h
      exact List.not_mem_nil
  | cons b as ih =>
      rw [List.splitOn_cons_eq_if_modifyHead] at h
      split at h
      · rcases List.mem_cons.1 h with rfl | h
        · exact List.not_mem_nil
        · exact ih h
      · next hb =>
          obtain ⟨cs, css, hs⟩ := List.exists_cons_of_ne_nil (List.splitOn_ne_nil a as)
          rw [hs, List.modifyHead_cons] at h
          rw [hs] at ih
          rcases List.mem_cons.1 h with rfl | h
          · rw [List.mem_cons, not_or]
            exact ⟨fun ha => hb (beq_iff_eq.2 ha.symm), ih (.head _)⟩
          · exact ih (.tail _ h)

theorem lineFeed_notMem_of_mem_lines {text line : String} (h : line ∈ lines text) :
    '\n' ∉ line.toList := by
  obtain ⟨cs, hcs, rfl⟩ := List.mem_map.1 h
  rw [String.toList_ofList]
  exact notMem_of_mem_splitOn hcs

theorem lines_of_notMem {text : String} (h : '\n' ∉ text.toList) : lines text = [text] := by
  rw [lines, List.splitOn_eq_singleton h, List.map_singleton, String.ofList_toList]

theorem lines_append (before behind : String) :
    lines (before ++ "\n" ++ behind) = lines before ++ lines behind := by
  have ht : (before ++ "\n" ++ behind).toList = before.toList ++ '\n' :: behind.toList := by
    rw [String.toList_append, String.toList_append, List.append_assoc]
    rfl
  rw [lines, ht, List.splitOn_append_cons_self, List.map_append]
  rfl

/-- Texts that are joined by line feeds keep their lines. -/
theorem lines_intercalate {texts : List String} (h : texts ≠ []) :
    lines ("\n".intercalate texts) = texts.flatMap lines := by
  induction texts with
  | nil => exact absurd rfl h
  | cons text texts ih =>
      cases texts with
      | nil => rw [String.intercalate_singleton, List.flatMap_singleton]
      | cons other texts =>
          rw [String.intercalate_cons_cons, lines_append, ih (List.cons_ne_nil _ _)]
          rfl

theorem flatMap_lines_eq_self_iff {texts : List String} :
    texts.flatMap lines = texts ↔ ∀ text ∈ texts, '\n' ∉ text.toList := by
  constructor
  · intro h text ht
    rw [← h] at ht
    obtain ⟨other, -, hl⟩ := List.mem_flatMap.1 ht
    exact lineFeed_notMem_of_mem_lines hl
  · intro h
    calc texts.flatMap lines
        = texts.flatMap fun text => [text] := List.flatMap_congr fun t ht => lines_of_notMem (h t ht)
      _ = texts := List.flatMap_singleton' texts

/-- The name that an error is about. -/
def EntryError.name : EntryError → Name
  | .duplicateColumn column => column
  | .invalidField field => field

/-- Apart from the name, the messages of the standard conventions have no line feed. -/
theorem EntryError.lineFeed_mem_message_iff {e : EntryError} :
    '\n' ∈ (e.message .standard).toList ↔ '\n' ∈ e.name.toList := by
  cases e with
  | duplicateColumn column =>
      have hb : '\n' ∉ "Mapping already defined for column '".toList := by decide +kernel
      have ha : '\n' ∉ "'".toList := by decide +kernel
      unfold message
      rw [String.toList_append, String.toList_append, List.mem_append, List.mem_append,
        or_iff_left ha, or_iff_right hb]
      rfl
  | invalidField field =>
      have hb : '\n' ∉ "Invalid field name '".toList := by decide +kernel
      have ha : '\n' ∉ ("': field names in mapping must be " ++
          quotedNames ", " Conventions.standard.wholeRecordFields ++ ", or start with " ++
          quotedNames " or " Conventions.standard.namespaces ++
          ", or be one of supported functions: '" ++ Conventions.standard.functionList ++
          "'.").toList := by
        simp only [String.toList_append, List.mem_append, not_or]
        decide +kernel
      unfold message
      simp only [String.append_assoc] at ha ⊢
      rw [String.toList_append, String.toList_append, List.mem_append, List.mem_append,
        or_iff_left ha, or_iff_right hb]
      rfl

theorem Compiled.lines_messages_eq_iff {r : Compiled} (h : r.conventions = .standard)
    (hm : r.messages ≠ []) : lines ("\n".intercalate r.messages) = r.messages ↔
      ∀ e ∈ r.errors, '\n' ∉ e.name.toList := by
  rw [lines_intercalate hm, flatMap_lines_eq_self_iff, messages, h]
  simp only [List.forall_mem_map, EntryError.lineFeed_mem_message_iff]

theorem Compiled.exists_entry_of_mem_errors {conv : Conventions} {es : List Entry} {e : EntryError}
    (h : e ∈ (ofEntries conv es).errors) :
    ∃ d ∈ es, e.name = conv.column d.column ∨ e.name = d.field.text := by
  rw [errors_ofEntries] at h
  obtain ⟨i, -, hi⟩ := List.mem_flatMap.1 h
  refine ⟨es.get i, List.get_mem es i, ?_⟩
  rcases List.mem_append.1 hi with hc | hf
  · rw [List.mem_ite_nil_right, List.mem_singleton] at hc
    rw [hc.2, Conventions.column_eq]
    exact .inl rfl
  · rw [List.mem_ite_nil_right, List.mem_singleton] at hf
    rw [hf.2, WrittenField.text_eq]
    exact .inr rfl

/-- No name in quotes has a line feed. -/
def QuotesOnOneLine (text : String) : Prop :=
  ∀ t ∈ tokenize text, ∀ inner, t.kind = .quoted inner → '\n' ∉ inner.toList

theorem IsWord.lineFeed_notMem {text : String} (h : IsWord text) : '\n' ∉ text.toList := by
  intro hm
  have hl := h.2 _ hm
  revert hl
  decide

section
variable {text : String} {es : List Entry} {e : Entry}

theorem WrittenName.lineFeed_notMem {n : WrittenName} (ht : QuotesOnOneLine text)
    (h : parseEntries text = .ok es) (he : e ∈ es) (hn : n.kind ∈ e.kinds) : '\n' ∉ n.text.toList := by
  cases n with
  | literal word span =>
      have hw : IsWord word := spelled_of_parseEntries h e he _ hn
      exact hw.lineFeed_notMem
  | quoted inner span =>
      obtain ⟨t, htm, hk⟩ := exists_token_of_parseEntries h he hn
      intro hm
      rw [WrittenName.text, Text.Quoted.collapse, String.toList_ofList] at hm
      exact ht t htm inner hk ((Text.Quoted.decode_sublist inner.toList).subset hm)

theorem lineFeed_notMem_column (ht : QuotesOnOneLine text) (h : parseEntries text = .ok es)
    (he : e ∈ es) : '\n' ∉ (Conventions.standard.column e.column).toList := by
  rcases Conventions.column_eq_iff.1 (rfl : Conventions.standard.column e.column = _) with
    ⟨_, _, -, hv⟩ | ⟨hc, -⟩
  · rcases Conventions.boundVariable?_cases hv with ⟨-, hv⟩ | ⟨-, hv⟩ <;> rw [hv] <;> decide
  · rw [← hc]
    exact WrittenName.lineFeed_notMem ht h he (.head _)

theorem lineFeed_notMem_field (ht : QuotesOnOneLine text) (h : parseEntries text = .ok es)
    (he : e ∈ es) : '\n' ∉ e.field.text.toList := by
  have hk : ∀ k ∈ e.field.kinds, k ∈ e.kinds := fun k hk => .tail _ (.tail _ hk)
  match hn : e.field with
  | .name n =>
      rw [hn] at hk
      exact WrittenName.lineFeed_notMem ht h he (hk _ (.head _))
  | .call function span =>
      rw [hn] at hk
      have hw : IsWord function := spelled_of_parseEntries h e he _ (hk _ (.head _))
      have hp : '\n' ∉ "()".toList := by decide
      rw [WrittenField.text, String.toList_append, List.mem_append, or_iff_left hp]
      exact hw.lineFeed_notMem

end

/-- A text that is read with errors is refused as the value of a setting, for a reason that has the lines
of its messages. The lines are the messages if and only if no column or field that is reported has a
line feed, which only a name in quotes can have. -/
theorem reason_lines_iff {topic text : String} {r : Compiled}
    (h : compile .standard ("topic." ++ topic ++ ".mapping") text = .ok r) (hm : r.messages ≠ []) :
    ∃ reason, (⟨topic⟩ : MappingSetting).compile text = .error (.invalidValue
        ("topic." ++ topic ++ ".mapping") ("'" ++ text ++ "'") reason) ∧
      lines reason = r.messages.flatMap lines ∧
      (lines reason = r.messages ↔ ∀ e ∈ r.errors, '\n' ∉ e.name.toList) ∧
      (QuotesOnOneLine text → lines reason = r.messages) := by
  have hv := Compiled.isValid_eq_false_iff.2 hm
  obtain ⟨es, hes, rfl⟩ := compile_eq_ok_iff.1 h
  have hi := Compiled.lines_messages_eq_iff (Compiled.conventions_ofEntries _ es) hm
  rw [← MappingSetting.name_eq] at h ⊢
  refine ⟨_, MappingSetting.compile_of_invalid h hv, lines_intercalate hm, hi, ?_⟩
  intro ht
  rw [hi]
  intro e he
  obtain ⟨d, hd, hn | hn⟩ := Compiled.exists_entry_of_mem_errors he
  · rw [hn]
    exact lineFeed_notMem_column ht hes hd
  · rw [hn]
    exact lineFeed_notMem_field ht hes hd

/-- The errors of two entries are two lines. -/
theorem reason_lines_of_two_errors :
    ∃ r, compile .standard ("topic." ++ "t" ++ ".mapping") "c=a, c=key" = .ok r ∧
      r.errors = [.invalidField "a", .duplicateColumn "c"] ∧ r.messages ≠ [] ∧
      ∃ reason, (⟨"t"⟩ : MappingSetting).compile "c=a, c=key" = .error (.invalidValue
          ("topic." ++ "t" ++ ".mapping") ("'" ++ "c=a, c=key" ++ "'") reason) ∧
        lines reason = r.messages := by
  have hc : compile .standard ("topic." ++ "t" ++ ".mapping") "c=a, c=key" = .ok ⟨.standard,
      ⟨[("c", "key.__self")], by decide⟩, [.invalidField "a", .duplicateColumn "c"]⟩ := by
    have hk : (tokenize "c=a, c=key").map Token.kind = flatten
        [.of (.literal "c" .zero) (.name (.literal "a" .zero)),
          .of (.literal "c" .zero) (.name (.literal "key" .zero))] ++ [.eof] := by cbv
    exact (Compiled.compile_of_kinds (by simp) hk).trans (congrArg _ (by decide))
  have hm := List.cons_ne_nil ((EntryError.invalidField "a").message .standard)
    [(EntryError.duplicateColumn "c").message .standard]
  obtain ⟨reason, hr, -, hl, -⟩ := reason_lines_iff hc hm
  exact ⟨_, hc, rfl, hm, reason, hr, hl.2 (by decide)⟩

/-- The error of a name with a line feed is two lines. -/
theorem reason_lines_of_line_feed :
    ∃ r reason, compile .standard "topic.t.mapping" "c=\"x\ny\"" = .ok r ∧
      r.messages = [(EntryError.invalidField "x\ny").message .standard] ∧
      (⟨"t"⟩ : MappingSetting).compile "c=\"x\ny\"" =
        .error (.invalidValue "topic.t.mapping" "'c=\"x\ny\"'" reason) ∧
      lines reason = ["Invalid field name 'x", "y': field names in mapping must be 'key', 'value', " ++
        "or start with 'key.' or 'value.' or 'header.', or be one of supported functions: '[now()]'."] ∧
      lines reason ≠ r.messages := by
  have hc : compile .standard "topic.t.mapping" "c=\"x\ny\"" =
      .ok ⟨.standard, ⟨[("c", "x\ny")], by decide⟩, [.invalidField "x\ny"]⟩ := by
    have hk : (tokenize "c=\"x\ny\"").map Token.kind = flatten
        [.of (.literal "c" .zero) (.name (.quoted "x\ny" .zero))] ++ [.eof] := by cbv
    exact (Compiled.compile_of_kinds (by simp) hk).trans (congrArg _ (by decide))
  refine ⟨_, _, hc, rfl, MappingSetting.compile_of_invalid hc rfl, by decide +kernel, ?_⟩
  rw [ne_eq, Compiled.lines_messages_eq_iff]
  · decide
  · rfl
  · exact List.cons_ne_nil _ _

end ColumnBinding
