import ColumnBinding.Compiled.Text
import ColumnBinding.Proofs.ErrorLists

/-! Settings take a mapping text only as a whole. Main statement: a setting compiles a text exactly where
the text is read and its entries are clean, to one pair for each entry; every other text is refused with
a message that names the setting and the text. -/
namespace ColumnBinding

namespace Entry

/-- The column that is bound by the standard conventions. -/
def standardColumn (e : Entry) : Name :=
  match e.column with
  | .literal text _ =>
      if text = "__ttl" then "kafka_internal_ttl"
      else if text = "__timestamp" then "kafka_internal_timestamp"
      else text
  | .quoted inner _ => Text.Quoted.collapse inner

/-- The field that is bound by the standard conventions. -/
def standardField (e : Entry) : Name :=
  match e.field with
  | .name (.literal text _) =>
      if text = "key" then "key.__self" else if text = "value" then "value.__self" else text
  | field => field.resolvedText

/-- The field is a side of the record without quotes, or a name that starts as one of the three
namespaces does, or the name of the one function. -/
def HasStandardField (e : Entry) : Prop :=
  (∃ span, e.field = .name (.literal "key" span)) ∨
    (∃ span, e.field = .name (.literal "value" span)) ∨
    "key.".toList <+: e.field.resolvedText.toList ∨ "value.".toList <+: e.field.resolvedText.toList ∨
    "header.".toList <+: e.field.resolvedText.toList ∨ e.field.resolvedText = "now()"

theorem column_standard (e : Entry) : Conventions.standard.column e.column = e.standardColumn := by
  rw [Conventions.column_eq]
  obtain ⟨c, f, s⟩ := e
  cases c with
  | quoted inner t => rfl
  | literal text t => rfl

theorem field_standard (e : Entry) : Conventions.standard.field e.field = e.standardField := by
  obtain ⟨c, f, s⟩ := e
  cases f with
  | call text t => rfl
  | name n =>
      cases n with
      | quoted inner t => rfl
      | literal text t =>
          by_cases hk : text = "key"
          · subst hk
            rfl
          · by_cases hv : text = "value"
            · subst hv
              rfl
            · have hb : Conventions.standard.bindsWhole (.name (.literal text t)) = false := by
                simp [Conventions.bindsWhole, Conventions.isWholeRecord, Conventions.standard,
                  WrittenField.text, WrittenName.text, hk, hv]
              simp only [Conventions.field, hb, standardField, if_neg hk, if_neg hv]
              rfl

theorem hasStandardField_iff {e : Entry} :
    e.HasStandardField ↔ ¬ Conventions.standard.Refuses e.field := by
  have sides : Conventions.standard.IsSide e.field ↔
      (∃ span, e.field = .name (.literal "key" span)) ∨
        ∃ span, e.field = .name (.literal "value" span) := by
    obtain ⟨c, f, s⟩ := e
    cases f with
    | call text t => simp [Conventions.IsSide]
    | name n => cases n <;> simp [Conventions.IsSide, Conventions.standard]
  have calls : e.field.resolvedText ∈ Conventions.standard.functions ↔
      e.field.resolvedText = "now()" := List.mem_singleton
  rw [Conventions.Refuses, not_and_or, not_not, Conventions.not_unsupported_iff, sides,
    Conventions.hasNamespace_standard_iff, calls, HasStandardField, Conventions.InRecord]
  simp only [or_assoc]

end Entry

/-- No two entries bind the same column, and every field is one that may be bound. -/
structure Clean (es : List Entry) : Prop where
  columns : (es.map Entry.standardColumn).Nodup
  fields : ∀ e ∈ es, e.HasStandardField

theorem clean_iff {es : List Entry} : Clean es ↔ (Compiled.ofEntries .standard es).errors = [] := by
  rw [Compiled.errors_eq_nil_iff]
  simp only [Entry.column_standard, ← Entry.hasStandardField_iff]
  constructor
  · intro h
    exact ⟨h.columns, h.fields⟩
  · rintro ⟨hc, hf⟩
    exact ⟨hc, hf⟩

theorem pairs_of_clean {es : List Entry} (h : Clean es) :
    (Compiled.ofEntries .standard es).table.pairs =
      es.map fun e => (e.standardColumn, e.standardField) := by
  have hb : Compiled.binding .standard = fun e => (e.standardColumn, e.standardField) := by
    funext e
    exact Prod.ext e.column_standard e.field_standard
  have hn : ((es.map fun e => (e.standardColumn, e.standardField)).map Prod.fst).Nodup := by
    rw [List.map_map]
    exact h.columns
  rw [Compiled.table_ofEntries, ColumnTable.pairs_ofList, hb, ColumnTable.lastBindings_of_nodup hn]

namespace MappingSetting

variable {s : MappingSetting} {text : String} {es : List Entry}

theorem compile_of_clean (hes : parseEntries text = .ok es) (h : Clean es) :
    s.compile text = .ok (.ofEntries .standard es) := by
  have hc : ColumnBinding.compile .standard s.name text = .ok (.ofEntries .standard es) :=
    compile_eq_ok_iff.2 ⟨es, hes, rfl⟩
  have hv : (Compiled.ofEntries .standard es).isValid = true := by
    rw [Compiled.isValid, clean_iff.1 h]
    rfl
  rw [compile, hc]
  exact if_pos hv

theorem compile_of_not_clean (hes : parseEntries text = .ok es) (h : ¬ Clean es) :
    s.compile text = .error ((Compiled.ofEntries .standard es).toSettingError s.name text) := by
  apply compile_of_invalid (compile_eq_ok_iff.2 ⟨es, hes, rfl⟩)
  rw [Compiled.isValid, List.isEmpty_eq_false_iff]
  exact fun he => h (clean_iff.2 he)

theorem compile_of_parse_error {cause : SyntaxError} (h : parseEntries text = .error cause) :
    s.compile text = .error (MappingError.toSettingError ⟨s.name, text, cause⟩) := by
  have hc : ColumnBinding.compile .standard s.name text = .error ⟨s.name, text, cause⟩ :=
    compile_eq_error_iff.2 ⟨cause, h, rfl⟩
  rw [compile, hc]

theorem compile_eq_ok_iff_clean {r : Compiled} : s.compile text = .ok r ↔
    ∃ es, parseEntries text = .ok es ∧ Clean es ∧ r = .ofEntries .standard es := by
  cases hp : parseEntries text with
  | error cause =>
      rw [compile_of_parse_error hp]
      simp only [reduceCtorEq, false_and, exists_false]
  | ok es =>
      by_cases hc : Clean es
      · rw [compile_of_clean hp hc]
        simp only [Except.ok.injEq, exists_eq_left', hc, true_and, eq_comm]
      · rw [compile_of_not_clean hp hc]
        simp only [reduceCtorEq, Except.ok.injEq, exists_eq_left', hc, false_and]

end MappingSetting

theorem SettingError.describe_invalidValue (e : MappingError) :
    (invalidValue e.setting ("'" ++ e.text ++ "'") e.cause.describe).describe = e.describe := by
  have hv : "Invalid value '" = "Invalid value " ++ "'" := by decide
  have hs : "' for configuration " = "'" ++ " for configuration " := by decide
  unfold describe MappingError.describe
  simp only [hv, hs, String.append_assoc]

/-- The text of a setting is taken exactly where it is read, its entries have pairwise different columns,
and each field is one that may be bound. What it is compiled to has no error, and one pair for each
entry, in the order of the text. Every other text is an invalid value of the setting: one that is not
read is refused in the words of its syntax error, and one that is read with the messages of its errors,
one to a line. -/
theorem setting_takes_clean_text (topic text : String) :
    (∀ r, (⟨topic⟩ : MappingSetting).compile text = .ok r ↔
      ∃ es, parseEntries text = .ok es ∧ Clean es ∧ r.conventions = .standard ∧ r.messages = [] ∧
        r.table.pairs = es.map fun e => (e.standardColumn, e.standardField)) ∧
    (∀ es, parseEntries text = .ok es → ¬ Clean es →
      ∃ r, compile .standard ("topic." ++ topic ++ ".mapping") text = .ok r ∧
        (⟨topic⟩ : MappingSetting).compile text = .error (.invalidValue
          ("topic." ++ topic ++ ".mapping") ("'" ++ text ++ "'") ("\n".intercalate r.messages))) ∧
    ∀ cause, parseEntries text = .error cause →
      ∃ e reason, compile .standard ("topic." ++ topic ++ ".mapping") text = .error e ∧
        (⟨topic⟩ : MappingSetting).compile text = .error (.invalidValue
          ("topic." ++ topic ++ ".mapping") ("'" ++ text ++ "'") reason) ∧
        (SettingError.invalidValue ("topic." ++ topic ++ ".mapping") ("'" ++ text ++ "'")
          reason).describe = e.describe := by
  rw [← MappingSetting.name_eq]
  refine ⟨?_, ?_, ?_⟩
  · intro r
    rw [MappingSetting.compile_eq_ok_iff_clean]
    apply exists_congr
    intro es
    refine and_congr_right fun _ => and_congr_right fun hc => ?_
    constructor
    · rintro rfl
      refine ⟨Compiled.conventions_ofEntries _ es, ?_, pairs_of_clean hc⟩
      rw [Compiled.messages, clean_iff.1 hc, List.map_nil]
    · rintro ⟨hr, hm, hp⟩
      apply Compiled.ext
      · rw [hr, Compiled.conventions_ofEntries]
      · exact ColumnTable.ext (hp.trans (pairs_of_clean hc).symm)
      · rw [clean_iff.1 hc]
        exact List.map_eq_nil_iff.1 hm
  · intro es hes hc
    exact ⟨_, compile_eq_ok_iff.2 ⟨es, hes, rfl⟩, MappingSetting.compile_of_not_clean hes hc⟩
  · intro cause hp
    exact ⟨⟨_, text, cause⟩, cause.describe, compile_eq_error_iff.2 ⟨cause, hp, rfl⟩,
      MappingSetting.compile_of_parse_error hp, SettingError.describe_invalidValue ⟨_, text, cause⟩⟩

/-- A text that is taken, one with two errors, and one that cannot be read. -/
theorem setting_takes_clean_text_of_each_outcome :
    (∃ r, (⟨"t"⟩ : MappingSetting).compile "\"a\"\"b\"=key, __ttl=now()" = .ok r ∧
      r.table.pairs = [("a\"b", "key.__self"), ("kafka_internal_ttl", "now()")]) ∧
    (⟨"t"⟩ : MappingSetting).compile "c=x, c=key" = .error (.invalidValue ("topic." ++ "t" ++ ".mapping")
      ("'" ++ "c=x, c=key" ++ "'") ("Invalid field name 'x': field names in mapping must be 'key', " ++
        "'value', or start with 'key.' or 'value.' or 'header.', or be one of supported functions: " ++
        "'[now()]'.\nMapping already defined for column 'c'")) ∧
    ∃ reason, (⟨"a.b"⟩ : MappingSetting).compile "c" = .error (.invalidValue
        ("topic." ++ "a.b" ++ ".mapping") ("'" ++ "c" ++ "'") reason) ∧
      (SettingError.invalidValue ("topic." ++ "a.b" ++ ".mapping") ("'" ++ "c" ++ "'") reason).describe =
        "Invalid value 'c' for configuration topic.a.b.mapping: " ++
          "Could not be parsed at line 1:2: missing '=' at '<EOF>'" := by
  refine ⟨?_, ?_, ?_⟩
  · have hp : parseEntries "\"a\"\"b\"=key, __ttl=now()" = .ok
        [⟨.quoted "a\"\"b" ⟨⟨0, 1, 1⟩, 6⟩, .name (.literal "key" ⟨⟨7, 1, 8⟩, 10⟩), ⟨⟨0, 1, 1⟩, 10⟩⟩,
          ⟨.literal "__ttl" ⟨⟨12, 1, 13⟩, 17⟩, .call "now" ⟨⟨18, 1, 19⟩, 23⟩, ⟨⟨12, 1, 13⟩, 23⟩⟩] := by
      decide +kernel
    refine ⟨⟨.standard, ⟨[("a\"b", "key.__self"), ("kafka_internal_ttl", "now()")], by decide⟩, []⟩,
      ((setting_takes_clean_text "t" _).1 _).2 ⟨_, hp, ⟨by decide, ?_⟩, rfl, rfl, by decide⟩, rfl⟩
    simp [Entry.HasStandardField, WrittenField.resolvedText]
  · have hp : parseEntries "c=x, c=key" = .ok
        [⟨.literal "c" ⟨⟨0, 1, 1⟩, 1⟩, .name (.literal "x" ⟨⟨2, 1, 3⟩, 3⟩), ⟨⟨0, 1, 1⟩, 3⟩⟩,
          ⟨.literal "c" ⟨⟨5, 1, 6⟩, 6⟩, .name (.literal "key" ⟨⟨7, 1, 8⟩, 10⟩), ⟨⟨5, 1, 6⟩, 10⟩⟩] := by
      decide +kernel
    obtain ⟨r, hr, hs⟩ := (setting_takes_clean_text "t" _).2.1 _ hp fun h => absurd h.columns (by decide)
    obtain ⟨es, hes, rfl⟩ := compile_eq_ok_iff.1 hr
    cases hp.symm.trans hes
    rw [hs]
    decide +kernel
  · have hp : parseEntries "c" = .error ⟨"missing '=' at '<EOF>'", 1, 2⟩ := by decide +kernel
    obtain ⟨e, reason, he, hs, hd⟩ := (setting_takes_clean_text "a.b" _).2.2 _ hp
    obtain ⟨cause, hc, rfl⟩ := compile_eq_error_iff.1 he
    cases hp.symm.trans hc
    exact ⟨reason, hs, hd.trans (by decide +kernel)⟩

end ColumnBinding
