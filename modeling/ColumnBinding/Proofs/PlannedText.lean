import ColumnBinding.Plan
import ColumnBinding.Proofs.Spelling

/-! The mapping texts of plans. Blanks may stand around every name and every equals sign, and change
nothing. Main statement: the text of a plan compiles to the outcome of the plan. -/
namespace ColumnBinding

theorem ReadsKinds.blanks_mark {bs rest behind : List Char} {c : Char} {k : Kind} {ks : List Kind}
    (hb : ∀ c ∈ bs, IsBlank c) (hc : IsMark c k) (h : ReadsKinds rest ks behind) :
    ReadsKinds (bs ++ c :: rest) (k :: ks) behind :=
  cons hb (.mark hc) hc.ne_eof h

namespace Conventions

theorem inNamespace_standard_iff {field : Name} :
    standard.inNamespace field = true ↔ InRecord field :=
  inNamespace_iff.trans hasNamespace_standard_iff

theorem inNamespace_standard_eq_false_iff {field : Name} :
    standard.inNamespace field = false ↔ ¬ InRecord field := by
  rw [← inNamespace_standard_iff, Bool.eq_false_iff]

theorem not_inRecord_call {name : String} (h : ¬ InRecord name) : ¬ InRecord (name ++ "()") := by
  rw [← hasNamespace_standard_iff] at h ⊢
  have paren : ∀ space ∈ standard.namespaces, '(' ∉ space.toList := by decide
  have hq : "()".toList = ['(', ')'] := by decide
  rintro ⟨space, hs, rest, hr⟩
  rw [String.toList_append, hq] at hr
  rcases List.append_eq_append_iff.1 hr with ⟨cs, hn, -⟩ | ⟨cs, hc, hp⟩
  · exact h ⟨space, hs, cs, hn.symm⟩
  · cases cs with
    | nil =>
        rw [List.append_nil] at hc
        exact h ⟨space, hs, [], by rw [hc, List.append_nil]⟩
    | cons c cs =>
        cases (List.cons.inj hp).1
        exact paren space hs (by rw [hc]; simp)

theorem isWord_of_inRecord {field : Name} (h : InRecord field)
    (hl : ∀ c ∈ field.toList, IsLiteral c) : IsWord field := by
  rw [← hasNamespace_standard_iff] at h
  have full : ∀ space ∈ standard.namespaces, space.toList ≠ [] := by decide
  obtain ⟨space, hs, hp⟩ := h
  refine ⟨?_, hl⟩
  rintro rfl
  exact full space hs (List.prefix_nil.1 hp)

theorem isWord_of_wholeRecord {side : Name} (h : side = "key" ∨ side = "value") : IsWord side := by
  rw [← needsQuotes_eq_false_iff]
  rcases h with rfl | rfl <;> decide

end Conventions

theorem Compiled.length_errorsOf (conv : Conventions) (t : ColumnTable) (e : ColumnBinding.Entry) :
    (errorsOf conv t e).length = (if t.contains (conv.column e.column) then 1 else 0) +
      if conv.accepts e.field then 0 else 1 := by
  rw [errorsOf, List.length_append]
  congr 1
  · split <;> rfl
  · split <;> rfl

namespace Plan

/-- The names of a plan have the form that their kind says. -/
def Column.WellFormed : Column → Prop
  | .literal text => IsWord text ∧ text ≠ "__ttl" ∧ text ≠ "__timestamp"
  | .quoted _ | .ttl | .timestamp => True

def Field.WellFormed : Field → Prop
  | .namespaced text => (∀ c ∈ text.toList, IsLiteral c) ∧ Conventions.InRecord text
  | .whole side => side = "key" ∨ side = "value"
  | .quoted _ => True
  | .function name => IsWord name ∧ ¬ Conventions.InRecord name
  | .bare text => IsWord text ∧ ¬ Conventions.InRecord text ∧ text ≠ "key" ∧ text ≠ "value"

structure Entry.WellFormed (e : Entry) : Prop where
  column : e.column.WellFormed
  field : e.field.WellFormed

def Column.written : Column → WrittenName
  | .literal text => asWritten false text
  | .quoted text => asWritten true text
  | .ttl => asWritten false Conventions.standard.ttlColumn
  | .timestamp => asWritten false Conventions.standard.timestampColumn

def Field.written : Field → WrittenField
  | .namespaced text | .bare text => .name (asWritten false text)
  | .whole side => .name (asWritten false side)
  | .quoted text => .name (asWritten true text)
  | .function name => .call name .zero

/-- The entry that is written for an entry of a plan. -/
def Entry.written (e : Entry) : ColumnBinding.Entry := .of e.column.written e.field.written

theorem Column.spells {c : Column} (h : c.WellFormed) {rest : List Char} (hr : EndsName rest) :
    Spells c.written.kind c.text.toList rest := by
  cases c with
  | literal text => exact spells_word h.1 hr
  | quoted text => exact spells_asWritten (fun _ => rfl) hr
  | ttl => exact spells_word (needsQuotes_eq_false_iff.1 (by decide)) hr
  | timestamp => exact spells_word (needsQuotes_eq_false_iff.1 (by decide)) hr

theorem readsKinds_word {text : String} (h : IsWord text) {bs rest behind : List Char}
    {ks : List Kind} (hb : ∀ c ∈ bs, IsBlank c) (hr : EndsName rest)
    (hk : ReadsKinds rest ks behind) :
    ReadsKinds (bs ++ (text.toList ++ rest)) (.literal text :: ks) behind :=
  .cons hb (spells_word h hr) (WrittenName.kind_ne_eof (.literal text .zero)) hk

theorem Field.readsKinds {f : Field} (h : f.WellFormed) {bs rest behind : List Char}
    {ks : List Kind} (hb : ∀ c ∈ bs, IsBlank c) (hr : EndsName rest)
    (hk : ReadsKinds rest ks behind) :
    ReadsKinds (bs ++ (f.text.toList ++ rest)) (f.written.kinds ++ ks) behind := by
  cases f with
  | namespaced text => exact readsKinds_word (Conventions.isWord_of_inRecord h.2 h.1) hb hr hk
  | whole side => exact readsKinds_word (Conventions.isWord_of_wholeRecord h) hb hr hk
  | quoted text =>
      exact .cons hb (spells_asWritten (fun _ => rfl) hr) (WrittenName.kind_ne_eof _) hk
  | function name =>
      have hq : "()".toList = ['(', ')'] := by decide
      have ht : (Field.function name).text.toList ++ rest = name.toList ++ '(' :: ')' :: rest := by
        rw [text, String.toList_append, hq, List.append_assoc]
        rfl
      rw [ht]
      exact readsKinds_word h.1 hb (endsName_of_mark .leftParen _)
        (.mark .leftParen (.mark .rightParen hk))
  | bare text => exact readsKinds_word h.1 hb hr hk

theorem Entry.readsKinds {e : Entry} (h : e.WellFormed) {padding : String}
    (hp : ∀ c ∈ padding.toList, IsBlank c) {rest behind : List Char} {ks : List Kind}
    (hr : EndsName rest) (hk : ReadsKinds (padding.toList ++ rest) ks behind) :
    ReadsKinds ((e.text padding).toList ++ rest) (e.written.kinds ++ ks) behind := by
  have hq : "=".toList = ['='] := by decide
  have ht : (e.text padding).toList ++ rest =
      padding.toList ++ (e.column.text.toList ++ (padding.toList ++ '=' ::
        (padding.toList ++ (e.field.text.toList ++ (padding.toList ++ rest))))) := by
    simp only [text, String.toList_append, hq, List.append_assoc]
    rfl
  rw [ht]
  refine .cons hp (Column.spells h.column ((endsName_of_mark .equals _).behind_blanks hp))
    (WrittenName.kind_ne_eof _) ?_
  exact .blanks_mark hp .equals (Field.readsKinds h.field hp (hr.behind_blanks hp) hk)

theorem texts_cons (e : Entry) (es : List Entry) (paddings : List String) :
    texts (e :: es) paddings = e.text (paddings.headD "") :: texts es paddings.tail := by
  cases paddings <;> rfl

theorem toList_text_singleton (e : Entry) (paddings : List String) :
    (text [e] paddings).toList = (e.text (paddings.headD "")).toList := by
  rw [text, texts_cons, texts, String.toList_intercalate, List.map_singleton,
    List.intercalate_singleton]

theorem toList_text_cons_cons (e d : Entry) (es : List Entry) (paddings : List String) :
    (text (e :: d :: es) paddings).toList =
      (e.text (paddings.headD "")).toList ++ ',' :: (text (d :: es) paddings.tail).toList := by
  have hq : ",".toList = [','] := by decide
  rw [text, text, texts_cons, texts_cons, String.toList_intercalate, String.toList_intercalate,
    List.map_cons, List.map_cons, List.intercalate_cons_cons, hq, List.append_assoc]
  rfl

theorem readsKinds_text {es : List Entry} {paddings : List String} (hn : es ≠ [])
    (he : ∀ e ∈ es, e.WellFormed) (hp : ∀ p ∈ paddings, ∀ c ∈ p.toList, IsBlank c) :
    ∃ bs, (∀ c ∈ bs, IsBlank c) ∧
      ReadsKinds (text es paddings).toList (flatten (es.map Entry.written)) bs := by
  induction es generalizing paddings with
  | nil => exact absurd rfl hn
  | cons e es ih =>
      have hh : ∀ c ∈ (paddings.headD "").toList, IsBlank c := by
        cases paddings with
        | nil =>
            intro c hc
            cases hc
        | cons p ps => exact hp p (.head _)
      have ht : ∀ p ∈ paddings.tail, ∀ c ∈ p.toList, IsBlank c := by
        intro p hm
        exact hp p (List.mem_of_mem_tail hm)
      have hw := he e (.head _)
      cases es with
      | nil =>
          refine ⟨(paddings.headD "").toList, hh, ?_⟩
          have hr := Entry.readsKinds hw hh endsName_nil (.nil _)
          rw [List.append_nil, List.append_nil, List.append_nil] at hr
          rw [toList_text_singleton, List.map_singleton, flatten, List.map_singleton,
            List.intercalate_singleton]
          exact hr
      | cons d ds =>
          obtain ⟨bs, hb, hk⟩ := ih (List.cons_ne_nil d ds) (fun a ha => he a (.tail _ ha)) ht
          refine ⟨bs, hb, ?_⟩
          have hf : flatten ((e :: d :: ds).map Entry.written) =
              e.written.kinds ++ .comma :: flatten ((d :: ds).map Entry.written) :=
            List.intercalate_cons_cons.trans (List.append_assoc _ _ _)
          rw [toList_text_cons_cons, hf]
          exact Entry.readsKinds hw hh (endsName_of_mark .comma _) (.blanks_mark hh .comma hk)

theorem Column.bound_written {c : Column} (h : c.WellFormed) :
    Conventions.standard.column c.written = c.bound := by
  cases c with
  | literal text =>
      apply column_asWritten
      intro _
      exact Conventions.boundVariable?_eq_none_iff.2 h.2
  | quoted text =>
      apply column_asWritten
      intro hq
      cases hq
  | ttl => rfl
  | timestamp => rfl

theorem Field.bound_written {f : Field} (h : f.WellFormed) :
    Conventions.standard.field f.written = f.bound ∧
      Conventions.standard.accepts f.written = f.isValid := by
  cases f with
  | namespaced text =>
      have outside : ∀ side ∈ Conventions.standard.wholeRecordFields,
          Conventions.standard.inNamespace side = false := by decide
      have hi := Conventions.inNamespace_standard_iff.2 h.2
      have hw : text ∉ Conventions.standard.wholeRecordFields := by
        intro hm
        rw [outside text hm] at hi
        cases hi
      have hb := Conventions.bindsWhole_of_notMem hw false
      have hv : Conventions.standard.isWellFormed text = true := by
        rw [Conventions.isWellFormed, hi, Bool.true_or]
      exact ⟨Conventions.field_eq_text hb, (Conventions.accepts_eq_isWellFormed hb).trans hv⟩
  | whole side =>
      have hb : Conventions.standard.bindsWhole (.name (asWritten false side)) = true :=
        List.contains_iff_mem.2 (Conventions.mem_wholeRecordFields_standard_iff.2 h)
      constructor
      · rw [written, Conventions.field, if_pos hb]
        rfl
      · rw [written, Conventions.accepts, hb, Bool.true_or]
        rfl
  | quoted text =>
      have hb : Conventions.standard.bindsWhole (.name (asWritten true text)) = false := rfl
      have ht : (WrittenField.name (asWritten true text)).text = text := text_asWritten true text
      constructor
      · rw [written, Conventions.field_eq_text hb, ht, bound]
      · rw [written, Conventions.accepts_eq_isWellFormed hb, ht, isValid]
  | function name =>
      have hi := Conventions.inNamespace_standard_eq_false_iff.2 (Conventions.not_inRecord_call h.2)
      have hb : Conventions.standard.bindsWhole (.call name .zero) = false := rfl
      have ht : (WrittenField.call name .zero).text = name ++ "()" := rfl
      constructor
      · rw [written, Conventions.field_eq_text hb, ht, bound]
      · rw [written, Conventions.accepts_eq_isWellFormed hb, ht, Conventions.isWellFormed, hi,
          Bool.false_or, isValid]
  | bare text =>
      have call : ∀ f ∈ Conventions.standard.functions, needsQuotes f = true := by decide
      have hn : Conventions.standard.isFunction text = false := by
        rw [Conventions.isFunction, Bool.eq_false_iff]
        intro hm
        have hq := call text (List.contains_iff_mem.1 hm)
        rw [needsQuotes_eq_false_iff.2 h.1] at hq
        cases hq
      have hw : text ∉ Conventions.standard.wholeRecordFields := by
        rw [Conventions.mem_wholeRecordFields_standard_iff]
        exact not_or.2 h.2.2
      have hb := Conventions.bindsWhole_of_notMem hw false
      have hv : Conventions.standard.isWellFormed text = false := by
        rw [Conventions.isWellFormed, Conventions.inNamespace_standard_eq_false_iff.2 h.2.1, hn,
          Bool.false_or]
      exact ⟨Conventions.field_eq_text hb, (Conventions.accepts_eq_isWellFormed hb).trans hv⟩

/-- A plan's entry counts as the entry that is written for it. -/
theorem tally_eq_record {r : Compiled} (hr : r.conventions = .standard) {e : Entry}
    (h : e.WellFormed) : tally (r.table, r.errors.length) e =
      ((r.record e.written).table, (r.record e.written).errors.length) := by
  obtain ⟨hf, hv⟩ := Field.bound_written h.field
  have hc : r.conventions.column e.written.column = e.column.bound := by
    rw [hr]
    exact Column.bound_written h.column
  have hb : r.conventions.field e.written.field = e.field.bound := by
    rw [hr]
    exact hf
  have ha : r.conventions.accepts e.written.field = e.field.isValid := by
    rw [hr]
    exact hv
  rw [Compiled.record, List.length_append, Compiled.length_errorsOf, hc, hb, ha, tally,
    Nat.add_assoc]

theorem foldl_tally {r : Compiled} (hr : r.conventions = .standard) {es : List Entry}
    (he : ∀ e ∈ es, e.WellFormed) : es.foldl tally (r.table, r.errors.length) =
      ((r.recordMany (es.map Entry.written)).table,
        (r.recordMany (es.map Entry.written)).errors.length) := by
  induction es generalizing r with
  | nil => rfl
  | cons e es ih =>
      rw [List.foldl_cons, tally_eq_record hr (he e (.head _))]
      exact ih (r := r.record e.written) hr fun d hd => he d (.tail _ hd)

/-- The text of a plan compiles to the outcome of the plan, whatever blanks it is padded with: the
same table in the same order, and as many errors. -/
theorem compile_text_eq_outcome (setting : String) {es : List Entry} {paddings : List String}
    (hn : es ≠ []) (he : ∀ e ∈ es, e.WellFormed) (hp : ∀ p ∈ paddings, ∀ c ∈ p.toList, IsBlank c) :
    ∃ r, compile .standard setting (text es paddings) = .ok r ∧
      r.table = (outcome es).1 ∧ r.messages.length = (outcome es).2 := by
  obtain ⟨bs, hb, hk⟩ := readsKinds_text hn he hp
  have hw : es.map Entry.written ≠ [] := by
    intro hm
    exact hn (List.map_eq_nil_iff.1 hm)
  have ho : outcome es = _ := foldl_tally (r := ⟨.standard, .empty, []⟩) rfl he
  refine ⟨_, Compiled.compile_of_kinds hw (hk.map_kind_tokenize hb), ?_, ?_⟩
  · rw [ho]
    rfl
  · rw [ho, Compiled.messages, List.length_map]
    rfl

/-- Quoted names with marks in them, a name that is bound twice, and a call of no known function. -/
theorem compile_text_eq_outcome_of_duplicate :
    (∀ e ∈ [(⟨.quoted "a\"=,", .quoted "x,\n"⟩ : Entry), ⟨.ttl, .function "now"⟩,
        ⟨.literal "é", .whole "key"⟩, ⟨.quoted "é", .function "a.b"⟩], e.WellFormed) ∧
    (∀ p ∈ [" \t", "", "\r\n"], ∀ c ∈ String.toList p, IsBlank c) ∧
    ∃ r, compile .standard "topic.t.mapping" (text [⟨.quoted "a\"=,", .quoted "x,\n"⟩,
        ⟨.ttl, .function "now"⟩, ⟨.literal "é", .whole "key"⟩, ⟨.quoted "é", .function "a.b"⟩]
        [" \t", "", "\r\n"]) = .ok r ∧
      r.table.pairs = [("a\"=,", "x,\n"), ("kafka_internal_ttl", "now()"), ("é", "a.b()")] ∧
      r.messages.length = 3 := by
  have word : ∀ text ∈ ["now", "a.b", "é"], IsWord text := by
    simp only [← needsQuotes_eq_false_iff]
    decide
  have outside : ∀ name ∈ ["now", "a.b"], ¬ Conventions.InRecord name := by
    simp only [← Conventions.inNamespace_standard_eq_false_iff]
    decide
  have he : ∀ e ∈ [(⟨.quoted "a\"=,", .quoted "x,\n"⟩ : Entry), ⟨.ttl, .function "now"⟩,
      ⟨.literal "é", .whole "key"⟩, ⟨.quoted "é", .function "a.b"⟩], e.WellFormed := by
    simp only [List.forall_mem_cons]
    refine ⟨⟨trivial, trivial⟩, ⟨trivial, word _ (by simp), outside _ (by simp)⟩,
      ⟨⟨word _ (by simp), by decide, by decide⟩, .inl rfl⟩,
      ⟨trivial, word _ (by simp), outside _ (by simp)⟩, ?_⟩
    intro e hm
    cases hm
  have hp : ∀ p ∈ [" \t", "", "\r\n"], ∀ c ∈ String.toList p, IsBlank c := by
    simp only [← all_isBlank_iff]
    decide
  obtain ⟨r, hr, ht, hm⟩ := compile_text_eq_outcome "topic.t.mapping" (List.cons_ne_nil _ _) he hp
  refine ⟨he, hp, r, hr, ?_, ?_⟩
  · rw [ht]
    decide
  · rw [hm]
    decide

end Plan
end ColumnBinding
