import ColumnBinding.Proofs.BoundVariables
import ColumnBinding.Proofs.EntryPlaces
import ColumnBinding.Proofs.Quoting

/-! Where quotes are needed. A name in quotes has fewer quotes than its spelling, so a text with no more
quotes than a name does not spell that name with them. Main statement: a name is printed without quotes
exactly where its bare text is read back as the name. -/
namespace ColumnBinding

namespace Text.Quoted

theorem count_enclose (text : String) :
    text.toList.count '"' + 2 ≤ (enclose text).toList.count '"' := by
  have h := (decode_sublist (encode text.toList)).count_le '"'
  rw [decode_encode] at h
  rw [enclose, String.toList_ofList]
  simp only [List.count_append, List.cons_append, List.count_cons_self]
  omega

theorem enclose_ne (text : String) : enclose text ≠ text := by
  intro h
  have hc := count_enclose text
  rw [h] at hc
  omega

end Text.Quoted

theorem Spells.lexeme_infix {k : Kind} {cs rest : List Char} (h : Spells k cs rest) :
    k.lexeme <:+: cs := by
  by_cases hk : ∃ message, k = .invalid message
  · obtain ⟨message, rfl⟩ := hk
    exact List.nil_infix
  · rw [h.eq_lexeme fun message hm => hk ⟨message, hm⟩]

theorem Reads.lexeme_infix {p q : Position} {cs ds : List Char} {ts : List Token}
    (h : Reads p cs ts q ds) : ∀ t ∈ ts, t.kind.lexeme <:+: cs := by
  induction h with
  | nil =>
      intro t ht
      cases ht
  | @cons p bs cs k rest ts q behind hb hs hk _ ih =>
      intro t ht
      cases ht with
      | head => exact hs.lexeme_infix.trans ⟨bs, rest, List.append_assoc bs cs rest⟩
      | tail _ ht =>
          have hr : rest <:+: bs ++ (cs ++ rest) :=
            ((List.suffix_append cs rest).trans (List.suffix_append bs _)).isInfix
          exact (ih t ht).trans hr

theorem lexeme_infix_of_parseEntries {text : String} {es : List Entry} {e : Entry} {k : Kind}
    (h : parseEntries text = .ok es) (he : e ∈ es) (hk : k ∈ e.kinds) :
    k.lexeme <:+: text.toList := by
  obtain ⟨t, ht, rfl⟩ := exists_token_of_parseEntries h he hk
  obtain ⟨ts, q, bs, hr, -, hts⟩ := tokenize_reads text
  rw [hts] at ht
  rcases List.mem_append.1 ht with ht | ht
  · exact hr.lexeme_infix t ht
  · cases List.mem_singleton.1 ht
    exact List.nil_infix

theorem literal_of_count_le {text : String} {es : List Entry} {e : Entry} {n : WrittenName}
    (h : parseEntries text = .ok es) (he : e ∈ es) (hn : n.kind ∈ e.kinds)
    (hq : text.toList.count '"' ≤ n.text.toList.count '"') :
    ∃ span, n = .literal n.text span ∧ IsWord n.text := by
  cases n with
  | literal name span => exact ⟨span, rfl, spelled_of_parseEntries h e he _ hn⟩
  | quoted inner span =>
      have hl : ('"' :: (inner.toList ++ ['"'])).count '"' ≤ text.toList.count '"' :=
        (lexeme_infix_of_parseEntries h he hn).sublist.count_le '"'
      have hd := (Text.Quoted.decode_sublist inner.toList).count_le '"'
      have hc : (WrittenName.quoted inner span).text.toList = Text.Quoted.decode inner.toList :=
        String.toList_ofList
      rw [hc] at hq
      simp only [List.count_cons_self, List.count_append] at hl
      omega

theorem exists_entry_of_mem_pairs {conv : Conventions} {setting text : String} {r : Compiled}
    {p : Name × Name} (h : compile conv setting text = .ok r) (hp : p ∈ r.table.pairs) :
    ∃ es e, parseEntries text = .ok es ∧ e ∈ es ∧ conv.column e.column = p.1 ∧
      conv.field e.field = p.2 := by
  obtain ⟨es, hes, rfl⟩ := compile_eq_ok_iff.1 h
  rw [Compiled.table_ofEntries, ColumnTable.pairs_ofList] at hp
  obtain ⟨e, he, rfl⟩ := List.mem_map.1 ((ColumnTable.lastBindings_sublist _).subset hp)
  exact ⟨es, e, hes, he, rfl, rfl⟩

theorem nameText_eq_self_iff {quotes : Bool} {n : Name} : nameText quotes n = n ↔ quotes = false := by
  cases quotes with
  | true => exact iff_of_false (Text.Quoted.enclose_ne n) Bool.noConfusion
  | false => exact iff_of_true rfl rfl

namespace Conventions

variable {conv : Conventions}

theorem columnText_eq_self_iff {column : Name} :
    conv.columnText column = column ↔ IsWord column ∧ conv.boundVariable? column = none := by
  have ht : conv.columnText column = nameText (conv.quotesColumn column) column := rfl
  rw [ht, nameText_eq_self_iff, quotesColumn, Bool.or_eq_false_iff, needsQuotes_eq_false_iff,
    Option.isSome_eq_false_iff, Option.isNone_iff_eq_none]

theorem fieldText_eq_self_iff {field : Name} :
    conv.fieldText field = field ↔ IsWord field ∧ field ∉ conv.wholeRecordFields := by
  have ht : conv.fieldText field = nameText (conv.quotesField field) field := rfl
  rw [ht, nameText_eq_self_iff, quotesField, Bool.or_eq_false_iff, needsQuotes_eq_false_iff,
    isWholeRecord, List.contains_eq_mem, decide_eq_false_iff_not]

theorem text_singleton (conv : Conventions) (column field : Name) :
    (ColumnTable.ofList [(column, field)]).text conv =
      conv.columnText column ++ "=" ++ conv.fieldText field := by
  have hp : (ColumnTable.ofList [(column, field)]).pairs = [(column, field)] := rfl
  rw [ColumnTable.text, hp, List.map_singleton, String.intercalate_singleton]

end Conventions

theorem field_standard_cases (n : WrittenName) :
    Conventions.standard.field (.name n) ∈ ["key.__self", "value.__self"] ∨
      Conventions.standard.field (.name n) = n.text ∧
        ∀ span, n = .literal n.text span → n.text ∉ Conventions.standard.wholeRecordFields := by
  cases n with
  | quoted inner s => exact .inr ⟨rfl, nofun⟩
  | literal text s =>
      by_cases hw : text ∈ Conventions.standard.wholeRecordFields
      · rcases List.mem_pair.1 hw with rfl | rfl
        · exact .inl (.head _)
        · exact .inl (.tail _ (.head _))
      · refine .inr ⟨?_, fun _ _ => hw⟩
        exact Conventions.field_eq_text (Conventions.bindsWhole_of_notMem hw false)

theorem columnText_of_reads_back {setting text : String} {r : Compiled} {p : Name × Name}
    (h : compile .standard setting text = .ok r) (hp : p ∈ r.table.pairs)
    (hq : text.toList.count '"' ≤ p.1.toList.count '"') :
    Conventions.standard.columnText p.1 = p.1 := by
  obtain ⟨es, e, hes, he, hc, -⟩ := exists_entry_of_mem_pairs h hp
  rcases Conventions.column_eq_iff.1 hc with ⟨_, _, -, hv⟩ | ⟨ht, hr⟩
  · rcases Conventions.boundVariable?_cases hv with ⟨-, hv⟩ | ⟨-, hv⟩ <;> rw [hv] <;> decide
  · obtain ⟨span, hl, hw⟩ := literal_of_count_le hes he (.head _) (ht ▸ hq)
    rw [ht] at hl hw
    rw [Conventions.columnText_eq_self_iff]
    exact ⟨hw, hr span hl⟩

theorem fieldText_of_reads_back {setting text : String} {r : Compiled} {p : Name × Name}
    (h : compile .standard setting text = .ok r) (hp : p ∈ r.table.pairs)
    (hq : text.toList.count '"' ≤ p.2.toList.count '"') :
    Conventions.standard.fieldText p.2 = p.2 ∨
      ∃ function, IsWord function ∧ p.2 = function ++ "()" := by
  obtain ⟨es, e, hes, he, -, hf⟩ := exists_entry_of_mem_pairs h hp
  have hk : ∀ k ∈ e.field.kinds, k ∈ e.kinds := fun k hk => .tail _ (.tail _ hk)
  match hn : e.field with
  | .call function span =>
      rw [hn] at hf hk
      exact .inr ⟨function, spelled_of_parseEntries hes e he _ (hk _ (.head _)), hf.symm⟩
  | .name n =>
      rw [hn] at hf hk
      refine .inl ?_
      rcases field_standard_cases n with hv | ⟨ht, hr⟩
      · rw [hf] at hv
        rcases List.mem_pair.1 hv with hv | hv <;> rw [hv] <;> decide
      · have htext : n.text = p.2 := ht.symm.trans hf
        obtain ⟨span, hl, hw⟩ := literal_of_count_le hes he (hk _ (.head _)) (htext ▸ hq)
        rw [← htext, Conventions.fieldText_eq_self_iff]
        exact ⟨hw, hr span hl⟩

theorem exists_compile_text (conv : Conventions) (setting : String) {t : ColumnTable}
    (h : t.pairs ≠ []) : ∃ r, compile conv setting (t.text conv) = .ok r ∧ r.table = t := by
  have hn : t.pairs.map conv.entryOf ≠ [] := fun hm => h (List.map_eq_nil_iff.1 hm)
  refine ⟨_, Compiled.compile_of_kinds hn (kinds_text conv h), ?_⟩
  rw [Compiled.ofEntries_entryOf]

theorem not_isWord_call (function : String) : ¬ IsWord (function ++ "()") := by
  intro h
  have hp : '(' ∈ (function ++ "()").toList := by
    rw [String.toList_append]
    exact List.mem_append_right _ (.head _)
  have hl := h.2 _ hp
  revert hl
  decide

/-- A text that is printed for one pair is read back as that pair. -/
theorem reads_back_of_text_eq {setting text : String} {column field : Name}
    (h : (ColumnTable.ofList [(column, field)]).text .standard = text) :
    ∃ r, compile .standard setting text = .ok r ∧ r.table.pairs = [(column, field)] := by
  obtain ⟨r, hr, ht⟩ := exists_compile_text .standard setting
    (t := .ofList [(column, field)]) (List.cons_ne_nil _ _)
  exact ⟨r, h ▸ hr, ht ▸ rfl⟩

/-- Quotes are printed exactly where they are needed, by the standard conventions. A column is printed
without quotes if and only if its bare text, with a field behind it, is read back as the column alone. A
field is printed without quotes if and only if its bare text is read back as the field alone and does
not look like a call, which is printed with quotes though it would be read back. -/
theorem printed_bare_iff_reads_back (setting text : String) :
    ((ColumnTable.ofList [(text, "value.x")]).text .standard = text ++ "=value.x" ↔
      ∃ r, compile .standard setting (text ++ "=value.x") = .ok r ∧
        r.table.pairs = [(text, "value.x")]) ∧
    ((ColumnTable.ofList [("c", text)]).text .standard = "c=" ++ text ↔
      (∃ r, compile .standard setting ("c=" ++ text) = .ok r ∧ r.table.pairs = [("c", text)]) ∧
        ¬ ∃ function, IsWord function ∧ text = function ++ "()") := by
  have hx : "=value.x" = "=" ++ Conventions.standard.fieldText "value.x" := by decide
  have hc : "c=" = Conventions.standard.columnText "c" ++ "=" := by decide
  have column : (ColumnTable.ofList [(text, "value.x")]).text .standard = text ++ "=value.x" ↔
      Conventions.standard.columnText text = text := by
    rw [Conventions.text_singleton, hx, String.append_assoc, String.append_left_inj]
  have field : (ColumnTable.ofList [("c", text)]).text .standard = "c=" ++ text ↔
      Conventions.standard.fieldText text = text := by
    rw [Conventions.text_singleton, hc, String.append_right_inj]
  -- the text around the name has no quotes
  have hqx : (text ++ "=value.x").toList.count '"' = text.toList.count '"' := by
    rw [String.toList_append, List.count_append]
    rfl
  have hqc : ("c=" ++ text).toList.count '"' = text.toList.count '"' := by
    rw [String.toList_append, List.count_append]
    exact Nat.zero_add _
  constructor
  · constructor
    · exact reads_back_of_text_eq
    · rintro ⟨r, hr, hp⟩
      rw [column]
      exact columnText_of_reads_back (p := (text, "value.x")) hr (hp ▸ .head _) hqx.le
  · constructor
    · intro h
      refine ⟨reads_back_of_text_eq h, ?_⟩
      rintro ⟨function, -, rfl⟩
      exact not_isWord_call function (Conventions.fieldText_eq_self_iff.1 (field.1 h)).1
    · rintro ⟨⟨r, hr, hp⟩, hn⟩
      rw [field]
      exact (fieldText_of_reads_back (p := ("c", text)) hr (hp ▸ .head _) hqc.le).resolve_right hn

end ColumnBinding
