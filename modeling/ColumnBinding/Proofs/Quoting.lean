import ColumnBinding.Proofs.PrintedText

/-! Names that are put in quotes. Quotes matter where a name is reserved, and nowhere else. Main
statement: entries of which other names, and calls, are put in quotes compile to the same, and an
entry of which a reserved name is put in quotes makes another table. -/
namespace ColumnBinding

variable {conv : Conventions}

/-- A column stays as it is, or is put in quotes where it is not reserved. -/
inductive QuotesColumn (conv : Conventions) : WrittenName → WrittenName → Prop where
  | same (n : WrittenName) : QuotesColumn conv n n
  | quotes {text : Name} (ht : text ≠ conv.ttlColumn) (hs : text ≠ conv.timestampColumn) :
      QuotesColumn conv (asWritten false text) (asWritten true text)

/-- A field stays as it is, or is put in quotes where it does not stand for a side of the record. A
call is put in quotes with its parentheses. -/
inductive QuotesField (conv : Conventions) : WrittenField → WrittenField → Prop where
  | same (f : WrittenField) : QuotesField conv f f
  | quotes {text : Name} (h : text ∉ conv.wholeRecordFields) :
      QuotesField conv (.name (asWritten false text)) (.name (asWritten true text))
  | call (function : String) :
      QuotesField conv (.call function .zero) (.name (asWritten true (function ++ "()")))

/-- Names of the entry are put in quotes where that does no harm. Either entry may stand anywhere. -/
structure Entry.Quotes (conv : Conventions) (d e : Entry) : Prop where
  column : QuotesColumn conv d.column.unplaced e.column.unplaced
  field : QuotesField conv d.field.unplaced e.field.unplaced

/-- A reserved name of the entry is put in quotes, whatever becomes of the other name. -/
inductive Entry.QuotesReserved (conv : Conventions) (d e : Entry) : Prop where
  | column {text bound : Name} (hd : d.column.unplaced = asWritten false text)
      (he : e.column.unplaced = asWritten true text)
      (hv : conv.Reserves text bound) (hn : bound ≠ text)
  | field {text : Name} (hd : d.field.unplaced = .name (asWritten false text))
      (he : e.field.unplaced = .name (asWritten true text)) (hw : text ∈ conv.wholeRecordFields)

namespace Conventions

theorem selfReference_ne (conv : Conventions) (side : Name) : conv.selfReference side ≠ side := by
  -- the dot alone makes the reference longer
  intro h
  have hl := congrArg String.length h
  have hd : ".".length = 1 := rfl
  rw [selfReference, String.length_append, String.length_append, hd] at hl
  omega

end Conventions

theorem QuotesColumn.column_eq {m n : WrittenName} (h : QuotesColumn conv m n) :
    conv.column n = conv.column m := by
  cases h with
  | same => rfl
  | @quotes text ht hs =>
      have hq : conv.column (asWritten true text) = text := text_asWritten true text
      rw [hq, column_asWritten fun _ => Conventions.boundVariable?_eq_none_iff.2 ⟨ht, hs⟩]

theorem QuotesField.text_eq {f g : WrittenField} (h : QuotesField conv f g) : g.text = f.text := by
  cases h with
  | same => rfl
  | quotes => exact (text_asWritten true _).trans (text_asWritten false _).symm
  | call => exact text_asWritten true _

theorem QuotesField.bindsWhole_eq {f g : WrittenField} (h : QuotesField conv f g) :
    conv.bindsWhole g = conv.bindsWhole f := by
  cases h with
  | same => rfl
  | quotes h =>
      rw [Conventions.bindsWhole_of_notMem h true, Conventions.bindsWhole_of_notMem h false]
  | call => exact Conventions.bindsWhole_asWritten true _

namespace Compiled

/-- What an entry adds depends on its column, on the text of its field, and on whether that stands
for a side of the record. -/
theorem record_congr {r : Compiled} {d e : Entry}
    (hc : r.conventions.column e.column = r.conventions.column d.column)
    (ht : e.field.text = d.field.text)
    (hw : r.conventions.bindsWhole e.field = r.conventions.bindsWhole d.field) :
    r.record e = r.record d := by
  have hf : r.conventions.field e.field = r.conventions.field d.field := by
    rw [Conventions.field, Conventions.field, hw, ht]
  have ha : r.conventions.accepts e.field = r.conventions.accepts d.field := by
    rw [Conventions.accepts, Conventions.accepts, hw, ht]
  rw [record, record, errorsOf, errorsOf, hc, hf, ha, ht]

theorem record_quotes {r : Compiled} {d e : Entry} (h : d.Quotes r.conventions e) :
    r.record e = r.record d := by
  rw [← record_unplaced r e, ← record_unplaced r d]
  exact record_congr h.column.column_eq h.field.text_eq h.field.bindsWhole_eq

theorem recordMany_quotes {r : Compiled} {ds es : List Entry}
    (h : List.Forall₂ (Entry.Quotes r.conventions) ds es) : r.recordMany es = r.recordMany ds := by
  induction ds generalizing r es with
  | nil =>
      cases h
      rfl
  | cons d ds ih =>
      cases h with
      | cons hd hds =>
          rw [recordMany, recordMany, List.foldl_cons, List.foldl_cons, record_quotes hd]
          exact ih hds

theorem pairs_ofEntries_singleton (conv : Conventions) (e : Entry) :
    (ofEntries conv [e]).table.pairs = [binding conv e.unplaced] := by
  have hu : ofEntries conv [e] = ofEntries conv [e.unplaced] :=
    (record_unplaced ⟨conv, .empty, []⟩ e).symm
  rw [hu, table_ofEntries, ColumnTable.pairs_ofList]
  rfl

theorem binding_ne_of_quotesReserved {d e : Entry} (h : d.QuotesReserved conv e) :
    binding conv e.unplaced ≠ binding conv d.unplaced := by
  intro heq
  obtain ⟨hc, hf⟩ : conv.column e.column.unplaced = conv.column d.column.unplaced ∧
      conv.field e.field.unplaced = conv.field d.field.unplaced := Prod.mk.inj heq
  cases h with
  | @column text bound hd he hv hn =>
      have hb : conv.column (asWritten false text) = bound :=
        congrArg (·.getD text) (Conventions.boundVariable?_eq_some_iff.2 hv)
      have ht : conv.column (asWritten true text) = text := text_asWritten true text
      rw [hd, he, hb, ht] at hc
      exact hn hc.symm
  | @field text hd he hw =>
      have hb : conv.field (.name (asWritten false text)) = conv.selfReference text := by
        rw [Conventions.field, Conventions.bindsWhole_asWritten]
        exact if_pos (List.contains_iff_mem.2 hw)
      have ht : conv.field (.name (asWritten true text)) = text := by
        rw [Conventions.field, Conventions.bindsWhole_asWritten]
        exact text_asWritten true text
      rw [hd, he, hb, ht] at hf
      exact conv.selfReference_ne text hf.symm

/-- Quotes around names that are not reserved, and around calls, change nothing of what any entries
compile to. Quotes around a reserved name change the table of an entry. -/
theorem ofEntries_quotes (conv : Conventions) :
    (∀ ds es, List.Forall₂ (Entry.Quotes conv) ds es → ofEntries conv es = ofEntries conv ds) ∧
    ∀ d e : Entry, d.QuotesReserved conv e →
      (ofEntries conv [e]).table ≠ (ofEntries conv [d]).table := by
  constructor
  · intro ds es h
    exact recordMany_quotes h
  · intro d e h ht
    have hp := congrArg ColumnTable.pairs ht
    rw [pairs_ofEntries_singleton, pairs_ofEntries_singleton] at hp
    exact binding_ne_of_quotesReserved h (List.singleton_inj.1 hp)

/-- A column with a quote of its own, a call, a reserved column and a side of the record. -/
theorem ofEntries_quotes_of_each_kind :
    ofEntries .standard [.of (.quoted "a\"\"b" .zero) (.name (.quoted "now()" .zero)),
        .of (.literal "__ttl" .zero) (.name (.literal "key" .zero))] =
      ofEntries .standard [.of (.literal "a\"b" .zero) (.call "now" .zero),
        .of (.literal "__ttl" .zero) (.name (.literal "key" .zero))] ∧
    (ofEntries .standard [.of (.quoted "__ttl" .zero) (.call "now" .zero)]).table ≠
      (ofEntries .standard [.of (.literal "__ttl" .zero) (.call "now" .zero)]).table ∧
    (ofEntries .standard [.of (.literal "c" .zero) (.name (.quoted "key" .zero))]).table ≠
      (ofEntries .standard [.of (.literal "c" .zero) (.name (.literal "key" .zero))]).table := by
  obtain ⟨same, other⟩ := ofEntries_quotes .standard
  have ha : asWritten true "a\"b" = .quoted "a\"\"b" .zero := by decide
  have hn : asWritten true ("now" ++ "()") = .quoted "now()" .zero := by decide
  have ht : asWritten true "__ttl" = .quoted "__ttl" .zero := by decide
  have hk : asWritten true "key" = .quoted "key" .zero := by decide
  refine ⟨same _ _ (.cons ⟨?_, ?_⟩ (.cons ⟨.same _, .same _⟩ .nil)), other _ _ ?_, other _ _ ?_⟩
  · have h : QuotesColumn .standard (asWritten false "a\"b") (asWritten true "a\"b") :=
      .quotes (by decide) (by decide)
    rwa [ha] at h
  · have h : QuotesField .standard (.call "now" .zero) _ := .call "now"
    rwa [hn] at h
  · exact .column rfl ht.symm (.inl ⟨rfl, rfl⟩) (by decide)
  · exact .field rfl (congrArg WrittenField.name hk.symm) (by decide)

end Compiled
end ColumnBinding
