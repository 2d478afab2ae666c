import ColumnBinding.ColumnTable.Text
import ColumnBinding.Compiled.Text
import ColumnBinding.Proofs.Grammar
import ColumnBinding.Proofs.Outcome

/-! The text of a table, read again. Each name is spelled as one token, since what follows it is an
equals sign, a comma, or the end. Main statement: the text of a table compiles to the table. -/
namespace ColumnBinding

/-- Wherever it stands, `cs` begins with tokens of the kinds `ks`, and `rest` is left. -/
def ReadsKinds (cs : List Char) (ks : List Kind) (rest : List Char) : Prop :=
  ∀ p, ∃ ts q, Reads p cs ts q rest ∧ ts.map Token.kind = ks

namespace ReadsKinds

theorem nil (cs : List Char) : ReadsKinds cs [] cs := fun p => ⟨[], p, .nil, rfl⟩

theorem cons {bs cs rest behind : List Char} {k : Kind} {ks : List Kind} (hb : ∀ c ∈ bs, IsBlank c)
    (hs : Spells k cs rest) (hk : k ≠ .eof) (h : ReadsKinds rest ks behind) :
    ReadsKinds (bs ++ (cs ++ rest)) (k :: ks) behind := by
  intro p
  obtain ⟨ts, q, hr, hts⟩ := h ((p.after bs).after cs)
  exact ⟨_, q, .cons hb hs hk hr, congrArg (List.cons k) hts⟩

theorem mark {c : Char} {k : Kind} {rest behind : List Char} {ks : List Kind}
    (hc : IsMark c k) (h : ReadsKinds rest ks behind) : ReadsKinds (c :: rest) (k :: ks) behind :=
  cons (List.forall_mem_nil _) (.mark hc) hc.ne_eof h

theorem map_kind_tokenize {text : String} {ks : List Kind} {bs : List Char}
    (h : ReadsKinds text.toList ks bs) (hb : ∀ c ∈ bs, IsBlank c) :
    (tokenize text).map Token.kind = ks ++ [.eof] := by
  obtain ⟨ts, q, hr, hts⟩ := h .start
  have ht : tokenize text = ts ++ [endAt q bs] := Lexer.tokens_of_reads hr hb
  rw [ht, List.map_append, hts]
  rfl

end ReadsKinds

/-- The name as it is written, with quotes or without. -/
def asWritten (quotes : Bool) (n : Name) : WrittenName :=
  if quotes then .quoted (String.ofList (Text.Quoted.encode n.toList)) .zero else .literal n .zero

def nameText (quotes : Bool) (n : Name) : String := if quotes then Text.Quoted.enclose n else n

/-- What ends a name that is written with or without quotes. -/
def EndsName (rest : List Char) : Prop := ∀ c ∈ rest.head?, ¬ IsLiteral c ∧ c ≠ '"'

theorem endsName_of_mark {c : Char} {k : Kind} (h : IsMark c k) (rest : List Char) :
    EndsName (c :: rest) := by
  intro d hd
  cases hd
  refine ⟨h.not_literal, ?_⟩
  rintro rfl
  cases h

theorem needsQuotes_eq_false_iff {text : String} : needsQuotes text = false ↔ IsWord text := by
  rw [needsQuotes, Bool.or_eq_false_iff, Bool.not_eq_false', List.all_eq_true, IsWord,
    Bool.eq_false_iff, ne_eq, String.isEmpty_iff]
  simp only [isLiteral_iff]

theorem spells_asWritten {quotes : Bool} {n : Name} (h : needsQuotes n = true → quotes = true)
    {rest : List Char} (hr : EndsName rest) :
    Spells (asWritten quotes n).kind (nameText quotes n).toList rest := by
  cases quotes with
  | true =>
      have ht : (nameText true n).toList = '"' :: (Text.Quoted.encode n.toList ++ ['"']) :=
        String.toList_ofList
      rw [ht]
      exact .quoted (Text.Quoted.evenRuns_encode _) fun hh => (hr _ hh).2 rfl
  | false =>
      have hn : needsQuotes n = false := by
        rw [Bool.eq_false_iff]
        intro hn
        cases h hn
      obtain ⟨he, hl⟩ := needsQuotes_eq_false_iff.1 hn
      have hs : Spells (.literal (String.ofList n.toList)) n.toList rest :=
        .literal (fun hnil => he (String.toList_eq_nil_iff.1 hnil)) hl fun c hc => (hr c hc).1
      rwa [String.ofList_toList] at hs

theorem text_asWritten (quotes : Bool) (n : Name) : (asWritten quotes n).text = n := by
  cases quotes with
  | true =>
      simp only [asWritten, if_true, WrittenName.text, Text.Quoted.collapse, String.toList_ofList,
        Text.Quoted.decode_encode, String.ofList_toList]
  | false => rfl

theorem column_asWritten {conv : Conventions} {quotes : Bool} {n : Name}
    (h : quotes = false → conv.boundVariable? n = none) : conv.column (asWritten quotes n) = n := by
  cases quotes with
  | true => exact text_asWritten true n
  | false =>
      have hc : conv.column (asWritten false n) = (conv.boundVariable? n).getD n := rfl
      rw [hc, h rfl, Option.getD_none]

theorem WrittenName.kind_ne_eof (n : WrittenName) : n.kind ≠ .eof := by
  intro h
  cases n with
  | literal text s => cases h
  | quoted inner s => cases h

theorem readsKinds_written {columnQuotes fieldQuotes : Bool} {column field : Name}
    (hc : needsQuotes column = true → columnQuotes = true)
    (hf : needsQuotes field = true → fieldQuotes = true) {bs rest : List Char} {ks : List Kind}
    (hb : ∀ c ∈ bs, IsBlank c) (hr : EndsName rest) (h : ReadsKinds rest ks []) :
    ReadsKinds (bs ++ ((nameText columnQuotes column ++ "=" ++ nameText fieldQuotes field).toList ++ rest))
      ((Entry.of (asWritten columnQuotes column) (.name (asWritten fieldQuotes field))).kinds ++ ks)
      [] := by
  have ht : (nameText columnQuotes column ++ "=" ++ nameText fieldQuotes field).toList ++ rest =
      (nameText columnQuotes column).toList ++
        ('=' :: ((nameText fieldQuotes field).toList ++ rest)) := by
    simp only [String.toList_append, List.append_assoc]
    rfl
  rw [ht]
  refine .cons hb (spells_asWritten hc (endsName_of_mark .equals _)) (WrittenName.kind_ne_eof _)
    (.mark .equals ?_)
  exact .cons (List.forall_mem_nil _) (spells_asWritten hf hr) (WrittenName.kind_ne_eof _) h

namespace Conventions

variable (conv : Conventions)

def quotesColumn (column : Name) : Bool :=
  needsQuotes column || (conv.boundVariable? column).isSome

def quotesField (field : Name) : Bool := needsQuotes field || conv.isWholeRecord field

/-- The entry that is written for a pair of a table. -/
def entryOf (p : Name × Name) : Entry :=
  .of (asWritten (conv.quotesColumn p.1) p.1) (.name (asWritten (conv.quotesField p.2) p.2))

def pairText (p : Name × Name) : String := conv.columnText p.1 ++ "=" ++ conv.fieldText p.2

theorem readsKinds_pair {p : Name × Name} {bs rest : List Char} {ks : List Kind}
    (hb : ∀ c ∈ bs, IsBlank c) (hr : EndsName rest) (h : ReadsKinds rest ks []) :
    ReadsKinds (bs ++ ((conv.pairText p).toList ++ rest)) ((conv.entryOf p).kinds ++ ks) [] := by
  have quotes : ∀ {a b : Bool}, a = true → (a || b) = true := by
    rintro _ b rfl
    exact Bool.true_or b
  exact readsKinds_written quotes quotes hb hr h

theorem readsKinds_more (ps : List (Name × Name)) :
    EndsName (ps.flatMap fun p => ',' :: ' ' :: (conv.pairText p).toList) ∧
      ReadsKinds (ps.flatMap fun p => ',' :: ' ' :: (conv.pairText p).toList)
        ((ps.map conv.entryOf).flatMap fun e => .comma :: e.kinds) [] := by
  induction ps with
  | nil =>
      refine ⟨?_, .nil []⟩
      intro c hc
      cases hc
  | cons p ps ih =>
      constructor
      · exact endsName_of_mark .comma _
      · have hb : ∀ c ∈ [' '], IsBlank c := all_isBlank_iff.1 rfl
        exact .mark .comma (conv.readsKinds_pair hb ih.1 ih.2)

end Conventions

/-- The token kinds of the text of a table. -/
theorem kinds_text (conv : Conventions) {t : ColumnTable} (h : t.pairs ≠ []) :
    (tokenize (t.text conv)).map Token.kind = flatten (t.pairs.map conv.entryOf) ++ [.eof] := by
  obtain ⟨p, ps, hps⟩ := List.exists_cons_of_ne_nil h
  have ht : (t.text conv).toList =
      (conv.pairText p).toList ++ ps.flatMap fun p => ',' :: ' ' :: (conv.pairText p).toList := by
    rw [ColumnTable.text, hps, String.toList_intercalate, List.map_cons, List.map_cons,
      intercalate_cons, List.map_map, List.flatMap_map]
    rfl
  refine ReadsKinds.map_kind_tokenize ?_ (List.forall_mem_nil _)
  rw [ht, hps, List.map_cons, flatten_cons]
  obtain ⟨he, hr⟩ := conv.readsKinds_more ps
  have hp := conv.readsKinds_pair (p := p) (List.forall_mem_nil _) he hr
  exact hp

namespace Conventions

variable {conv : Conventions}

theorem column_entryOf (p : Name × Name) : conv.column (conv.entryOf p).column = p.1 := by
  apply column_asWritten
  intro hq
  have hs := (Bool.or_eq_false_iff.1 hq).2
  rwa [Option.isSome_eq_false_iff, Option.isNone_iff_eq_none] at hs

theorem text_entryOf (p : Name × Name) : (conv.entryOf p).field.text = p.2 := text_asWritten _ _

theorem bindsWhole_asWritten (quotes : Bool) (n : Name) :
    conv.bindsWhole (.name (asWritten quotes n)) = (!quotes && conv.isWholeRecord n) := by
  have ht : (WrittenField.name (asWritten quotes n)).text = n := text_asWritten quotes n
  have ho : ((WrittenField.name (asWritten quotes n)).origin == .literal) = !quotes := by
    cases quotes <;> rfl
  rw [bindsWhole, ht, ho]

theorem bindsWhole_of_notMem {n : Name} (h : n ∉ conv.wholeRecordFields) (quotes : Bool) :
    conv.bindsWhole (.name (asWritten quotes n)) = false := by
  rw [bindsWhole_asWritten, isWholeRecord, List.contains_eq_mem, decide_eq_false h, Bool.and_false]

theorem bindsWhole_entryOf (p : Name × Name) : conv.bindsWhole (conv.entryOf p).field = false := by
  have hb : conv.bindsWhole (conv.entryOf p).field =
      (!conv.quotesField p.2 && conv.isWholeRecord p.2) := bindsWhole_asWritten _ _
  cases hq : conv.quotesField p.2 with
  | true => rw [hb, hq, Bool.not_true, Bool.false_and]
  | false => rw [hb, (Bool.or_eq_false_iff.1 hq).2, Bool.and_false]

theorem field_entryOf (p : Name × Name) : conv.field (conv.entryOf p).field = p.2 := by
  rw [field_eq_text (bindsWhole_entryOf p), text_entryOf]

theorem refuses_entryOf (p : Name × Name) :
    conv.Refuses (conv.entryOf p).field ↔ conv.Unsupported p.2 := by
  rw [refuses_iff_unsupported (bindsWhole_entryOf p), text_entryOf]

end Conventions

namespace Compiled

theorem record_unplaced (r : Compiled) (e : Entry) : r.record e.unplaced = r.record e := by
  obtain ⟨c, f, s⟩ := e
  cases c <;> cases f with
  | name n => cases n <;> rfl
  | call text t => rfl

theorem ofEntries_congr (conv : Conventions) {ds es : List Entry}
    (h : ds.map Entry.unplaced = es.map Entry.unplaced) : ofEntries conv ds = ofEntries conv es := by
  have same : ∀ es, ofEntries conv es = ofEntries conv (es.map Entry.unplaced) := by
    intro es
    rw [ofEntries, ofEntries, List.foldl_map]
    simp only [record_unplaced]
  rw [same ds, same es, h]

theorem compile_of_kinds {conv : Conventions} {setting text : String} {es : List Entry}
    (hn : es ≠ []) (hk : (tokenize text).map Token.kind = flatten es ++ [.eof]) :
    compile conv setting text = .ok (.ofEntries conv es) := by
  obtain ⟨ds, hds, he⟩ := parseEntries_ok_iff.2 ⟨hn, hk⟩
  exact compile_eq_ok_iff.2 ⟨ds, hds, (ofEntries_congr conv he).symm⟩

theorem errorsIf_entryOf (conv : Conventions) (p : Name × Name) :
    errorsIf conv False (conv.entryOf p) =
      if conv.Unsupported p.2 then [.invalidField p.2] else [] := by
  rw [errorsIf, if_neg not_false, List.nil_append, ← WrittenField.text_eq, Conventions.text_entryOf]
  simp only [Conventions.refuses_entryOf]

theorem flatMap_errorsIf_entryOf (conv : Conventions) (ps : List (Name × Name)) :
    (ps.map conv.entryOf).flatMap (errorsIf conv False) =
      ((ps.map Prod.snd).filter fun f => decide (conv.Unsupported f)).map .invalidField := by
  induction ps with
  | nil => rfl
  | cons p ps ih =>
      rw [List.map_cons, List.flatMap_cons, ih, errorsIf_entryOf, List.map_cons, List.filter_cons]
      by_cases hp : conv.Unsupported p.2
      · rw [if_pos hp, if_pos (decide_eq_true hp)]
        rfl
      · rw [if_neg hp, if_neg (by simpa using hp)]
        rfl

/-- The entries that are written for a table compile to the table. -/
theorem ofEntries_entryOf (conv : Conventions) (t : ColumnTable) :
    ofEntries conv (t.pairs.map conv.entryOf) =
      ⟨conv, t, (t.fields.filter fun f => decide (conv.Unsupported f)).map .invalidField⟩ := by
  have hb : (t.pairs.map conv.entryOf).map (binding conv) = t.pairs := by
    have same : binding conv ∘ conv.entryOf = id := by
      funext p
      exact Prod.ext (Conventions.column_entryOf p) (Conventions.field_entryOf p)
    rw [List.map_map, same, List.map_id]
  have ht : (ofEntries conv (t.pairs.map conv.entryOf)).table = t := by
    rw [table_ofEntries, hb, ColumnTable.ofList_pairs]
  have hn : ((t.pairs.map conv.entryOf).map fun e => conv.column e.column).Nodup := by
    have hd := t.distinct
    rw [← hb, List.map_map] at hd
    exact hd
  have he : (ofEntries conv (t.pairs.map conv.entryOf)).errors =
      (t.fields.filter fun f => decide (conv.Unsupported f)).map .invalidField := by
    rw [errors_of_nodup hn, flatMap_errorsIf_entryOf]
    rfl
  have hc := conventions_ofEntries conv (t.pairs.map conv.entryOf)
  calc ofEntries conv (t.pairs.map conv.entryOf)
      = ⟨(ofEntries conv (t.pairs.map conv.entryOf)).conventions,
          (ofEntries conv (t.pairs.map conv.entryOf)).table,
          (ofEntries conv (t.pairs.map conv.entryOf)).errors⟩ := rfl
    _ = _ := by rw [hc, ht, he]

end Compiled

/-- The text of a table with a pair compiles to the table again, in the same order, under whatever
setting it is held. All that is reported is the fields that the conventions do not support. -/
theorem compile_text (conv : Conventions) (setting : String) (t : ColumnTable)
    (h : t.pairs ≠ []) : ∃ r, compile conv setting (t.text conv) = .ok r ∧
      r.conventions = conv ∧ r.table = t ∧
      r.errors = (t.fields.filter fun f => decide (conv.Unsupported f)).map .invalidField ∧
      r.messages = (t.fields.filter fun f => decide (conv.Unsupported f)).map fun f =>
        (EntryError.invalidField f).message conv := by
  have hes : t.pairs.map conv.entryOf ≠ [] := by
    intro hm
    exact h (List.map_eq_nil_iff.1 hm)
  refine ⟨_, Compiled.compile_of_kinds hes (kinds_text conv h), ?_⟩
  rw [Compiled.ofEntries_entryOf]
  refine ⟨rfl, rfl, rfl, ?_⟩
  rw [Compiled.messages, List.map_map]
  rfl

/-- Reserved names, sides of the record, and names with quotes, commas and line feeds. -/
theorem compile_text_of_awkward_names :
    (ColumnTable.ofList [("__ttl", "key"), ("", "a\"\"b,\n"), ("é", "now()")]).pairs ≠ [] ∧
    ∃ r, compile .standard "topic.t.mapping" ((ColumnTable.ofList
        [("__ttl", "key"), ("", "a\"\"b,\n"), ("é", "now()")]).text .standard) = .ok r ∧
      r.table.pairs = [("__ttl", "key"), ("", "a\"\"b,\n"), ("é", "now()")] ∧
      r.errors = [.invalidField "key", .invalidField "a\"\"b,\n"] ∧
      r.messages = ["key", "a\"\"b,\n"].map fun f =>
        "Invalid field name '" ++ f ++ "': field names in mapping must be 'key', 'value', or start " ++
          "with 'key.' or 'value.' or 'header.', or be one of supported functions: '[now()]'." := by
  have hn : (ColumnTable.ofList [("__ttl", "key"), ("", "a\"\"b,\n"), ("é", "now()")]).pairs ≠ [] := by
    decide
  obtain ⟨r, hr, -, ht, he, hm⟩ := compile_text .standard "topic.t.mapping" _ hn
  refine ⟨hn, r, hr, ?_, ?_, ?_⟩
  · rw [ht]
    decide
  · rw [he]
    decide
  · rw [hm]
    decide +kernel

end ColumnBinding
