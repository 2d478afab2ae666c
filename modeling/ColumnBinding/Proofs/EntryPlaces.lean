import ColumnBinding.Proofs.Parts
import ColumnBinding.Proofs.TokenPlaces
import Mathlib

/-! Where entries stand in a text. The span of an entry begins with the column and ends with the field,
and between two entries there is nothing but a comma and blanks. Main statement: the spans of what is
read from a text mark the text of each part, and the text of an entry alone is read as that entry. -/
namespace ColumnBinding

/-- The span of a text is where the characters `part` stand, with the line and the column of the first. -/
def Span.Marks (text : List Char) (s : Span) (part : List Char) : Prop :=
  ∃ before behind, text = before ++ (part ++ behind) ∧ s.start.StandsBehind before ∧
    s.stop = byteSize (before ++ part)

/-- From byte `m` to byte `n`, a text holds a comma, and nothing else but blanks. -/
def CommaBetween (text : List Char) (m n : Nat) : Prop :=
  ∃ before a b behind, text = before ++ (a ++ ',' :: (b ++ behind)) ∧ byteSize before = m ∧
    byteSize (before ++ (a ++ ',' :: b)) = n ∧ (∀ c ∈ a, IsBlank c) ∧ ∀ c ∈ b, IsBlank c

/-- The characters that a token of the language is written as. -/
def Kind.lexeme : Kind → List Char
  | .literal text => text.toList
  | .quoted inner => '"' :: (inner.toList ++ ['"'])
  | .equals => ['=']
  | .comma => [',']
  | .leftParen => ['(']
  | .rightParen => [')']
  | .eof | .invalid _ => []

theorem Spells.eq_lexeme {k : Kind} {cs rest : List Char} (h : Spells k cs rest)
    (hk : ∀ message, k ≠ .invalid message) : cs = k.lexeme := by
  cases h with
  | eof => rfl
  | mark hm => cases hm <;> rfl
  | literal hn hl hr => exact String.toList_ofList.symm
  | quoted hi hr => rw [Kind.lexeme, String.toList_ofList]
  | stray hs => exact absurd rfl (hk _)
  | unclosed hi => exact absurd rfl (hk _)

/-- The characters of a written field. Blanks may stand around the parenthesis that opens a call. -/
inductive WrittenField.HasLexeme : WrittenField → List Char → Prop
  | name (n : WrittenName) : HasLexeme (.name n) n.kind.lexeme
  | call {function span a b} : (∀ c ∈ a, IsBlank c) → (∀ c ∈ b, IsBlank c) →
      HasLexeme (.call function span) (function.toList ++ (a ++ '(' :: (b ++ [')'])))

/-- The spans of an entry tell where it stands in a text, and what it is written as: from the start of its
column to the end of its field, the text is read as this entry alone. -/
structure Entry.StandsIn (text : List Char) (e : Entry) : Prop where
  column : e.column.span.Marks text e.column.kind.lexeme
  field : ∃ part, e.field.HasLexeme part ∧ e.field.span.Marks text part
  span : e.span = ⟨e.column.span.start, e.field.span.stop⟩
  wide : e.span.start.offset < e.span.stop
  alone : ∃ part, e.span.Marks text part ∧
    ∃ d, parseEntries (String.ofList part) = .ok [d] ∧ d.unplaced = e.unplaced

/-- The entries stand in a text one behind the other, with commas between them and blanks around. -/
structure EntriesStandIn (text : List Char) (es : List Entry) : Prop where
  nonempty : es ≠ []
  each : ∀ e ∈ es, e.StandsIn text
  ordered : es.Pairwise fun d e => d.span.stop < e.span.start.offset
  first : ∀ e ∈ es.head?, BlankBetween text 0 e.span.start.offset
  between : es.IsChain fun d e => CommaBetween text d.span.stop e.span.start.offset
  last : ∀ e ∈ es.getLast?, BlankBetween text e.span.stop (byteSize text)

theorem span_of_name? {t : Token} {n : WrittenName} (hn : Stage.name? t = some n) :
    n.span = t.span := by
  unfold Stage.name? at hn
  split at hn <;> cases hn <;> rfl

theorem Compact.eq_lexeme {t : Token} {n : WrittenName} {part : List Char} (h : Compact [t] part)
    (hn : Stage.name? t = some n) : part = n.kind.lexeme := by
  have hs := h.spells
  rw [Stage.kind_of_name? hn] at hs
  refine hs.eq_lexeme ?_
  intro message hm
  cases n <;> cases hm

theorem Compact.hasLexeme {ts : List Token} {f : WrittenField} {part : List Char}
    (h : Compact ts part) (hf : WritesField ts f) : f.HasLexeme part := by
  cases hf with
  | name hn =>
      rw [h.eq_lexeme hn]
      exact .name _
  | @call t l r text hk hl hr =>
      cases h with
      | mk hs _ hrest =>
          cases hrest with
          | cons ha hsl _ hrest =>
              cases hrest with
              | cons hb hsr _ hrest =>
                  cases hrest
                  rw [hk] at hs
                  cases hl
                  cases hr
                  rw [hs.eq_lexeme nofun, hsl.eq_lexeme nofun, hsr.eq_lexeme nofun]
                  exact .call ha hb

theorem WritesField.span_eq {ts : List Token} {f : WrittenField} (h : WritesField ts f) :
    ∃ t us u, ts = t :: us ∧ ts.getLast? = some u ∧ f.span = t.span.through u.span := by
  cases h with
  | name hn => exact ⟨_, [], _, rfl, rfl, span_of_name? hn⟩
  | call hk hl hr => exact ⟨_, _, _, rfl, rfl, rfl⟩

theorem WritesEntry.span_eq {ts : List Token} {e : Entry} (h : WritesEntry ts e) :
    ∃ t us u, ts = t :: us ∧ ts.getLast? = some u ∧ e.span = t.span.through u.span := by
  cases h with
  | @mk t q fs c f hc hq hf =>
      obtain ⟨s, us, u, rfl, hu, he⟩ := hf.span_eq
      refine ⟨t, _, u, rfl, ?_, ?_⟩
      · rwa [List.getLast?_cons_cons, List.getLast?_cons_cons]
      · rw [Entry.of, span_of_name? hc, he]
        rfl

/-- Tokens that follow one another in a text fill the part that is marked by their spans. -/
theorem Reads.marks {text ds : List Char} {q : Position} {xs ts ys : List Token} {t u : Token}
    {us : List Token} (h : Reads .start text (xs ++ (ts ++ ys)) q ds) (ht : ts = t :: us)
    (hu : ts.getLast? = some u) :
    ∃ part, (t.span.through u.span).Marks text part ∧ Compact ts part := by
  obtain ⟨m, mid, hx, hr⟩ := h.split
  obtain ⟨taken, rfl, rfl, -⟩ := hx.cut
  obtain ⟨r, rest, hts, -⟩ := hr.split
  subst ht
  obtain ⟨gap, part, rfl, -, hc, rfl, hs⟩ := hts.part hu
  refine ⟨part, ⟨taken ++ gap, rest, by simp only [List.append_assoc], ?_, ?_⟩, hc⟩
  · rw [hs]
    exact Position.start_after_standsBehind _
  · rw [hs]
    exact Position.offset_start_after _

theorem WritesEntry.standsIn {text ds : List Char} {q : Position} {xs ts ys : List Token} {e : Entry}
    (h : Reads .start text (xs ++ (ts ++ ys)) q ds) (he : WritesEntry ts e) : e.StandsIn text := by
  have hk := he.kinds_eq
  obtain ⟨t, us, u, hts, hu, hs⟩ := he.span_eq
  obtain ⟨part, hm, hc⟩ := h.marks hts hu
  rw [← hs] at hm
  refine ⟨?_, ?_, ?_, ?_, part, hm, ?_⟩
  · cases he with
    | @mk t mid fs c f hcol hq hf =>
        have h : Reads .start text (xs ++ ([t] ++ (mid :: (fs ++ ys)))) q ds := h
        obtain ⟨part, hm, hc⟩ := h.marks rfl rfl
        obtain rfl := hc.eq_lexeme hcol
        have hs : c.span = t.span.through t.span := span_of_name? hcol
        exact hs ▸ hm
  · cases he with
    | @mk t mid fs c f hcol hq hf =>
        obtain ⟨s, us, v, hfs, hv, hspan⟩ := hf.span_eq
        have h : Reads .start text (xs ++ [t, mid] ++ (fs ++ ys)) q ds := by
          rwa [List.append_assoc]
        obtain ⟨part, hm, hc⟩ := h.marks hfs hv
        exact ⟨part, hc.hasLexeme hf, hspan ▸ hm⟩
  · cases he
    rfl
  · obtain ⟨before, behind, -, hstart, hstop⟩ := hm
    have hp := byteSize_pos hc.ne_nil
    rw [hstart.offset, hstop, byteSize_append]
    omega
  · have hr : ReadsKinds (String.ofList part).toList (flatten [e]) [] := by
      rw [String.toList_ofList, flatten_cons, List.flatMap_nil, List.append_nil, ← hk]
      exact hc.readsKinds
    have hp := parseEntries_ok_iff.2
      ⟨List.cons_ne_nil e [], hr.map_kind_tokenize (List.forall_mem_nil _)⟩
    obtain ⟨ds, hd, hu⟩ := hp
    have hl : ds.length = 1 := (List.length_map _).symm.trans (congrArg List.length hu)
    obtain ⟨d, rfl⟩ := List.length_eq_one_iff.1 hl
    exact ⟨d, hd, (List.cons.inj hu).1⟩

theorem WritesMore.exists_tokens {ts : List Token} {es : List Entry} (h : WritesMore ts es) :
    ∀ e ∈ es, ∃ xs us ys, ts = xs ++ (us ++ ys) ∧ WritesEntry us e := by
  induction h with
  | nil => exact List.forall_mem_nil _
  | @cons s ts e us es hs he hm ih =>
      intro d hd
      cases hd with
      | head => exact ⟨[s], ts, us, rfl, he⟩
      | tail _ hd =>
          obtain ⟨xs, vs, ys, rfl, hw⟩ := ih d hd
          exact ⟨s :: (ts ++ xs), vs, ys, by simp only [List.cons_append, List.append_assoc], hw⟩

theorem Writes.exists_tokens {ts : List Token} {es : List Entry} (h : Writes ts es) :
    ∀ e ∈ es, ∃ xs us ys, ts = xs ++ (us ++ ys) ∧ WritesEntry us e := by
  cases h with
  | @mk ts e us es he hm =>
      intro d hd
      cases hd with
      | head => exact ⟨[], ts, us, rfl, he⟩
      | tail _ hd =>
          obtain ⟨xs, vs, ys, rfl, hw⟩ := hm.exists_tokens d hd
          exact ⟨ts ++ xs, vs, ys, by simp only [List.append_assoc], hw⟩

/-- Behind the span of an entry, each further entry stands behind a comma, and the last one before blanks. -/
theorem WritesMore.places {before cs ds : List Char} {q : Position} {ts : List Token}
    {es : List Entry} {s : Span} (hw : WritesMore ts es)
    (h : Reads (Position.start.after before) cs ts q ds) (hd : ∀ c ∈ ds, IsBlank c)
    (hs : s.stop = byteSize before) :
    (s :: es.map Entry.span).IsChain
        (fun s t => CommaBetween (before ++ cs) s.stop t.start.offset) ∧
      ∀ l ∈ (s :: es.map Entry.span).getLast?,
        BlankBetween (before ++ cs) l.stop (byteSize (before ++ cs)) := by
  induction hw generalizing before cs s with
  | nil =>
      cases h
      refine ⟨List.isChain_singleton _, ?_⟩
      intro l hl
      cases hl
      exact ⟨before, ds, [], by rw [List.append_nil], hs.symm, rfl, hd⟩
  | @cons m ts e us es hm he hw ih =>
      cases h with
      | @cons _ a lexeme _ rest _ _ _ ha hl _ hr =>
          cases hm
          obtain rfl : lexeme = [','] := hl.eq_lexeme nofun
          obtain ⟨r, mid, hts, hus⟩ := hr.split
          obtain ⟨t, vs, u, rfl, hu, hspan⟩ := he.span_eq
          rw [← Position.after_append, ← Position.after_append] at hts
          obtain ⟨b, part, rfl, hb, hc, rfl, hp⟩ := hts.part hu
          rw [← hspan, Position.offset_start_after] at hp
          obtain ⟨hchain, hlast⟩ := ih hus (congrArg Span.stop hp)
          have same : before ++ (a ++ ([','] ++ (b ++ (part ++ mid)))) =
              before ++ (a ++ [',']) ++ b ++ part ++ mid := by
            simp only [List.append_assoc]
          rw [same]
          refine ⟨List.isChain_cons_cons.2 ⟨?_, hchain⟩, hlast⟩
          refine ⟨before, a, b, part ++ mid, ?_, hs.symm, ?_, ha, hb⟩
          · simp only [List.append_assoc, List.cons_append, List.nil_append]
          · rw [hp, Position.offset_start_after]
            simp only [List.append_assoc, List.singleton_append]

theorem Writes.places {text ds : List Char} {q : Position} {ts : List Token} {es : List Entry}
    (hw : Writes ts es) (h : Reads .start text ts q ds) (hd : ∀ c ∈ ds, IsBlank c) :
    (∀ e ∈ es.head?, BlankBetween text 0 e.span.start.offset) ∧
      (es.map Entry.span).IsChain (fun s t => CommaBetween text s.stop t.start.offset) ∧
      ∀ l ∈ (es.map Entry.span).getLast?, BlankBetween text l.stop (byteSize text) := by
  cases hw with
  | @mk ts e us es he hm =>
      obtain ⟨r, mid, hts, hus⟩ := h.split
      obtain ⟨t, vs, u, rfl, hu, hspan⟩ := he.span_eq
      have hts : Reads (Position.start.after []) text (t :: vs) r mid := hts
      obtain ⟨b, part, rfl, hb, hc, rfl, hp⟩ := hts.part hu
      rw [← hspan, Position.offset_start_after] at hp
      obtain ⟨hchain, hlast⟩ := hm.places hus hd (congrArg Span.stop hp)
      refine ⟨?_, ?_, ?_⟩
      · intro d hd
        cases hd
        refine ⟨[], b, part ++ mid, rfl, rfl, ?_, hb⟩
        rw [hp, Position.offset_start_after]
      · simpa only [List.nil_append, List.append_assoc, List.map_cons] using hchain
      · simpa only [List.nil_append, List.append_assoc, List.map_cons] using hlast

theorem CommaBetween.lt {text : List Char} {m n : Nat} (h : CommaBetween text m n) : m < n := by
  obtain ⟨before, a, b, behind, -, rfl, rfl, -, -⟩ := h
  have hp := byteSize_pos (List.append_ne_nil_of_right_ne_nil a (List.cons_ne_nil ',' b))
  rw [byteSize_append before]
  omega

/-- The entry `d` ends before `e` begins, and `e` has a character. -/
def Entry.Precedes (d e : Entry) : Prop :=
  d.span.stop < e.span.start.offset ∧ e.span.start.offset < e.span.stop

instance : Trans Entry.Precedes Entry.Precedes Entry.Precedes where
  trans hd he := ⟨hd.1.trans (hd.2.trans he.1), he.2⟩

theorem pairwise_of_commas {text : List Char} {es : List Entry} (hw : ∀ e ∈ es, e.StandsIn text)
    (h : es.IsChain fun d e => CommaBetween text d.span.stop e.span.start.offset) :
    es.Pairwise fun d e => d.span.stop < e.span.start.offset := by
  have chain : es.IsChain Entry.Precedes := by
    refine (List.IsChain.iff_mem.1 h).imp ?_
    rintro d e ⟨-, he, hc⟩
    exact ⟨hc.lt, (hw e he).wide⟩
  exact chain.pairwise.imp And.left

theorem writes_of_parseEntries {text : String} {ts : List Token} {e : Token} {es : List Entry}
    (ht : tokenize text = ts ++ [e]) (hk : ∀ t ∈ ts, t.kind ≠ .eof) (he : e.kind = .eof)
    (h : parseEntries text = .ok es) : Writes ts es := by
  have hw : Writes ((tokenize text).takeWhile fun t => t.kind != .eof) es :=
    Parser.parse_eq_ok_iff.1 h
  have hts : ∀ t ∈ ts, (t.kind != .eof) = true := fun t htm => bne_iff_ne.2 (hk t htm)
  rwa [ht, List.takeWhile_append_of_pos hts, List.takeWhile_cons_of_neg (by simp [he]),
    List.append_nil] at hw

/-- Where a text is read, its entries stand in the text. -/
theorem entries_stand_in_text {text : String} {es : List Entry} (h : parseEntries text = .ok es) :
    EntriesStandIn text.toList es := by
  obtain ⟨ts, q, ds, hr, hd, ht⟩ := tokenize_reads text
  obtain ⟨hn, -⟩ := parseEntries_ok_iff.1 ⟨es, h, rfl⟩
  have hw : Writes ts es := writes_of_parseEntries ht hr.kind_ne_eof rfl h
  obtain ⟨hfirst, hbetween, hlast⟩ := hw.places hr hd
  have each : ∀ e ∈ es, e.StandsIn text.toList := by
    intro e he
    obtain ⟨xs, us, ys, rfl, hwe⟩ := hw.exists_tokens e he
    exact hwe.standsIn hr
  have commas := (List.isChain_map _).1 hbetween
  refine ⟨hn, each, pairwise_of_commas each commas, hfirst, commas, ?_⟩
  intro e he
  apply hlast
  rw [List.getLast?_map]
  exact Option.mem_map_of_mem _ he

/-- A letter of two bytes, a doubled quote, and a line feed within a call. -/
theorem entries_stand_in_text_of_call :
    parseEntries " \"é\"\"\" = now\n( ) ,b=key.x\t" = .ok
      [⟨.quoted "é\"\"" ⟨⟨1, 1, 2⟩, 7⟩, .call "now" ⟨⟨10, 1, 10⟩, 17⟩, ⟨⟨1, 1, 2⟩, 17⟩⟩,
        ⟨.literal "b" ⟨⟨19, 2, 6⟩, 20⟩, .name (.literal "key.x" ⟨⟨21, 2, 8⟩, 26⟩),
          ⟨⟨19, 2, 6⟩, 26⟩⟩] ∧
    EntriesStandIn " \"é\"\"\" = now\n( ) ,b=key.x\t".toList
      [⟨.quoted "é\"\"" ⟨⟨1, 1, 2⟩, 7⟩, .call "now" ⟨⟨10, 1, 10⟩, 17⟩, ⟨⟨1, 1, 2⟩, 17⟩⟩,
        ⟨.literal "b" ⟨⟨19, 2, 6⟩, 20⟩, .name (.literal "key.x" ⟨⟨21, 2, 8⟩, 26⟩),
          ⟨⟨19, 2, 6⟩, 26⟩⟩] := by
  have h : parseEntries " \"é\"\"\" = now\n( ) ,b=key.x\t" = .ok
      [⟨.quoted "é\"\"" ⟨⟨1, 1, 2⟩, 7⟩, .call "now" ⟨⟨10, 1, 10⟩, 17⟩, ⟨⟨1, 1, 2⟩, 17⟩⟩,
        ⟨.literal "b" ⟨⟨19, 2, 6⟩, 20⟩, .name (.literal "key.x" ⟨⟨21, 2, 8⟩, 26⟩),
          ⟨⟨19, 2, 6⟩, 26⟩⟩] := by cbv
  exact ⟨h, entries_stand_in_text h⟩

end ColumnBinding
