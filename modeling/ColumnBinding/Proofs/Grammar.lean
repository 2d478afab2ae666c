import ColumnBinding.Proofs.Lexing
import ColumnBinding.Entry.Parser
import Mathlib.Logic.Basic

/-! The grammar of a mapping as a relation between tokens and entries, apart from the order in
which a parser meets the tokens. Main statement: a parser returns entries exactly where the tokens
up to the end write them. -/
namespace ColumnBinding

/-- `WritesField ts f`: the tokens `ts` are the field `f`. -/
inductive WritesField : List Token → WrittenField → Prop
  | name {t n} : Stage.name? t = some n → WritesField [t] (.name n)
  | call {t l r text} : t.kind = .literal text → l.kind = .leftParen → r.kind = .rightParen →
      WritesField [t, l, r] (.call text (t.span.through r.span))

inductive WritesEntry : List Token → Entry → Prop
  | mk {t q fs c f} : Stage.name? t = some c → q.kind = .equals → WritesField fs f →
      WritesEntry (t :: q :: fs) (.of c f)

/-- Entries that follow another one, each behind a comma. -/
inductive WritesMore : List Token → List Entry → Prop
  | nil : WritesMore [] []
  | cons {s ts e us es} : s.kind = .comma → WritesEntry ts e → WritesMore us es →
      WritesMore (s :: (ts ++ us)) (e :: es)

/-- A whole mapping, which has one entry at least. -/
inductive Writes : List Token → List Entry → Prop
  | mk {ts e us es} : WritesEntry ts e → WritesMore us es → Writes (ts ++ us) (e :: es)

namespace Stage

/-- The rest of a call of which the name and the opening parenthesis are read. -/
inductive Closes (c : WrittenName) (text : String) (s : Span) : List Token → List Entry → Prop
  | mk {r us es} : r.kind = .rightParen → WritesMore us es →
      Closes c text s (r :: us) (.of c (.call text (s.through r.span)) :: es)

/-- The rest of a field, and the entries behind it. -/
inductive Fills (c : WrittenName) : List Token → List Entry → Prop
  | mk {fs f us es} : WritesField fs f → WritesMore us es → Fills c (fs ++ us) (.of c f :: es)

/-- `Owes stage ts es`: at a stage, the tokens `ts` are what is missing of the entries `es`. -/
def Owes : Stage → List Token → List Entry → Prop
  | .column, ts, es => Writes ts es
  | .equals c, ts, es => ∃ q us, ts = q :: us ∧ q.kind = .equals ∧ Fills c us es
  | .field c, ts, es => Fills c ts es
  | .closing c text s, ts, es => Closes c text s ts es
  | .separator e, ts, es => (∃ fs, WritesMore ts fs ∧ es = e :: fs) ∨
      ∃ c text s span l us, e = ⟨c, .name (.literal text s), span⟩ ∧ ts = l :: us ∧
        l.kind = .leftParen ∧ Closes c text s us es

theorem owes_nil {stage : Stage} {es : List Entry} :
    stage.Owes [] es ↔ ∃ e, stage = .separator e ∧ es = [e] := by
  constructor
  · intro h
    cases stage with
    | column =>
        generalize hn : [] = ts at h
        cases h with
        | mk he _ => cases he; cases hn
    | equals c => obtain ⟨_, _, hn, _⟩ := h; cases hn
    | field c =>
        generalize hn : [] = ts at h
        cases h with
        | mk hf _ => cases hf <;> cases hn
    | closing c text s => cases h
    | separator e =>
        rcases h with ⟨_, hm, rfl⟩ | ⟨_, _, _, _, _, _, _, hn, _⟩
        · cases hm
          exact ⟨e, rfl, rfl⟩
        · cases hn
  · rintro ⟨e, rfl, rfl⟩
    exact .inl ⟨[], .nil, rfl⟩

/-- What a token can do other than be refused. -/
inductive Fits : Stage → Token → Step → Prop
  | column {t c} : name? t = some c → Fits .column t (.next (.equals c))
  | equals {t c} : t.kind = .equals → Fits (.equals c) t (.next (.field c))
  | field {t c n} : name? t = some n → Fits (.field c) t (.next (.separator (.of c (.name n))))
  | opening {t c text s span} : t.kind = .leftParen →
      Fits (.separator ⟨c, .name (.literal text s), span⟩) t (.next (.closing c text s))
  | closing {t c text s} : t.kind = .rightParen →
      Fits (.closing c text s) t (.next (.separator (.of c (.call text (s.through t.span)))))
  | comma {t e} : t.kind = .comma → Fits (.separator e) t (.finish e)
  | eof {t e} : t.kind = .eof → Fits (.separator e) t (.accept e)

theorem Fits.step_eq {stage : Stage} {t : Token} {s : Step} (h : Fits stage t s) :
    stage.step t = s := by
  cases h with
  | column h => simp only [step, h]
  | equals h => simp only [step, h]
  | field h => simp only [step, h]
  | opening h => simp only [step, h]
  | closing h => simp only [step, h]
  | comma h => simp only [step, h]
  | eof h => simp only [step, h]

theorem step_cases (stage : Stage) (t : Token) :
    Fits stage t (stage.step t) ∨ stage.step t = stage.reject t := by
  unfold step
  split
  · split
    · next h => exact .inl (.column h)
    · exact .inr rfl
  · next h => exact .inl (.equals h)
  · split
    · next h => exact .inl (.field h)
    · exact .inr rfl
  · next h => exact .inl (.closing h)
  · next h => exact .inl (.comma h)
  · next h => exact .inl (.eof h)
  · next h => exact .inl (.opening h)
  · exact .inr rfl

end Stage

/-- What is missing of the entries once a token has done its step. -/
def Step.Leaves : Step → List Token → List Entry → Prop
  | .next stage, ts, es => stage.Owes ts es
  | .finish e, ts, es => ∃ fs, Writes ts fs ∧ es = e :: fs
  | .accept _, _, _ => False
  | .reject _, _, _ => False

namespace Stage

theorem Fits.owes {stage : Stage} {t : Token} {s : Step} {ts : List Token} {es : List Entry}
    (h : Fits stage t s) (hl : s.Leaves ts es) : stage.Owes (t :: ts) es := by
  cases h with
  | column hc =>
      obtain ⟨q, us, rfl, hq, hf⟩ := hl
      cases hf with
      | mk hf hm => exact .mk (.mk hc hq hf) hm
  | equals hq => exact ⟨t, ts, rfl, hq, hl⟩
  | field hn =>
      rcases hl with ⟨fs, hm, rfl⟩ | ⟨c, text, s, span, l, us, he, rfl, hp, hc⟩
      · exact .mk (.name hn) hm
      · -- a parenthesis follows, so the name that was read is that of a call
        cases he
        have hk : t.kind = .literal text ∧ s = t.span := by
          unfold name? at hn
          split at hn <;> cases hn
          next hk => exact ⟨hk, rfl⟩
        obtain ⟨hk, rfl⟩ := hk
        cases hc with
        | mk hr hm => exact .mk (.call hk hp hr) hm
  | opening hp => exact .inr ⟨_, _, _, _, t, ts, rfl, rfl, hp, hl⟩
  | closing hr =>
      rcases hl with ⟨fs, hm, rfl⟩ | ⟨_, _, _, _, _, _, he, _⟩
      · exact .mk hr hm
      · cases he
  | comma hs =>
      obtain ⟨fs, hw, rfl⟩ := hl
      cases hw with
      | mk he hm => exact .inl ⟨_, .cons hs he hm, rfl⟩
  | eof => exact hl.elim

theorem fits_of_owes {stage : Stage} {t : Token} {ts : List Token} {es : List Entry}
    (h : stage.Owes (t :: ts) es) : ∃ s, Fits stage t s ∧ s.Leaves ts es := by
  cases stage with
  | column =>
      generalize hts : t :: ts = us at h
      cases h with
      | mk he hm =>
          cases he with
          | mk hc hq hf =>
              cases hts
              exact ⟨_, .column hc, _, _, rfl, hq, .mk hf hm⟩
  | equals c =>
      obtain ⟨q, us, hts, hq, hf⟩ := h
      cases hts
      exact ⟨_, .equals hq, hf⟩
  | field c =>
      generalize hts : t :: ts = us at h
      cases h with
      | mk hf hm =>
          cases hf with
          | name hn =>
              cases hts
              exact ⟨_, .field hn, .inl ⟨_, hm, rfl⟩⟩
          | @call _ _ _ text hk hl hr =>
              cases hts
              have hn : name? t = some (.literal text t.span) := by simp only [name?, hk]
              exact ⟨_, .field hn, .inr ⟨_, _, _, _, _, _, rfl, rfl, hl, .mk hr hm⟩⟩
  | closing c text s =>
      cases h with
      | mk hr hm => exact ⟨_, .closing hr, .inl ⟨_, hm, rfl⟩⟩
  | separator e =>
      rcases h with ⟨fs, hm, rfl⟩ | ⟨c, text, s, span, l, us, rfl, hts, hl, hc⟩
      · cases hm with
        | cons hs he hm => exact ⟨_, .comma hs, _, .mk he hm, rfl⟩
      · cases hts
        exact ⟨_, .opening hl, hc⟩

theorem owes_cons {stage : Stage} {t : Token} {ts : List Token} {es : List Entry} :
    stage.Owes (t :: ts) es ↔ (stage.step t).Leaves ts es := by
  constructor
  · intro h
    obtain ⟨s, hf, hl⟩ := fits_of_owes h
    rwa [hf.step_eq]
  · intro h
    rcases step_cases stage t with hf | hr
    · exact hf.owes h
    · rw [hr] at h
      exact h.elim

theorem of_accept {stage : Stage} {t : Token} {e : Entry} (h : stage.step t = .accept e) :
    t.kind = .eof ∧ stage = .separator e := by
  rcases step_cases stage t with hf | hr
  · rw [h] at hf
    cases hf with
    | eof hk => exact ⟨hk, rfl⟩
  · rw [h] at hr
    cases hr

end Stage

namespace Parser

variable {σ : Type} [Supply σ]

/-- The tokens up to the end. -/
def body (p : Parser σ) : List Token :=
  (p.current :: Supply.tokens p.supply).takeWhile fun t => t.kind != .eof

theorem body_of_eof {p : Parser σ} (h : p.current.kind = .eof) : p.body = [] := by
  rw [body, List.takeWhile_cons, h]
  rfl

theorem body_of_ne_eof {p : Parser σ} (h : p.current.kind ≠ .eof) :
    p.body = p.current :: p.advance.body := by
  rw [body, List.takeWhile_cons, if_pos (bne_iff_ne.2 h)]
  match hs : Supply.next? p.supply with
  | none =>
      rw [Supply.tokens_of_none hs, advance_of_none hs, body_of_eof rfl]
      rfl
  | some (t, r) =>
      rw [Supply.tokens_of_some hs, advance_of_some hs]
      rfl

/-- A run returns entries exactly where its stage owes the tokens up to the end. -/
theorem run_eq_ok_iff {p : Parser σ} {stage : Stage} {es : List Entry} :
    (p.run stage).1 = .ok es ↔ stage.Owes p.body es := by
  -- one step on each side; where the end is the current token, nothing is owed but an entry
  match hs : stage.step p.current with
  | .next following =>
      have hk := Stage.kind_of_next hs
      rw [run_next hs, body_of_ne_eof hk, Stage.owes_cons, hs]
      exact run_eq_ok_iff
  | .finish e =>
      have hk := Stage.kind_of_finish hs
      have ih : ∀ fs, (p.advance.run .column).1 = .ok fs ↔ Writes p.advance.body fs :=
        fun fs => run_eq_ok_iff
      rw [run_finish hs, body_of_ne_eof hk, Stage.owes_cons, hs]
      constructor
      · intro h
        match hr : (p.advance.run .column).1 with
        | .ok fs =>
            rw [hr] at h
            cases h
            exact ⟨fs, (ih fs).1 hr, rfl⟩
        | .error error =>
            rw [hr] at h
            cases h
      · rintro ⟨fs, hw, rfl⟩
        rw [(ih fs).2 hw]
        rfl
  | .accept e =>
      obtain ⟨hk, he⟩ := Stage.of_accept hs
      rw [run_accept hs, body_of_eof hk, Stage.owes_nil, he]
      constructor
      · intro h
        cases h
        exact ⟨e, rfl, rfl⟩
      · rintro ⟨_, hf, rfl⟩
        cases hf
        rfl
  | .reject error =>
      rw [run_reject hs]
      constructor
      · intro h
        cases h
      · intro h
        by_cases hk : p.current.kind = .eof
        · rw [body_of_eof hk] at h
          obtain ⟨e, rfl, -⟩ := Stage.owes_nil.1 h
          rw [(Stage.Fits.eof hk).step_eq] at hs
          cases hs
        · rw [body_of_ne_eof hk, Stage.owes_cons, hs] at h
          exact h.elim
termination_by p.left
decreasing_by all_goals exact left_advance_lt hk

/-- A parser over any supply returns the entries that the tokens before the first end write. -/
theorem parse_eq_ok_iff {s : σ} {es : List Entry} : (ofSupply s).parse.1 = .ok es ↔
    Writes ((Supply.tokens s).takeWhile fun t => t.kind != .eof) es := by
  have hb : (ofSupply s).body = (Supply.tokens s).takeWhile fun t => t.kind != .eof := by
    rw [ofSupply]
    match hs : Supply.next? s with
    | none =>
        rw [Supply.tokens_of_none hs]
        rfl
    | some (t, r) =>
        rw [Supply.tokens_of_some hs]
        rfl
  rw [← hb]
  exact run_eq_ok_iff

end Parser

/-! The grammar of token kinds: what entries are written as, whatever their places. -/

def WrittenName.kind : WrittenName → Kind
  | .literal text _ => .literal text
  | .quoted inner _ => .quoted inner

def WrittenField.kinds : WrittenField → List Kind
  | .name n => [n.kind]
  | .call function _ => [.literal function, .leftParen, .rightParen]

def Entry.kinds (e : Entry) : List Kind := e.column.kind :: .equals :: e.field.kinds

/-- The kinds of tokens that write entries, with a comma between two entries. -/
def flatten (es : List Entry) : List Kind := [Kind.comma].intercalate (es.map Entry.kinds)

def WrittenName.unplaced : WrittenName → WrittenName
  | .literal text _ => .literal text .zero
  | .quoted inner _ => .quoted inner .zero

def WrittenField.unplaced : WrittenField → WrittenField
  | .name n => .name n.unplaced
  | .call function _ => .call function .zero

/-- The entry without regard to where it stands. -/
def Entry.unplaced (e : Entry) : Entry := .of e.column.unplaced e.field.unplaced

theorem intercalate_cons {α : Type} (sep xs : List α) (xss : List (List α)) :
    sep.intercalate (xs :: xss) = xs ++ xss.flatMap (sep ++ ·) := by
  induction xss generalizing xs with
  | nil => rw [List.intercalate_singleton, List.flatMap_nil, List.append_nil]
  | cons ys xss ih =>
      rw [List.intercalate_cons_cons, ih, List.flatMap_cons, List.append_assoc, List.append_assoc]

theorem flatten_cons (e : Entry) (es : List Entry) :
    flatten (e :: es) = e.kinds ++ es.flatMap fun f => .comma :: f.kinds := by
  rw [flatten, List.map_cons, intercalate_cons, List.flatMap_map]
  rfl

namespace Stage

theorem kind_of_name? {t : Token} {n : WrittenName} (h : name? t = some n) : t.kind = n.kind := by
  unfold name? at h
  split at h <;> cases h <;> assumption

theorem exists_name? {t : Token} {n : WrittenName} (h : t.kind = n.kind) :
    ∃ m, name? t = some m ∧ m.unplaced = n.unplaced := by
  cases n with
  | literal text s => exact ⟨.literal text t.span, by simp only [name?, h, WrittenName.kind], rfl⟩
  | quoted inner s => exact ⟨.quoted inner t.span, by simp only [name?, h, WrittenName.kind], rfl⟩

end Stage

theorem WritesField.kinds_eq {ts : List Token} {f : WrittenField} (h : WritesField ts f) :
    ts.map Token.kind = f.kinds := by
  cases h with
  | name hn => simp only [List.map_cons, List.map_nil, Stage.kind_of_name? hn, WrittenField.kinds]
  | call hk hl hr => simp only [List.map_cons, List.map_nil, hk, hl, hr, WrittenField.kinds]

theorem WritesEntry.kinds_eq {ts : List Token} {e : Entry} (h : WritesEntry ts e) :
    ts.map Token.kind = e.kinds := by
  cases h with
  | mk hc hq hf =>
      simp only [List.map_cons, Stage.kind_of_name? hc, hq, hf.kinds_eq, Entry.kinds, Entry.of]

theorem WritesMore.kinds_eq {ts : List Token} {es : List Entry} (h : WritesMore ts es) :
    ts.map Token.kind = es.flatMap fun f => .comma :: f.kinds := by
  induction h with
  | nil => rfl
  | cons hs he _ ih =>
      simp only [List.map_cons, List.map_append, hs, he.kinds_eq, ih, List.flatMap_cons,
        List.cons_append]

theorem Writes.kinds_eq {ts : List Token} {es : List Entry} (h : Writes ts es) :
    es ≠ [] ∧ ts.map Token.kind = flatten es := by
  cases h with
  | mk he hm =>
      refine ⟨List.cons_ne_nil _ _, ?_⟩
      rw [List.map_append, he.kinds_eq, hm.kinds_eq, flatten_cons]

theorem exists_writesField {ts : List Token} {f : WrittenField} (h : ts.map Token.kind = f.kinds) :
    ∃ g, WritesField ts g ∧ g.unplaced = f.unplaced := by
  cases f with
  | name n =>
      obtain ⟨t, us, rfl, hk, hu⟩ := List.map_eq_cons_iff.1 h
      cases List.map_eq_nil_iff.1 hu
      obtain ⟨m, hm, he⟩ := Stage.exists_name? hk
      exact ⟨_, .name hm, congrArg WrittenField.name he⟩
  | call text s =>
      obtain ⟨t, us, rfl, hk, hu⟩ := List.map_eq_cons_iff.1 h
      obtain ⟨l, us, rfl, hl, hu⟩ := List.map_eq_cons_iff.1 hu
      obtain ⟨r, us, rfl, hr, hu⟩ := List.map_eq_cons_iff.1 hu
      cases List.map_eq_nil_iff.1 hu
      exact ⟨_, .call hk hl hr, rfl⟩

theorem exists_writesEntry {ts : List Token} {e : Entry} (h : ts.map Token.kind = e.kinds) :
    ∃ d, WritesEntry ts d ∧ d.unplaced = e.unplaced := by
  obtain ⟨t, us, rfl, hk, hu⟩ := List.map_eq_cons_iff.1 h
  obtain ⟨q, us, rfl, hq, hu⟩ := List.map_eq_cons_iff.1 hu
  obtain ⟨c, hc, hce⟩ := Stage.exists_name? hk
  obtain ⟨f, hf, hfe⟩ := exists_writesField hu
  exact ⟨_, .mk hc hq hf, congrArg₂ Entry.of hce hfe⟩

theorem exists_writesMore {ts : List Token} {es : List Entry}
    (h : ts.map Token.kind = es.flatMap fun f => .comma :: f.kinds) :
    ∃ ds, WritesMore ts ds ∧ ds.map Entry.unplaced = es.map Entry.unplaced := by
  induction es generalizing ts with
  | nil =>
      cases List.map_eq_nil_iff.1 h
      exact ⟨[], .nil, rfl⟩
  | cons e es ih =>
      rw [List.flatMap_cons, List.cons_append] at h
      obtain ⟨s, us, rfl, hs, hu⟩ := List.map_eq_cons_iff.1 h
      obtain ⟨fs, us, rfl, hf, hu⟩ := List.map_eq_append_iff.1 hu
      obtain ⟨d, hd, hde⟩ := exists_writesEntry hf
      obtain ⟨ds, hm, hme⟩ := ih hu
      exact ⟨d :: ds, .cons hs hd hm, congrArg₂ List.cons hde hme⟩

theorem exists_writes {ts : List Token} {es : List Entry} (hn : es ≠ [])
    (h : ts.map Token.kind = flatten es) :
    ∃ ds, Writes ts ds ∧ ds.map Entry.unplaced = es.map Entry.unplaced := by
  cases es with
  | nil => exact absurd rfl hn
  | cons e es =>
      rw [flatten_cons] at h
      obtain ⟨fs, us, rfl, hf, hu⟩ := List.map_eq_append_iff.1 h
      obtain ⟨d, hd, hde⟩ := exists_writesEntry hf
      obtain ⟨ds, hm, hme⟩ := exists_writesMore hu
      exact ⟨d :: ds, .mk hd hm, congrArg₂ List.cons hde hme⟩

@[simp] theorem Entry.kinds_unplaced (e : Entry) : e.unplaced.kinds = e.kinds := by
  obtain ⟨c, f, s⟩ := e
  cases c <;> cases f with
  | name n => cases n <;> rfl
  | call text t => rfl

theorem flatten_congr {ds es : List Entry}
    (h : ds.map Entry.unplaced = es.map Entry.unplaced) : flatten ds = flatten es := by
  have same : ∀ es : List Entry, es.map Entry.kinds = (es.map Entry.unplaced).map Entry.kinds := by
    intro es
    rw [List.map_map]
    apply List.map_congr_left
    intro e _
    exact (Entry.kinds_unplaced e).symm
  rw [flatten, flatten, same ds, same es, h]

theorem exists_writes_iff {ts : List Token} {es : List Entry} :
    (∃ ds, Writes ts ds ∧ ds.map Entry.unplaced = es.map Entry.unplaced) ↔
      es ≠ [] ∧ ts.map Token.kind = flatten es := by
  constructor
  · rintro ⟨ds, hw, he⟩
    obtain ⟨hn, hk⟩ := hw.kinds_eq
    refine ⟨?_, hk.trans (flatten_congr he)⟩
    rintro rfl
    exact hn (List.map_eq_nil_iff.1 he)
  · rintro ⟨hn, hk⟩
    exact exists_writes hn hk

/-- The kinds of the tokens before the first end, or of all where there is none. -/
def kindsBeforeEnd (ts : List Token) : List Kind :=
  (ts.map Token.kind).takeWhile fun k => k != .eof

theorem map_kind_takeWhile (ts : List Token) :
    (ts.takeWhile fun t => t.kind != .eof).map Token.kind = kindsBeforeEnd ts := by
  rw [kindsBeforeEnd, List.takeWhile_map]
  rfl

theorem map_kind_tokenize (text : String) :
    (tokenize text).map Token.kind = kindsBeforeEnd (tokenize text) ++ [.eof] := by
  obtain ⟨ts, q, bs, hr, -, he⟩ := tokenize_reads text
  have hk : ∀ k ∈ ts.map Token.kind, (k != .eof) = true := by
    intro k hk
    obtain ⟨t, ht, rfl⟩ := List.mem_map.1 hk
    exact bne_iff_ne.2 (hr.kind_ne_eof t ht)
  rw [he, kindsBeforeEnd, List.map_append, List.takeWhile_append_of_pos hk, List.append_assoc]
  rfl

theorem parse_ok_iff {ts : List Token} {es : List Entry} :
    (∃ ds, (Parser.ofSupply ts).parse.1 = .ok ds ∧
      ds.map Entry.unplaced = es.map Entry.unplaced) ↔
    es ≠ [] ∧ kindsBeforeEnd ts = flatten es := by
  simp only [Parser.parse_eq_ok_iff, Supply.tokens_list, exists_writes_iff, map_kind_takeWhile]

theorem parseEntries_ok_iff {text : String} {es : List Entry} :
    (∃ ds, parseEntries text = .ok ds ∧ ds.map Entry.unplaced = es.map Entry.unplaced) ↔
    es ≠ [] ∧ (tokenize text).map Token.kind = flatten es ++ [.eof] := by
  rw [map_kind_tokenize, List.append_cancel_right_eq]
  simp only [parseEntries, Parser.parse_eq_ok_iff, exists_writes_iff, map_kind_takeWhile]
  rfl

/-- A parser accepts exactly the token kinds of the grammar, and returns what they spell: for all
tokens and all entries, it returns these entries, up to their places, if and only if there is an
entry and the kinds before the first end are theirs. A text is read so if and only if its tokens
are of these kinds, and then the end. -/
theorem parse_exactly_flatten :
    (∀ (ts : List Token) (es : List Entry),
      (∃ ds, (Parser.ofSupply ts).parse.1 = .ok ds ∧
        ds.map Entry.unplaced = es.map Entry.unplaced) ↔
      es ≠ [] ∧ kindsBeforeEnd ts = flatten es) ∧
    ∀ (text : String) (es : List Entry),
      (∃ ds, parseEntries text = .ok ds ∧ ds.map Entry.unplaced = es.map Entry.unplaced) ↔
      es ≠ [] ∧ (tokenize text).map Token.kind = flatten es ++ [.eof] := by
  constructor
  · intro ts es
    exact parse_ok_iff
  · intro text es
    exact parseEntries_ok_iff

end ColumnBinding
