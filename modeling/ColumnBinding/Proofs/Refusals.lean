import ColumnBinding.Proofs.Beginnings

/-! Where a parser stops, and what it complains about. Main statement: it refuses the first token
that no mapping can go on with, and says what could have stood there. -/
namespace ColumnBinding

/-- The first end among tokens. Where there is none, one is made up: it starts and stops where the last
token stops, on the line and in the column of that token, or else where a text starts. -/
def endOf (ts : List Token) : Token :=
  match ts.find? fun t => t.kind == .eof, ts.getLast? with
  | some e, _ => e
  | none, some t => ⟨.eof, ⟨⟨t.span.stop, t.span.start.line, t.span.start.column⟩, t.span.stop⟩⟩
  | none, none => ⟨.eof, ⟨⟨0, 1, 1⟩, 0⟩⟩

/-- The tokens that count, with the end as the last one. -/
def upToEnd (ts : List Token) : List Token :=
  (ts.takeWhile fun t => t.kind != .eof) ++ [endOf ts]

theorem upToEnd_of_eof {t : Token} (h : t.kind = .eof) (ts : List Token) :
    upToEnd (t :: ts) = [t] := by
  simp only [upToEnd, endOf, List.takeWhile_cons, List.find?_cons, h, bne_self_eq_false, beq_self_eq_true,
    Bool.false_eq_true, if_false, List.nil_append]

theorem upToEnd_singleton {t : Token} (h : t.kind ≠ .eof) : upToEnd [t] = [t, t.endAfter] := by
  have hk := beq_eq_false_iff_ne.2 h
  simp only [upToEnd, endOf, bne, List.takeWhile_cons, List.find?_cons, hk, Bool.not_false, if_true,
    List.takeWhile_nil, List.find?_nil, List.getLast?_singleton]
  rfl

theorem upToEnd_cons {t : Token} (h : t.kind ≠ .eof) (u : Token) (ts : List Token) :
    upToEnd (t :: u :: ts) = t :: upToEnd (u :: ts) := by
  have hk := beq_eq_false_iff_ne.2 h
  simp only [upToEnd, endOf, bne, List.takeWhile_cons, List.find?_cons, hk, Bool.not_false, if_true,
    List.getLast?_cons_cons, List.cons_append]

theorem upToEnd_cons_of_ne_nil {t : Token} (h : t.kind ≠ .eof) {ts : List Token} (hn : ts ≠ []) :
    upToEnd (t :: ts) = t :: upToEnd ts := by
  obtain ⟨u, us, rfl⟩ := List.exists_cons_of_ne_nil hn
  exact upToEnd_cons h u us

theorem upToEnd_concat {ts : List Token} {e : Token} (h : ∀ t ∈ ts, t.kind ≠ .eof)
    (he : e.kind = .eof) : upToEnd (ts ++ [e]) = ts ++ [e] := by
  induction ts with
  | nil => exact upToEnd_of_eof he []
  | cons t ts ih =>
      rw [List.cons_append, upToEnd_cons_of_ne_nil (h t (.head _))
        (List.append_ne_nil_of_right_ne_nil ts (List.cons_ne_nil e [])),
        ih fun u hu => h u (.tail _ hu)]

theorem upToEnd_append_eof (before : List Token) {e : Token} (he : e.kind = .eof)
    (behind : List Token) : upToEnd (before ++ e :: behind) = upToEnd (before ++ [e]) := by
  induction before with
  | nil => exact (upToEnd_of_eof he behind).trans (upToEnd_of_eof he []).symm
  | cons t before ih =>
      by_cases ht : t.kind = .eof
      · exact (upToEnd_of_eof ht _).trans (upToEnd_of_eof ht _).symm
      · have hn : ∀ ts, before ++ e :: ts ≠ [] := fun ts =>
          List.append_ne_nil_of_right_ne_nil before (List.cons_ne_nil e ts)
        rw [List.cons_append, List.cons_append, upToEnd_cons_of_ne_nil ht (hn behind),
          upToEnd_cons_of_ne_nil ht (hn []), ih]

namespace Place

/-- What is wrong with a token that does not fit. A token that is no text of the language speaks for
itself. -/
def complaint (p : Place) (found : Kind) : String :=
  match found with
  | .invalid message => message
  | found => match p with
      | .column => "mismatched input " ++ found.describe ++ " expecting column"
      | .equals => "missing '=' at " ++ found.describe
      | .field => "mismatched input " ++ found.describe ++ " expecting field"
      | .closing => "mismatched input " ++ found.describe ++ " expecting ')'"
      | .separator _ | .ended =>
          "extraneous input " ++ found.describe ++ " expecting \x7b',', <EOF>\x7d"

/-- The error of a parser that is stopped by a token. -/
def refusal (p : Place) (t : Token) : SyntaxError :=
  ⟨p.complaint t.kind, t.span.start.line, t.span.start.column⟩

end Place

namespace Stage

/-- The stage without the names that are read. -/
def place : Stage → Place
  | .column => .column
  | .equals _ => .equals
  | .field _ => .field
  | .closing _ _ _ => .closing
  | .separator e => .separator e.field.isCallable

/-- Each step is one in the grammar, or the refusal of its place. -/
theorem next?_place (stage : Stage) (t : Token) :
    match stage.step t with
    | .next following => stage.place.next? t.kind = some following.place
    | .finish _ => stage.place.next? t.kind = some .column
    | .accept _ => stage.place.next? t.kind = some .ended
    | .reject error => stage.place.next? t.kind = none ∧ error = stage.place.refusal t := by
  obtain ⟨k, s⟩ := t
  cases stage with
  | separator e =>
      obtain ⟨c, f, span⟩ := e
      cases f with
      | name n => cases n <;> cases k <;> first | rfl | exact ⟨rfl, rfl⟩
      | call text u => cases k <;> first | rfl | exact ⟨rfl, rfl⟩
  | _ => cases k <;> first | rfl | exact ⟨rfl, rfl⟩

end Stage

namespace Parser

variable {σ : Type} [Supply σ]

/-- The tokens that a parser has before it, with the end. -/
def remaining (p : Parser σ) : List Token := upToEnd (p.current :: Supply.tokens p.supply)

theorem remaining_of_eof {p : Parser σ} (h : p.current.kind = .eof) : p.remaining = [p.current] :=
  upToEnd_of_eof h _

theorem remaining_of_ne_eof {p : Parser σ} (h : p.current.kind ≠ .eof) :
    p.remaining = p.current :: p.advance.remaining := by
  match hs : Supply.next? p.supply with
  | none =>
      have he : p.advance.remaining = [p.current.endAfter] := by
        rw [advance_of_none hs]
        exact remaining_of_eof rfl
      rw [he, remaining, Supply.tokens_of_none hs, upToEnd_singleton h]
  | some (t, r) =>
      rw [remaining, Supply.tokens_of_some hs, upToEnd_cons h, advance_of_some hs]
      rfl

theorem remaining_eq_cons (p : Parser σ) : ∃ ts, p.remaining = p.current :: ts := by
  by_cases h : p.current.kind = .eof
  · exact ⟨[], remaining_of_eof h⟩
  · exact ⟨_, remaining_of_ne_eof h⟩

theorem remaining_ofSupply (s : σ) : (ofSupply s).remaining = upToEnd (Supply.tokens s) := by
  rw [ofSupply]
  cases hs : Supply.next? s with
  | none =>
      rw [Supply.tokens_of_none hs]
      exact remaining_of_eof rfl
  | some tr =>
      obtain ⟨t, r⟩ := tr
      rw [Supply.tokens_of_some hs]
      rfl

/-- From a place on, the tokens `ts` are read up to one that is refused. -/
def RefusedFrom (place : Place) (ts : List Token) (error : SyntaxError) : Prop :=
  ∃ before t behind p, ts = before ++ t :: behind ∧ place.read (before.map Token.kind) = some p ∧
    p.next? t.kind = none ∧ error = p.refusal t

theorem refusedFrom_cons_of_none {place : Place} {t : Token} (h : place.next? t.kind = none)
    {ts : List Token} {error : SyntaxError} :
    RefusedFrom place (t :: ts) error ↔ error = place.refusal t := by
  constructor
  · rintro ⟨before, u, behind, p, hts, hr, hn, he⟩
    cases before with
    | nil =>
        cases hr
        cases hts
        exact he
    | cons v before =>
        cases hts
        rw [List.map_cons, Place.read_cons, h] at hr
        cases hr
  · intro he
    exact ⟨[], t, ts, place, rfl, rfl, h, he⟩

theorem refusedFrom_cons_of_some {place q : Place} {t : Token} (h : place.next? t.kind = some q)
    {ts : List Token} {error : SyntaxError} :
    RefusedFrom place (t :: ts) error ↔ RefusedFrom q ts error := by
  constructor
  · rintro ⟨before, u, behind, p, hts, hr, hn, he⟩
    cases before with
    | nil =>
        cases hr
        cases hts
        rw [h] at hn
        cases hn
    | cons v before =>
        cases hts
        rw [List.map_cons, Place.read_cons, h, Option.bind_some] at hr
        exact ⟨before, u, behind, p, rfl, hr, hn, he⟩
  · rintro ⟨before, u, behind, p, rfl, hr, hn, he⟩
    refine ⟨t :: before, u, behind, p, rfl, ?_, hn, he⟩
    rw [List.map_cons, Place.read_cons, h, Option.bind_some, hr]

theorem not_refusedFrom_nil {place : Place} {error : SyntaxError} : ¬ RefusedFrom place [] error := by
  rintro ⟨before, t, behind, p, hts, -⟩
  exact List.append_ne_nil_of_right_ne_nil before (List.cons_ne_nil t behind) hts.symm

theorem refusedFrom_append {place q : Place} {ts us : List Token} {error : SyntaxError}
    (h : place.read (ts.map Token.kind) = some q) :
    RefusedFrom place (ts ++ us) error ↔ RefusedFrom q us error := by
  induction ts generalizing place with
  | nil =>
      cases h
      rfl
  | cons t ts ih =>
      rw [List.map_cons, Place.read_cons, Option.bind_eq_some_iff] at h
      obtain ⟨p, hp, hq⟩ := h
      rw [List.cons_append, refusedFrom_cons_of_some hp, ih hq]

theorem refusedFrom_iff_getElem? {place : Place} {ts : List Token} {error : SyntaxError} :
    RefusedFrom place ts error ↔ ∃ i t p, ts[i]? = some t ∧
      place.read ((ts.map Token.kind).take i) = some p ∧ p.next? t.kind = none ∧
        error = p.refusal t := by
  constructor
  · rintro ⟨before, t, behind, p, rfl, hr, hn, he⟩
    refine ⟨before.length, t, p, ?_, ?_, hn, he⟩
    · rw [List.getElem?_append_right (Nat.le_refl _), Nat.sub_self]
      rfl
    · rwa [← List.map_take, List.take_left]
  · rintro ⟨i, t, p, ht, hr, hn, he⟩
    obtain ⟨hi, rfl⟩ := List.getElem?_eq_some_iff.1 ht
    refine ⟨ts.take i, ts[i], ts.drop (i + 1), p, ?_, ?_, hn, he⟩
    · rw [← List.drop_eq_getElem_cons hi, List.take_append_drop]
    · rwa [List.map_take]

/-- A run fails where the grammar goes on with none of the tokens that are left. -/
theorem run_eq_error_iff {p : Parser σ} {stage : Stage} {error : SyntaxError} :
    (p.run stage).1 = .error error ↔ RefusedFrom stage.place p.remaining error := by
  have hp := stage.next?_place p.current
  match hs : stage.step p.current with
  | .next following =>
      have hk := Stage.kind_of_next hs
      rw [hs] at hp
      rw [run_next hs, remaining_of_ne_eof hk, refusedFrom_cons_of_some hp]
      exact run_eq_error_iff
  | .finish e =>
      have hk := Stage.kind_of_finish hs
      rw [hs] at hp
      have ih : (p.advance.run .column).1 = .error error ↔
          RefusedFrom .column p.advance.remaining error := run_eq_error_iff
      rw [run_finish hs, remaining_of_ne_eof hk, refusedFrom_cons_of_some hp, ← ih]
      cases (p.advance.run .column).1 with
      | ok es =>
          constructor
          · intro h
            cases h
          · intro h
            cases h
      | error e => rfl
  | .accept e =>
      obtain ⟨hk, -⟩ := Stage.of_accept hs
      rw [hs] at hp
      rw [run_accept hs, remaining_of_eof hk, refusedFrom_cons_of_some hp]
      constructor
      · intro h
        cases h
      · intro h
        exact absurd h not_refusedFrom_nil
  | .reject refused =>
      rw [hs] at hp
      obtain ⟨hn, rfl⟩ := hp
      obtain ⟨ts, hts⟩ := p.remaining_eq_cons
      rw [run_reject hs, hts, refusedFrom_cons_of_none hn]
      constructor
      · intro h
        cases h
        rfl
      · intro h
        rw [h]
termination_by p.left
decreasing_by all_goals exact left_advance_lt hk

theorem parse_eq_error_iff {s : σ} {error : SyntaxError} : (ofSupply s).parse.1 = .error error ↔
    RefusedFrom .column (upToEnd (Supply.tokens s)) error := by
  rw [← remaining_ofSupply]
  exact run_eq_error_iff

end Parser

theorem upToEnd_tokenize (text : String) : upToEnd (tokenize text) = tokenize text := by
  obtain ⟨ts, q, bs, hr, -, he⟩ := tokenize_reads text
  rw [he]
  exact upToEnd_concat hr.kind_ne_eof rfl

theorem parseEntries_eq_error_iff {text : String} {error : SyntaxError} :
    parseEntries text = .error error ↔ Parser.RefusedFrom .column (tokenize text) error := by
  rw [parseEntries, Parser.parse_eq_error_iff]
  exact iff_of_eq (congrArg (Parser.RefusedFrom .column · error) (upToEnd_tokenize text))

theorem Begins.mono {ks ls : List Kind} (h : Begins ks) (hp : ls <+: ks) : Begins ls := by
  obtain ⟨es, hn, hes⟩ := h
  exact ⟨es, hn, (hp.map Kind.form).trans hes⟩

theorem begins_take {ks : List Kind} {i : Nat} {p : Place} (h : Place.column.read (ks.take i) = some p) :
    ∀ j ≤ i, Begins (ks.take j) :=
  fun _ hj => (begins_iff.2 ⟨p, h⟩).mono (List.take_prefix_take_left hj)

theorem not_begins {ks : List Kind} (h : Place.column.read ks = none) : ¬ Begins ks := by
  intro hb
  obtain ⟨p, hp⟩ := begins_iff.1 hb
  cases h.symm.trans hp

/-- A parser of tokens fails exactly where no mapping goes on. Of the tokens up to the end, the
first is refused with which no mapping begins any more, whatever the names are, though some mapping
begins with those before it. The error has the line and the column of this token, and tells what
could stand at its place in the grammar, unless the token speaks for itself. -/
theorem parse_refuses_first_misfit {ts : List Token} {error : SyntaxError} :
    (Parser.ofSupply ts).parse.1 = .error error ↔
      ∃ i t, (upToEnd ts)[i]? = some t ∧
        (∀ j ≤ i, Begins (((upToEnd ts).map Token.kind).take j)) ∧
        ¬ Begins (((upToEnd ts).map Token.kind).take (i + 1)) ∧
        error.line = t.span.start.line ∧ error.column = t.span.start.column ∧
        ∃ p : Place, p.Behind (((upToEnd ts).map Token.kind).take i) ∧
          error.message = p.complaint t.kind := by
  rw [Parser.parse_eq_error_iff, Supply.tokens_list, Parser.refusedFrom_iff_getElem?]
  generalize upToEnd ts = us
  have begins_succ : ∀ {i t p}, us[i]? = some t →
      Place.column.read ((us.map Token.kind).take i) = some p →
      (Begins ((us.map Token.kind).take (i + 1)) ↔ ∃ q, p.next? t.kind = some q) := by
    intro i t p ht hr
    rw [List.take_add_one, List.getElem?_map, ht, begins_iff]
    exact exists_congr fun q => by rw [← Place.read_concat hr]; rfl
  constructor
  · rintro ⟨i, t, p, ht, hr, hn, rfl⟩
    refine ⟨i, t, ht, begins_take hr, ?_, rfl, rfl, p, Place.read_eq_some_iff.1 hr, rfl⟩
    rw [begins_succ ht hr, hn]
    rintro ⟨q, hq⟩
    cases hq
  · rintro ⟨i, t, ht, -, hm, hl, hc, p, hp, he⟩
    have hr := hp.read_eq
    rw [begins_succ ht hr] at hm
    refine ⟨i, t, p, ht, hr, Option.eq_none_iff_forall_ne_some.2 fun q hq => hm ⟨q, hq⟩, ?_⟩
    obtain ⟨message, line, column⟩ := error
    cases hl
    cases hc
    cases he
    rfl

/-- A name without an end behind it, no tokens at all, and a token that speaks for itself. -/
theorem parse_refuses_first_misfit_of_no_end :
    (Parser.ofSupply [(⟨.literal "a", ⟨⟨3, 2, 1⟩, 4⟩⟩ : Token)]).parse.1 =
      .error ⟨"missing '=' at '<EOF>'", 2, 1⟩ ∧
    (Parser.ofSupply ([] : List Token)).parse.1 =
      .error ⟨"mismatched input '<EOF>' expecting column", 1, 1⟩ ∧
    (Parser.ofSupply [(⟨.literal "a", ⟨⟨0, 1, 1⟩, 1⟩⟩ : Token), ⟨.equals, ⟨⟨1, 1, 2⟩, 2⟩⟩,
      ⟨.invalid "what?", ⟨⟨2, 1, 3⟩, 3⟩⟩, ⟨.comma, ⟨⟨3, 1, 4⟩, 4⟩⟩]).parse.1 = .error ⟨"what?", 1, 3⟩ := by
  refine ⟨?_, ?_, ?_⟩
  · exact parse_refuses_first_misfit.2 ⟨1, ⟨.eof, ⟨⟨4, 2, 1⟩, 4⟩⟩, rfl, begins_take rfl, not_begins rfl,
      rfl, rfl, .equals, .equals [] (.literal "a" .zero), rfl⟩
  · exact parse_refuses_first_misfit.2 ⟨0, ⟨.eof, ⟨⟨0, 1, 1⟩, 0⟩⟩, rfl, begins_take rfl, not_begins rfl,
      rfl, rfl, .column, .column [], rfl⟩
  · exact parse_refuses_first_misfit.2 ⟨2, ⟨.invalid "what?", ⟨⟨2, 1, 3⟩, 3⟩⟩, rfl, begins_take rfl,
      not_begins rfl, rfl, rfl, .field, .field [] (.literal "a" .zero), rfl⟩

end ColumnBinding
