import ColumnBinding.Proofs.Parts
import ColumnBinding.Proofs.PrintedText
import ColumnBinding.Proofs.Refusals
import ColumnBinding.Proofs.TokenPlaces
import Mathlib

/-! Two mapping texts with a comma between them. No token reaches across the comma, and what follows
it is read as if it stood alone, at places that are shifted. Main statement: behind a text that
compiles and a comma, another text adds its own table and its own errors, or fails as it does alone. -/
namespace ColumnBinding

namespace Position

/-- The place `q` of a text, where the text itself begins at the place `p`. -/
def shift (p q : Position) : Position where
  offset := p.offset + q.offset
  line := p.line + q.line - 1
  column := if q.line = 1 then p.column + q.column - 1 else q.column

theorem shift_start (p : Position) : p.shift start = p := by
  cases p
  rfl

theorem shift_next (p : Position) {q : Position} (hl : 0 < q.line) (hc : 0 < q.column) (c : Char) :
    p.shift (q.next c) = (p.shift q).next c := by
  unfold next
  split
  · have h1 : q.line + 1 ≠ 1 := by omega
    simp only [shift, if_neg h1, mk.injEq, and_true]
    omega
  · simp only [shift, mk.injEq, true_and]
    split
    · omega
    · omega

theorem shift_after (p : Position) (cs : List Char) : p.shift (start.after cs) = p.after cs := by
  induction cs using List.reverseRecOn with
  | nil => exact p.shift_start
  | append_singleton cs c ih =>
      have hl : 0 < (start.after cs).line := by
        rw [after_line]
        exact Nat.add_pos_left Nat.one_pos _
      have hc : 0 < (start.after cs).column := by
        rw [column_after]
        exact Nat.add_pos_left Nat.one_pos _
      rw [after_append, after_append, ← ih]
      exact shift_next p hl hc c

end Position

/-- The token of a text, where the text itself begins at the place `p`. -/
def Token.shift (p : Position) (t : Token) : Token :=
  ⟨t.kind, ⟨p.shift t.span.start, p.offset + t.span.stop⟩⟩

theorem Token.shift_mk (p : Position) (k : Kind) (q r : Position) :
    Token.shift p ⟨k, ⟨q, r.offset⟩⟩ = ⟨k, ⟨p.shift q, (p.shift r).offset⟩⟩ := rfl

theorem Token.shift_endAt (p : Position) (before bs : List Char) :
    Token.shift p (endAt (Position.start.after before) bs) =
      endAt (p.shift (Position.start.after before)) bs := by
  rw [endAt, endAt, Token.shift_mk, ← Position.after_append, Position.shift_after,
    Position.shift_after, Position.after_append]

theorem Spells.append {k : Kind} {cs rest ds : List Char} (h : Spells k cs rest) (hk : k ≠ .eof)
    (hv : ∀ m, k ≠ .invalid m) (hd : EndsName ds) : Spells k cs (rest ++ ds) := by
  refine h.before_other ?_ ?_
  · rintro (he | ⟨inner, hu⟩)
    · exact absurd he hk
    · exact absurd hu (hv _)
  · intro c hc
    cases rest with
    | nil => exact .inr (hd c hc)
    | cons d rest => exact .inl hc

namespace Reads

variable {p q r : Position} {cs ds es : List Char} {ts us : List Token}

theorem append (h : Reads p cs ts q ds) (hv : ∀ t ∈ ts, ∀ m, t.kind ≠ .invalid m)
    (he : EndsName es) : Reads p (cs ++ es) ts q (ds ++ es) := by
  induction h with
  | nil => exact .nil
  | @cons p bs cs k rest ts q behind hb hs hk _ ih =>
      rw [List.append_assoc, List.append_assoc]
      exact .cons hb (hs.append hk (hv _ (.head _)) he) hk (ih fun t ht => hv t (.tail _ ht))

theorem trans (h : Reads p cs ts q ds) (g : Reads q ds us r es) : Reads p cs (ts ++ us) r es := by
  induction h with
  | nil => exact g
  | cons hb hs hk _ ih => exact .cons hb hs hk (ih g)

theorem shift (h : Reads q cs ts r ds) (p : Position) (before : List Char)
    (hq : q = Position.start.after before) :
    Reads (p.shift q) cs (ts.map (Token.shift p)) (p.shift r) ds := by
  induction h generalizing before with
  | nil => exact .nil
  | @cons q bs cs k rest ts r behind hb hs hk _ ih =>
      subst hq
      have hr := ih (before ++ bs ++ cs) (by simp only [Position.after_append])
      simp only [List.map_cons, Token.shift_mk, ← Position.after_append, Position.shift_after]
        at hr ⊢
      simp only [Position.after_append] at hr ⊢
      exact .cons hb hs hk hr

end Reads

/-- Behind a text of tokens and a comma, the tokens of a text are only shifted. -/
theorem tokenize_append_comma {a b : String} {p : Position}
    (hp : p = Position.start.after (a ++ ",").toList)
    (hv : ∀ t ∈ tokenize a, ∀ m, t.kind ≠ .invalid m) :
    ∃ ts e s, tokenize a = ts ++ [e] ∧ e.kind = .eof ∧
      tokenize (a ++ "," ++ b) = ts ++ [⟨.comma, s⟩] ++ (tokenize b).map (Token.shift p) := by
  obtain ⟨ts, q, bs, hr, hb, ha⟩ := tokenize_reads a
  obtain ⟨us, r, ds, hs, hd, hu⟩ := tokenize_reads b
  obtain ⟨taken, hta, rfl⟩ := hr.consumed
  obtain ⟨rest, -, rfl⟩ := hs.consumed
  have hq : ",".toList = [','] := by decide
  have hc : p = ((Position.start.after taken).after bs).after [','] := by
    rw [hp, String.toList_append, hq, hta, Position.after_append, Position.after_append]
  have ht : (a ++ "," ++ b).toList = a.toList ++ ',' :: b.toList := by
    rw [String.toList_append, String.toList_append, hq, List.append_assoc]
    rfl
  have valid : ∀ t ∈ ts, ∀ m, t.kind ≠ .invalid m := by
    intro t hm
    refine hv t ?_
    rw [ha]
    exact List.mem_append_left _ hm
  have first : Reads .start (a ++ "," ++ b).toList ts (Position.start.after taken)
      (bs ++ ([','] ++ b.toList)) := by
    rw [ht]
    exact hr.append valid (endsName_of_mark .comma _)
  have comma : Reads (Position.start.after taken) (bs ++ ([','] ++ b.toList))
      [⟨.comma, ⟨(Position.start.after taken).after bs, p.offset⟩⟩] p b.toList := by
    rw [hc]
    exact .cons hb (.mark .comma) IsMark.comma.ne_eof .nil
  have second : Reads p b.toList (us.map (Token.shift p)) (p.shift (Position.start.after rest))
      ds := by
    have h := hs.shift p [] rfl
    rwa [Position.shift_start] at h
  refine ⟨ts, _, ⟨(Position.start.after taken).after bs, p.offset⟩, ha, rfl, ?_⟩
  calc tokenize (a ++ "," ++ b)
      = ts ++ [_] ++ us.map (Token.shift p) ++ [endAt (p.shift (Position.start.after rest)) ds] :=
        Lexer.tokens_of_reads ((first.trans comma).trans second) hd
    _ = ts ++ [_] ++ (tokenize b).map (Token.shift p) := by
        rw [hu, List.map_append, List.map_singleton, Token.shift_endAt, List.append_assoc _ (us.map _)]

theorem tokenize_behind_entries {a b : String} {p : Position} {es : List Entry}
    (hp : p = Position.start.after (a ++ ",").toList) (hn : es ≠ [])
    (hk : (tokenize a).map Token.kind = flatten es ++ [.eof]) :
    ∃ ts, ts.map Token.kind = leading es ∧
      tokenize (a ++ "," ++ b) = ts ++ (tokenize b).map (Token.shift p) := by
  have hv : ∀ t ∈ tokenize a, ∀ message, t.kind ≠ .invalid message := by
    intro t ht
    apply Place.ne_invalid_of_read (Place.read_flatten hn)
    rw [← hk]
    exact List.mem_map_of_mem ht
  obtain ⟨ts, e, s, ha, he, hc⟩ := tokenize_append_comma (b := b) hp hv
  have hts : ts.map Token.kind = flatten es := by
    rw [ha, List.map_append, List.map_singleton, he] at hk
    exact List.append_cancel_right hk
  refine ⟨ts ++ [⟨.comma, s⟩], ?_, hc⟩
  rw [List.map_append, hts, ← flatten_append_comma hn]
  rfl

theorem map_kind_shift (p : Position) (ts : List Token) :
    (ts.map (Token.shift p)).map Token.kind = ts.map Token.kind := List.map_map

theorem kinds_append_comma {a b : String} {es fs : List Entry} (he : es ≠ []) (hf : fs ≠ [])
    (ha : (tokenize a).map Token.kind = flatten es ++ [.eof])
    (hb : (tokenize b).map Token.kind = flatten fs ++ [.eof]) :
    (tokenize (a ++ "," ++ b)).map Token.kind = flatten (es ++ fs) ++ [.eof] := by
  obtain ⟨ts, hts, hc⟩ := tokenize_behind_entries (b := b) rfl he ha
  rw [hc, List.map_append, hts, map_kind_shift, hb, flatten_append es hf, List.append_assoc]

/-- The error of a text that itself begins at the place `p`. -/
def SyntaxError.shift (p : Position) (e : SyntaxError) : SyntaxError where
  message := e.message
  line := p.line + e.line - 1
  column := if e.line = 1 then p.column + e.column - 1 else e.column

theorem Parser.RefusedFrom.shift {place : Place} {ts : List Token} {error : SyntaxError}
    (h : RefusedFrom place ts error) (p : Position) :
    RefusedFrom place (ts.map (Token.shift p)) (error.shift p) := by
  obtain ⟨before, t, behind, q, rfl, hr, hn, rfl⟩ := h
  refine ⟨before.map (Token.shift p), t.shift p, behind.map (Token.shift p), q, ?_, ?_, hn, rfl⟩
  · rw [List.map_append, List.map_cons]
  · rwa [map_kind_shift]

theorem parseEntries_append_comma_error {a b : String} {p : Position} {es : List Entry}
    {error : SyntaxError} (hp : p = Position.start.after (a ++ ",").toList) (hn : es ≠ [])
    (hk : (tokenize a).map Token.kind = flatten es ++ [.eof]) (hb : parseEntries b = .error error) :
    parseEntries (a ++ "," ++ b) = .error (error.shift p) := by
  obtain ⟨ts, hts, hc⟩ := tokenize_behind_entries (b := b) hp hn hk
  have hr : Place.column.read (ts.map Token.kind) = some .column := by
    rw [hts, Place.read_leading]
  rw [parseEntries_eq_error_iff, hc, Parser.refusedFrom_append hr]
  exact (parseEntries_eq_error_iff.1 hb).shift p

namespace Compiled

variable {conv : Conventions}

theorem ofEntries_append (conv : Conventions) (es fs : List Entry) :
    ofEntries conv (es ++ fs) = (ofEntries conv es).recordMany fs := List.foldl_append

theorem table_recordMany_ofEntries (r : Compiled) (es : List Entry) :
    (r.recordMany es).table = r.table.insertMany (ofEntries r.conventions es).table.pairs := by
  rw [table_recordMany, table_ofEntries, ColumnTable.insertMany_ofList]

/-- Entries that follow others have the errors that they have alone, and may have more. -/
theorem errors_recordMany_ofEntries (r : Compiled) (es : List Entry) :
    ∃ more, (r.recordMany es).errors = r.errors ++ more ∧
      (ofEntries r.conventions es).errors.Sublist more := by
  refine ⟨_, errors_recordMany r es, ?_⟩
  rw [errors_ofEntries]
  apply List.Sublist.flatMap_right
  intro i _
  exact errorsIf_sublist .inr (es.get i)

theorem length_errors_recordMany_ofEntries (r : Compiled) (es : List Entry) :
    (r.recordMany es).errors.length = r.errors.length + (ofEntries r.conventions es).errors.length +
      (r.table.columns.filter fun c => (ofEntries r.conventions es).table.contains c).length := by
  have hr := length_errors_recordMany r es
  have hs := length_errors_recordMany ⟨r.conventions, .empty, []⟩ es
  have ht := r.table.size_insertMany (es.map (binding r.conventions))
  have ho : ofEntries r.conventions es = (⟨r.conventions, .empty, []⟩ : Compiled).recordMany es := rfl
  have hz : ColumnTable.empty.size = 0 := rfl
  rw [← table_recordMany, ← table_ofEntries] at ht
  rw [← ho, hz, List.length_nil] at hs
  dsimp only at hs
  omega

end Compiled

/-- Behind a text that compiles, and a comma. Where the other text compiles, so does the whole: its
table is collected from the tables of both, it has the errors of both, and as many more as there are
columns in both tables. Where the other text cannot be read, the whole has the same error, at the
place `p` behind the comma and as far on as the error stands in the other text. -/
theorem compile_append_comma {conv : Conventions} {setting a b : String} {r : Compiled}
    {p : Position} (h : compile conv setting a = .ok r) (hp : p.StandsBehind (a ++ ",").toList) :
    (∀ s, compile conv setting b = .ok s → ∃ u, compile conv setting (a ++ "," ++ b) = .ok u ∧
      u.table = .ofList (r.table.pairs ++ s.table.pairs) ∧
      (∃ more, u.messages = r.messages ++ more ∧ s.messages.Sublist more) ∧
      u.messages.length = r.messages.length + s.messages.length +
        (r.table.columns.filter fun c => decide (c ∈ s.table.columns)).length) ∧
    ∀ e, compile conv setting b = .error e →
      compile conv setting (a ++ "," ++ b) = .error ⟨setting, a ++ "," ++ b, e.cause.message,
        p.line + e.cause.line - 1,
        if e.cause.line = 1 then p.column + e.cause.column - 1 else e.cause.column⟩ := by
  obtain ⟨es, hes, rfl⟩ := compile_eq_ok_iff.1 h
  obtain ⟨he, ha⟩ := parseEntries_ok_iff.1 ⟨es, hes, rfl⟩
  constructor
  · intro s hs
    obtain ⟨fs, hfs, rfl⟩ := compile_eq_ok_iff.1 hs
    obtain ⟨hf, hb⟩ := parseEntries_ok_iff.1 ⟨fs, hfs, rfl⟩
    have hn : es ++ fs ≠ [] := List.append_ne_nil_of_left_ne_nil he fs
    refine ⟨_, Compiled.compile_of_kinds hn (kinds_append_comma he hf ha hb), ?_⟩
    have hc := Compiled.conventions_ofEntries conv es
    have ht := Compiled.table_recordMany_ofEntries (.ofEntries conv es) fs
    have hm := Compiled.errors_recordMany_ofEntries (.ofEntries conv es) fs
    have hl := Compiled.length_errors_recordMany_ofEntries (.ofEntries conv es) fs
    rw [hc, ← Compiled.ofEntries_append] at ht hm hl
    obtain ⟨more, hm, hs⟩ := hm
    refine ⟨?_, ⟨more.map (EntryError.message conv), ?_, ?_⟩, ?_⟩
    · rw [ht, ColumnTable.ofList_append, ColumnTable.ofList_pairs]
    · rw [Compiled.messages, Compiled.messages, Compiled.conventions_ofEntries, hc, hm,
        List.map_append]
    · rw [Compiled.messages, Compiled.conventions_ofEntries]
      exact hs.map _
    · simpa only [Compiled.messages, List.length_map, ColumnTable.contains, List.contains_eq_mem]
        using hl
  · intro e hb
    obtain ⟨cause, hcause, rfl⟩ := compile_eq_error_iff.1 hb
    exact compile_eq_error_iff.2 ⟨_, parseEntries_append_comma_error (Position.standsBehind_iff.1 hp) he ha hcause, rfl⟩

/-- A column that both texts bind, and an equals sign that is missing behind a line feed. -/
theorem compile_append_comma_of_shared_column :
    compile .standard "m" "c=key\n" =
      .ok ⟨.standard, ⟨[("c", "key.__self")], by decide⟩, []⟩ ∧
    (⟨7, 2, 2⟩ : Position).StandsBehind ("c=key\n" ++ ",").toList ∧
    compile .standard "m" "d=now(),c=x" =
      .ok ⟨.standard, ⟨[("d", "now()"), ("c", "x")], by decide⟩, [.invalidField "x"]⟩ ∧
    compile .standard "m" " c d" = .error ⟨"m", " c d", "missing '=' at 'd'", 1, 4⟩ ∧
    (∃ u, compile .standard "m" ("c=key\n" ++ "," ++ "d=now(),c=x") = .ok u ∧
      u.table.pairs = [("d", "now()"), ("c", "x")] ∧ u.messages.length = 2) ∧
    compile .standard "m" ("c=key\n" ++ "," ++ " c d") =
      .error ⟨"m", "c=key\n" ++ "," ++ " c d", "missing '=' at 'd'", 2, 5⟩ := by
  have ha : compile .standard "m" "c=key\n" =
      .ok ⟨.standard, ⟨[("c", "key.__self")], by decide⟩, []⟩ := by cbv
  have hp : (⟨7, 2, 2⟩ : Position).StandsBehind ("c=key\n" ++ ",").toList :=
    ⟨by decide, by decide, by decide⟩
  have hb : compile .standard "m" "d=now(),c=x" =
      .ok ⟨.standard, ⟨[("d", "now()"), ("c", "x")], by decide⟩, [.invalidField "x"]⟩ := by
    have hk : (tokenize "d=now(),c=x").map Token.kind = flatten
        [.of (.literal "d" .zero) (.call "now" .zero),
          .of (.literal "c" .zero) (.name (.literal "x" .zero))] ++ [.eof] := by cbv
    exact (Compiled.compile_of_kinds (by simp) hk).trans (congrArg _ (by decide))
  have hd : tokenize " c d" = [⟨.literal "c", ⟨⟨1, 1, 2⟩, 2⟩⟩, ⟨.literal "d", ⟨⟨3, 1, 4⟩, 4⟩⟩,
      ⟨.eof, ⟨⟨4, 1, 5⟩, 4⟩⟩] := by cbv
  have hr : parseEntries " c d" = .error ⟨"missing '=' at 'd'", 1, 4⟩ := by
    rw [parseEntries_eq_error_iff, hd]
    exact ⟨[_], _, _, .equals, rfl, rfl, rfl, by decide⟩
  have he : compile .standard "m" " c d" = .error ⟨"m", " c d", "missing '=' at 'd'", 1, 4⟩ :=
    compile_eq_error_iff.2 ⟨_, hr, rfl⟩
  obtain ⟨u, hu, ht, -, hl⟩ := (compile_append_comma ha hp).1 _ hb
  refine ⟨ha, hp, hb, he, ⟨u, hu, ?_, ?_⟩, (compile_append_comma ha hp).2 _ he⟩
  · rw [ht]
    decide
  · rw [hl]
    decide

end ColumnBinding
