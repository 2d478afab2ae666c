import ColumnBinding.Proofs.Parts
import ColumnBinding.Proofs.Refusals
import ColumnBinding.Proofs.TokenPlaces
import Mathlib

/-! Blanks between tokens. A mapping is read from the kinds of its tokens alone, and blanks that are put
between two tokens do not change a kind. Main statement: they change nothing but the place of an error,
which stays at the same token. -/
namespace ColumnBinding

/-- The byte offset lies strictly inside the span. -/
def Span.Within (s : Span) (n : Nat) : Prop := s.start.offset < n ∧ n < s.stop

theorem blanks_insert {x w y : List Char} (h : ∀ c ∈ x ++ y, IsBlank c) (hw : ∀ c ∈ w, IsBlank c) :
    ∀ c ∈ x ++ (w ++ y), IsBlank c := by
  simp only [List.forall_mem_append] at h ⊢
  exact ⟨h.1, hw, h.2⟩

theorem Spells.insert_blanks {k : Kind} {cs ys w y : List Char} (h : Spells k cs (ys ++ y))
    (hk : k ≠ .eof) (hu : y = [] → ¬ k.Unclosed) (hw : ∀ c ∈ w, IsBlank c) :
    Spells k cs (ys ++ (w ++ y)) := by
  refine h.before_other ?_ ?_
  · rintro (he | hc)
    · exact absurd he hk
    · exact absurd hc (hu (List.append_eq_nil_iff.1 (h.eq_nil_of_unclosed hc)).2)
  · intro c hc
    cases ys with
    | cons d ys => exact .inl hc
    | nil =>
        cases w with
        | nil => exact .inl hc
        | cons b w => exact .inr (endsName_nil.behind_blanks hw c hc)

theorem gap_or_behind {gap piece rest x y : List Char} (h : gap ++ (piece ++ rest) = x ++ y)
    (hi : ¬ (byteSize gap < byteSize x ∧ byteSize x < byteSize (gap ++ piece))) :
    (∃ gs, gap = x ++ gs ∧ y = gs ++ (piece ++ rest)) ∨
      ∃ ys, x = gap ++ (piece ++ ys) ∧ rest = ys ++ y := by
  rcases List.append_eq_append_iff.1 h with ⟨xs, rfl, he⟩ | hg
  · rcases List.append_eq_append_iff.1 he with ⟨ys, rfl, hr⟩ | ⟨ls, rfl, hy⟩
    · exact .inr ⟨ys, rfl, hr⟩
    · by_cases hx : xs = []
      · subst hx
        exact .inl ⟨[], by simp only [List.append_nil], hy⟩
      · by_cases hl : ls = []
        · subst hl
          exact .inr ⟨[], by simp only [List.append_nil], hy.symm⟩
        · have hxs := byteSize_pos hx
          have hls := byteSize_pos hl
          simp only [byteSize_append] at hi
          omega
  · exact .inl hg

/-- Where no token lies around the place behind `x`, blanks may be put there. -/
theorem Reads.insert_blanks {p q : Position} {cs ds x w y : List Char} {ts : List Token}
    (h : Reads p cs ts q ds) (hd : ∀ c ∈ ds, IsBlank c) (hc : cs = x ++ y) (hw : ∀ c ∈ w, IsBlank c)
    (hi : ∀ t ∈ ts, ¬ t.span.Within (p.offset + byteSize x))
    (hu : y = [] → ∀ t ∈ ts, ¬ t.kind.Unclosed) :
    ∃ es, ReadsKinds (x ++ (w ++ y)) (ts.map Token.kind) es ∧ ∀ c ∈ es, IsBlank c := by
  -- With each token, the place comes nearer, until it is in the gap before the next one.
  induction h generalizing x with
  | nil =>
      subst hc
      exact ⟨_, .nil _, blanks_insert hd hw⟩
  | @cons p gap lexeme k rest ts q behind hb hs hk hr ih =>
      have offset : ∀ (p : Position) (cs : List Char),
          (p.after cs).offset = p.offset + byteSize cs := Position.after_offset
      have hin := hi _ (.head _)
      simp only [Span.Within, offset, Nat.add_assoc, Nat.add_lt_add_iff_left, ← byteSize_append] at hin
      rcases gap_or_behind hc hin with ⟨gs, rfl, rfl⟩ | ⟨ys, rfl, rfl⟩
      · have hn := ReadsKinds.cons (blanks_insert hb hw) hs hk hr.readsKinds
        refine ⟨behind, ?_, hd⟩
        simpa only [List.append_assoc, List.map_cons] using hn
      · have hl : Spells k lexeme (ys ++ (w ++ y)) :=
          hs.insert_blanks hk (fun hy => hu hy _ (.head _)) hw
        have later : ∀ t ∈ ts,
            ¬ t.span.Within (((p.after gap).after lexeme).offset + byteSize ys) := by
          intro t ht
          have ht := hi t (.tail _ ht)
          simpa only [offset, byteSize_append, Nat.add_assoc] using ht
        obtain ⟨es, he, hes⟩ := ih hd rfl later fun hy t ht => hu hy t (.tail _ ht)
        refine ⟨es, ?_, hes⟩
        simpa only [List.append_assoc, List.map_cons] using ReadsKinds.cons hb hl hk he

theorem parseEntries_error_of_kinds {a b : String} {error : SyntaxError}
    (hk : (tokenize b).map Token.kind = (tokenize a).map Token.kind)
    (h : parseEntries a = .error error) :
    ∃ (i : Nat) (t u : Token), (tokenize a)[i]? = some t ∧ (tokenize b)[i]? = some u ∧
      error.line = t.span.start.line ∧ error.column = t.span.start.column ∧
      parseEntries b = .error ⟨error.message, u.span.start.line, u.span.start.column⟩ := by
  rw [parseEntries_eq_error_iff, Parser.refusedFrom_iff_getElem?] at h
  obtain ⟨i, t, p, ht, hr, hn, rfl⟩ := h
  have hu := congrArg (fun ks : List Kind => ks[i]?) hk
  rw [List.getElem?_map, List.getElem?_map, ht] at hu
  obtain ⟨u, hu, he⟩ := Option.map_eq_some_iff.1 hu
  refine ⟨i, t, u, ht, hu, rfl, rfl, ?_⟩
  rw [parseEntries_eq_error_iff, Parser.refusedFrom_iff_getElem?]
  refine ⟨i, u, p, hu, ?_, ?_, ?_⟩
  · rwa [hk]
  · rwa [he]
  · rw [Place.refusal, Place.refusal, he]

theorem kinds_insert_blanks {before blanks behind : String} (hb : ∀ c ∈ blanks.toList, IsBlank c)
    (hi : ∀ t ∈ tokenize (before ++ behind), ¬ t.span.Within before.utf8ByteSize)
    (hu : behind = "" → ∀ t ∈ tokenize (before ++ behind), ¬ t.kind.Unclosed) :
    (tokenize (before ++ blanks ++ behind)).map Token.kind =
      (tokenize (before ++ behind)).map Token.kind := by
  obtain ⟨ts, q, ds, hr, hd, ht⟩ := tokenize_reads (before ++ behind)
  have hm : ∀ t ∈ ts, t ∈ tokenize (before ++ behind) := by
    intro t hts
    rw [ht]
    exact List.mem_append_left _ hts
  have hs : Position.start.offset + byteSize before.toList = before.utf8ByteSize := by
    rw [byteSize, String.ofList_toList]
    exact Nat.zero_add _
  obtain ⟨es, he, hes⟩ := hr.insert_blanks hd String.toList_append hb
    (fun t hts => hs ▸ hi t (hm t hts))
    (fun hn t hts => hu (String.toList_eq_nil_iff.1 hn) t (hm t hts))
  rw [← String.toList_append, ← String.toList_append, ← String.append_assoc] at he
  rw [he.map_kind_tokenize hes, ht, List.map_append]
  rfl

/-- Blanks may be put into a text wherever no token lies around the place, and not behind a quote that is
never closed. The text then has tokens of the same kinds, and under all conventions it compiles to the
same mapping, with the same errors. Where it cannot be read, it fails with the same message, at the same
token. -/
theorem compile_insert_blanks {before blanks behind : String} (hb : ∀ c ∈ blanks.toList, IsBlank c)
    (hi : ∀ t ∈ tokenize (before ++ behind), ¬ t.span.Within before.utf8ByteSize)
    (hu : behind = "" → ∀ t ∈ tokenize (before ++ behind), ¬ t.kind.Unclosed) :
    (tokenize (before ++ blanks ++ behind)).map Token.kind =
      (tokenize (before ++ behind)).map Token.kind ∧
    ∀ (conv : Conventions) (setting : String),
      (∃ r, compile conv setting (before ++ behind) = .ok r ∧
        compile conv setting (before ++ blanks ++ behind) = .ok r) ∨
      ∃ (i : Nat) (t u : Token) (message : String), (tokenize (before ++ behind))[i]? = some t ∧
        (tokenize (before ++ blanks ++ behind))[i]? = some u ∧
        compile conv setting (before ++ behind) = .error ⟨setting, before ++ behind,
          message, t.span.start.line, t.span.start.column⟩ ∧
        compile conv setting (before ++ blanks ++ behind) = .error ⟨setting,
          before ++ blanks ++ behind, message, u.span.start.line, u.span.start.column⟩ := by
  have hk := kinds_insert_blanks hb hi hu
  refine ⟨hk, ?_⟩
  intro conv setting
  match hp : parseEntries (before ++ behind) with
  | .ok es =>
      obtain ⟨hn, hes⟩ := parseEntries_ok_iff.1 ⟨es, hp, rfl⟩
      exact .inl ⟨_, Compiled.compile_of_kinds hn hes, Compiled.compile_of_kinds hn (hk.trans hes)⟩
  | .error error =>
      obtain ⟨i, t, u, ht, hu, hl, hc, he⟩ := parseEntries_error_of_kinds hk hp
      refine .inr ⟨i, t, u, error.message, ht, hu, ?_, compile_eq_error_iff.2 ⟨_, he, rfl⟩⟩
      rw [← hl, ← hc]
      exact compile_eq_error_iff.2 ⟨_, hp, rfl⟩

/-- A line break before a call, and a tab before a character that no token is made of. -/
theorem compile_insert_blanks_of_stray :
    ((∀ c ∈ "\r\n ".toList, IsBlank c) ∧
      (∀ t ∈ tokenize ("\"é\"=now" ++ "()"), ¬ t.span.Within "\"é\"=now".utf8ByteSize) ∧
      ("()" = "" → ∀ t ∈ tokenize ("\"é\"=now" ++ "()"), ¬ t.kind.Unclosed) ∧
      compile .standard "m" ("\"é\"=now" ++ "\r\n " ++ "()") =
        .ok ⟨.standard, ⟨[("é", "now()")], by decide⟩, []⟩) ∧
    (∀ c ∈ "\t".toList, IsBlank c) ∧
    (∀ t ∈ tokenize ("c=\"\"" ++ ";"), ¬ t.span.Within "c=\"\"".utf8ByteSize) ∧
    (";" = "" → ∀ t ∈ tokenize ("c=\"\"" ++ ";"), ¬ t.kind.Unclosed) ∧
    ∃ (i : Nat) (t u : Token), (tokenize ("c=\"\"" ++ ";"))[i]? = some t ∧
      (tokenize ("c=\"\"" ++ "\t" ++ ";"))[i]? = some u ∧
      compile .standard "m" ("c=\"\"" ++ "\t" ++ ";") = .error ⟨"m", "c=\"\"" ++ "\t" ++ ";",
        "token recognition error at: ';'", u.span.start.line, u.span.start.column⟩ := by
  have first : tokenize ("\"é\"=now" ++ "()") = [⟨.quoted "é", ⟨⟨0, 1, 1⟩, 4⟩⟩,
      ⟨.equals, ⟨⟨4, 1, 4⟩, 5⟩⟩, ⟨.literal "now", ⟨⟨5, 1, 5⟩, 8⟩⟩, ⟨.leftParen, ⟨⟨8, 1, 8⟩, 9⟩⟩,
      ⟨.rightParen, ⟨⟨9, 1, 9⟩, 10⟩⟩, ⟨.eof, ⟨⟨10, 1, 10⟩, 10⟩⟩] := by cbv
  have second : tokenize ("c=\"\"" ++ ";") = [⟨.literal "c", ⟨⟨0, 1, 1⟩, 1⟩⟩,
      ⟨.equals, ⟨⟨1, 1, 2⟩, 2⟩⟩, ⟨.quoted "", ⟨⟨2, 1, 3⟩, 4⟩⟩, ⟨.invalid "token recognition error at: ';'", ⟨⟨4, 1, 5⟩, 5⟩⟩,
      ⟨.eof, ⟨⟨5, 1, 6⟩, 5⟩⟩] := by cbv
  have compiles : compile .standard "m" ("\"é\"=now" ++ "()") =
      .ok ⟨.standard, ⟨[("é", "now()")], by decide⟩, []⟩ := by cbv
  have fails : compile .standard "m" ("c=\"\"" ++ ";") = .error ⟨"m", "c=\"\"" ++ ";",
      "token recognition error at: ';'", 1, 5⟩ := by cbv
  have hb : ∀ c ∈ "\r\n ".toList, IsBlank c := all_isBlank_iff.1 rfl
  have ht : ∀ c ∈ "\t".toList, IsBlank c := all_isBlank_iff.1 rfl
  have hi : ∀ t ∈ tokenize ("\"é\"=now" ++ "()"), ¬ t.span.Within "\"é\"=now".utf8ByteSize := by
    rw [first]
    unfold Span.Within
    decide
  have hj : ∀ t ∈ tokenize ("c=\"\"" ++ ";"), ¬ t.span.Within "c=\"\"".utf8ByteSize := by
    rw [second]
    unfold Span.Within
    decide
  have hu : "()" = "" → ∀ t ∈ tokenize ("\"é\"=now" ++ "()"), ¬ t.kind.Unclosed := by
    intro h
    exact absurd h (by decide)
  have hv : ";" = "" → ∀ t ∈ tokenize ("c=\"\"" ++ ";"), ¬ t.kind.Unclosed := by
    intro h
    exact absurd h (by decide)
  refine ⟨⟨hb, hi, hu, ?_⟩, ht, hj, hv, ?_⟩
  · rcases (compile_insert_blanks hb hi hu).2 .standard "m" with
      ⟨r, h, hr⟩ | ⟨i, t, u, m, -, -, h, -⟩
    · rw [hr, ← h, compiles]
    · rw [compiles] at h
      cases h
  · rcases (compile_insert_blanks ht hj hv).2 .standard "m" with
      ⟨r, h, -⟩ | ⟨i, t, u, m, ht, hu, h, he⟩
    · rw [fails] at h
      cases h
    · rw [fails] at h
      simp only [Except.error.injEq, MappingError.mk.injEq, SyntaxError.mk.injEq, true_and] at h
      obtain ⟨rfl, -, -⟩ := h
      exact ⟨i, t, u, ht, hu, he⟩

end ColumnBinding
