import ColumnBinding.Proofs.Spelling

/-! Parts of texts. A token is known by its own characters and by the one behind them, so a part that
is cut out between tokens is read as it is within the whole. Main statement: the tokens of a text are
read from any part that begins with the first and ends with the last of them. -/
namespace ColumnBinding

namespace Kind

/-- A quote that is never closed: the token has all that is left of the text. -/
def Unclosed (k : Kind) : Prop :=
  ∃ inner, k = .invalid ("token recognition error at: '" ++ String.ofList ('"' :: inner) ++ "'")

end Kind

namespace Spells

variable {k : Kind} {cs rest other : List Char}

theorem eq_nil_of_unclosed (h : Spells k cs rest) (hk : k.Unclosed) : rest = [] := by
  obtain ⟨inner, hk⟩ := hk
  cases h with
  | eof => cases hk
  | mark hm => cases hm <;> cases hk
  | literal hn hl hr => cases hk
  | quoted hi hr => cases hk
  | @stray c rest hs =>
      have hm := Kind.invalid.inj hk
      rw [String.append_left_inj, String.append_right_inj] at hm
      have hc := congrArg String.toList hm
      rw [String.toList_ofList, Char.toString, String.toList_singleton] at hc
      exact absurd (List.cons.inj hc).1 hs.quote
  | unclosed hi => rfl

/-- What is behind a token matters for its first character only. The token is the same before any text
that begins alike, and before any that ends a name. -/
theorem before_other (h : Spells k cs rest) (hn : k = .eof ∨ k.Unclosed → other = [])
    (ho : ∀ c ∈ other.head?, c ∈ rest.head? ∨ ¬ IsLiteral c ∧ c ≠ '"') :
    Spells k cs other := by
  cases h with
  | eof => rw [hn (.inl rfl)]; exact .eof
  | mark hm => exact .mark hm
  | literal hne hl hr =>
      refine .literal hne hl ?_
      intro c hc
      rcases ho c hc with hc | hc
      · exact hr c hc
      · exact hc.1
  | quoted hi hr =>
      refine .quoted hi ?_
      intro hc
      rcases ho _ hc with hc | hc
      · exact hr hc
      · exact hc.2 rfl
  | stray hs => exact .stray hs
  | unclosed hi =>
      rw [hn (.inr ⟨_, rfl⟩)]
      exact .unclosed hi

theorem cut {ds : List Char} (h : Spells k cs (rest ++ ds)) : Spells k cs rest := by
  refine h.before_other ?_ ?_
  · rintro (rfl | hk)
    · exact (List.append_eq_nil_iff.1 h.of_eof.2).1
    · exact (List.append_eq_nil_iff.1 (h.eq_nil_of_unclosed hk)).1
  · intro c hc
    rw [List.head?_append, Option.mem_def.1 hc]
    exact .inl rfl

end Spells

namespace Reads

variable {p q : Position} {cs ds : List Char} {t : Token} {ts us : List Token}

theorem readsKinds (h : Reads p cs ts q ds) : ReadsKinds cs (ts.map Token.kind) ds := by
  induction h with
  | nil => exact .nil _
  | cons hb hs hk _ ih => exact .cons hb hs hk ih

theorem cut (h : Reads p cs ts q ds) :
    ∃ taken, cs = taken ++ ds ∧ q = p.after taken ∧ Reads p taken ts q [] := by
  induction h with
  | nil => exact ⟨[], rfl, rfl, .nil⟩
  | @cons p bs cs k rest ts q behind hb hs hk _ ih =>
      obtain ⟨taken, rfl, rfl, hr⟩ := ih
      refine ⟨bs ++ (cs ++ taken), by simp only [List.append_assoc], ?_, .cons hb hs.cut hk hr⟩
      simp only [Position.after_append]

theorem split (h : Reads p cs (ts ++ us) q ds) :
    ∃ m mid, Reads p cs ts m mid ∧ Reads m mid us q ds := by
  induction ts generalizing p cs with
  | nil => exact ⟨p, cs, .nil, h⟩
  | cons t ts ih =>
      cases h with
      | cons hb hs hk hr =>
          obtain ⟨m, mid, hm, hu⟩ := ih hr
          exact ⟨m, mid, .cons hb hs hk hm, hu⟩

theorem stop_getLast (h : Reads p cs ts q ds) (ht : ts.getLast? = some t) :
    t.span.stop = q.offset := by
  induction h with
  | nil => cases ht
  | @cons p bs cs k rest ts q behind hb hs hk hr ih =>
      cases hr with
      | nil => cases ht; rfl
      | cons => exact ih ht

end Reads

/-- `Compact ts cs`: the characters `cs` are the tokens `ts`, with no blank before the first and none
behind the last. -/
inductive Compact : List Token → List Char → Prop
  | mk {t ts lexeme rest p q} : Spells t.kind lexeme rest → t.kind ≠ .eof → Reads p rest ts q [] →
      Compact (t :: ts) (lexeme ++ rest)

namespace Compact

variable {cs : List Char} {t : Token} {ts : List Token}

theorem readsKinds (h : Compact ts cs) : ReadsKinds cs (ts.map Token.kind) [] := by
  cases h with
  | mk hs hk hr => exact .cons (List.forall_mem_nil _) hs hk hr.readsKinds

theorem ne_nil (h : Compact ts cs) : cs ≠ [] := by
  cases h with
  | mk hs hk hr => exact List.append_ne_nil_of_left_ne_nil (hs.ne_nil hk) _

theorem spells (h : Compact [t] cs) : Spells t.kind cs [] := by
  cases h with
  | mk hs hk hr =>
      cases hr with
      | nil => rwa [List.append_nil]

end Compact

/-- Tokens that are read from a text fill the part from the start of the first to the end of the last. -/
theorem Reads.part {before cs ds : List Char} {q : Position} {t u : Token} {ts : List Token}
    (h : Reads (Position.start.after before) cs (t :: ts) q ds) (hu : (t :: ts).getLast? = some u) :
    ∃ gap part, cs = gap ++ (part ++ ds) ∧ (∀ c ∈ gap, IsBlank c) ∧ Compact (t :: ts) part ∧
      q = Position.start.after (before ++ gap ++ part) ∧
      t.span.through u.span = ⟨Position.start.after (before ++ gap), q.offset⟩ := by
  have hstop := h.stop_getLast hu
  cases h with
  | @cons _ gap lexeme k rest _ _ _ hb hs hk hr =>
      obtain ⟨taken, rfl, hq, hr⟩ := hr.cut
      refine ⟨gap, lexeme ++ taken, by rw [List.append_assoc], hb, .mk hs.cut hk hr, ?_, ?_⟩
      · simp only [hq, Position.after_append]
      · rw [Span.through, hstop, Position.after_append]

end ColumnBinding
