import ColumnBinding.Text.Quoted

/-! Runs of quotes. A text in which every run has even length is the doubled form of exactly one
text, and `split` finds the first place at which the runs stop being even. -/
namespace ColumnBinding.Text.Quoted

/-- Every stretch of quotes that no further quote adjoins has even length. -/
def EvenRuns (cs : List Char) : Prop :=
  ∀ before n behind, cs = before ++ (List.replicate n '"' ++ behind) →
    before.getLast? ≠ some '"' → behind.head? ≠ some '"' → n % 2 = 0

theorem evenRuns_nil : EvenRuns [] := by
  intro before n behind h _ _
  have hn := congrArg List.length h
  simp only [List.length_append, List.length_replicate, List.length_nil] at hn
  omega

theorem evenRuns_cons {c : Char} (hc : c ≠ '"') {cs : List Char} :
    EvenRuns (c :: cs) ↔ EvenRuns cs := by
  constructor
  · intro h before n behind he hb ha
    refine h (c :: before) n behind (congrArg (List.cons c) he) ?_ ha
    cases before with
    | nil => simpa using hc
    | cons d ds => simpa only [List.getLast?_cons_cons] using hb
  · intro h before n behind he hb ha
    cases before with
    | nil =>
        cases n with
        | zero => rfl
        | succ n => exact absurd (List.cons.inj he).1 hc
    | cons d ds =>
        refine h ds n behind (List.cons.inj he).2 ?_ ha
        cases ds with
        | nil => simp
        | cons e es => simpa only [List.getLast?_cons_cons] using hb

theorem evenRuns_quotes {cs : List Char} : EvenRuns ('"' :: '"' :: cs) ↔ EvenRuns cs := by
  -- a run at the head gets longer by two, and every other run stays as it is
  constructor
  · intro h before n behind he hb ha
    cases before with
    | nil =>
        have hn := h [] (n + 2) behind (congrArg (fun ds => '"' :: '"' :: ds) he) (by simp) ha
        omega
    | cons d ds =>
        refine h ('"' :: '"' :: d :: ds) n behind
          (congrArg (fun es => '"' :: '"' :: es) he) ?_ ha
        simpa only [List.getLast?_cons_cons] using hb
  · intro h before n behind he hb ha
    match before, n with
    | [], 0 => rfl
    | [], 1 => exact absurd (congrArg List.head? (List.cons.inj he).2).symm ha
    | [], n + 2 =>
        have hn := h [] n behind (List.cons.inj (List.cons.inj he).2).2 (by simp) ha
        omega
    | [d], n => exact absurd (congrArg some (List.cons.inj he).1).symm hb
    | d :: e :: ds, n =>
        refine h ds n behind (List.cons.inj (List.cons.inj he).2).2 ?_ ha
        cases ds with
        | nil => simp
        | cons f fs => simpa only [List.getLast?_cons_cons] using hb

theorem not_evenRuns_quote {cs : List Char} (h : cs.head? ≠ some '"') : ¬ EvenRuns ('"' :: cs) := by
  intro he
  have hn := he [] 1 cs rfl (by simp) h
  omega

theorem evenRuns_encode (cs : List Char) : EvenRuns (encode cs) := by
  induction cs with
  | nil => exact evenRuns_nil
  | cons c cs ih =>
      by_cases hc : c = '"'
      · subst hc
        exact evenRuns_quotes.2 ih
      · rw [encode_cons hc]
        exact (evenRuns_cons hc).2 ih

/-- Where every run is even, collapsing the pairs loses nothing. -/
theorem encode_decode {cs : List Char} (h : EvenRuns cs) : encode (decode cs) = cs := by
  fun_induction decode cs with
  | case1 => rfl
  | case2 cs ih => rw [encode_quote, ih (evenRuns_quotes.1 h)]
  | case3 c cs hq ih =>
      by_cases hc : c = '"'
      · subst hc
        refine absurd h (not_evenRuns_quote ?_)
        intro hh
        cases cs with
        | nil => cases hh
        | cons d ds =>
            cases Option.some.inj hh
            exact hq ds rfl rfl
      · rw [encode_cons hc, ih ((evenRuns_cons hc).1 h)]

theorem decode_sublist (cs : List Char) : (decode cs).Sublist cs := by
  fun_induction decode cs with
  | case1 => exact .slnil
  | case2 cs ih => exact (ih.cons_cons '"').cons '"'
  | case3 c cs hq ih => exact ih.cons_cons c

@[simp] theorem split_quotes (cs : List Char) :
    split ('"' :: '"' :: cs) = (split cs).map fun p => ('"' :: '"' :: p.1, p.2) := rfl

theorem split_close {cs : List Char} (h : cs.head? ≠ some '"') :
    split ('"' :: cs) = some ([], cs) := by
  rw [split]
  · rfl
  · intro ds _ hd
    exact h (by rw [hd]; rfl)

theorem split_cons {c : Char} (h : c ≠ '"') (cs : List Char) :
    split (c :: cs) = (split cs).map fun p => (c :: p.1, p.2) := by
  rw [split]
  · exact if_neg h
  · intro ds hc _
    exact h hc

theorem split_encode (cs : List Char) {rest : List Char} (h : rest.head? ≠ some '"') :
    split (encode cs ++ '"' :: rest) = some (encode cs, rest) := by
  induction cs with
  | nil => exact split_close h
  | cons c cs ih =>
      by_cases hc : c = '"'
      · subst hc
        simp only [encode_quote, List.cons_append, split_quotes, ih, Option.map_some]
      · simp only [encode_cons hc, List.cons_append, split_cons hc, ih, Option.map_some]

theorem split_encode_none (cs : List Char) : split (encode cs) = none := by
  induction cs with
  | nil => rfl
  | cons c cs ih =>
      by_cases hc : c = '"'
      · subst hc
        simp only [encode_quote, split_quotes, ih, Option.map_none]
      · simp only [encode_cons hc, split_cons hc, ih, Option.map_none]

theorem evenRuns_of_split {cs inner rest : List Char} (h : split cs = some (inner, rest)) :
    EvenRuns inner ∧ rest.head? ≠ some '"' := by
  fun_induction split cs generalizing inner rest with
  | case1 => cases h
  | case2 cs ih =>
      obtain ⟨p, hp, he⟩ := Option.map_eq_some_iff.1 h
      cases he
      exact ⟨evenRuns_quotes.2 (ih hp).1, (ih hp).2⟩
  | case3 cs hq =>
      cases h
      refine ⟨evenRuns_nil, ?_⟩
      intro hh
      obtain ⟨ds, rfl⟩ := List.head?_eq_some_iff.1 hh
      exact hq ds rfl rfl
  | case4 c cs hq hc ih =>
      obtain ⟨p, hp, he⟩ := Option.map_eq_some_iff.1 h
      cases he
      exact ⟨(evenRuns_cons hc).2 (ih hp).1, (ih hp).2⟩

theorem evenRuns_of_split_none {cs : List Char} (h : split cs = none) : EvenRuns cs := by
  fun_induction split cs with
  | case1 => exact evenRuns_nil
  | case2 cs ih => exact evenRuns_quotes.2 (ih (Option.map_eq_none_iff.1 h))
  | case3 cs hq => cases h
  | case4 c cs hq hc ih => exact (evenRuns_cons hc).2 (ih (Option.map_eq_none_iff.1 h))

theorem split_eq_some_iff {cs inner rest : List Char} :
    split cs = some (inner, rest) ↔
      cs = inner ++ '"' :: rest ∧ EvenRuns inner ∧ rest.head? ≠ some '"' := by
  constructor
  · intro h
    exact ⟨(append_of_split h).symm, evenRuns_of_split h⟩
  · rintro ⟨rfl, hi, hr⟩
    rw [← encode_decode hi]
    exact split_encode _ hr

theorem split_eq_none_iff {cs : List Char} : split cs = none ↔ EvenRuns cs := by
  constructor
  · exact evenRuns_of_split_none
  · intro h
    rw [← encode_decode h]
    exact split_encode_none _

end ColumnBinding.Text.Quoted
