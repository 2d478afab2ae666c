import ColumnBinding.Proofs.Refusals

/-! Where a parser stops. What it does depends on its tokens alone, however they are supplied, and it
takes none behind the one at which it stops. Main statements: parsers with the same tokens return the
same, and a parser stops at the end or at the first token that does not fit. -/
namespace ColumnBinding

theorem Supply.next?_of_tokens_nil {σ : Type} [Supply σ] {s : σ} (h : Supply.tokens s = []) :
    Supply.next? s = none := by
  match hs : Supply.next? s with
  | none => rfl
  | some (t, r) =>
      rw [Supply.tokens_of_some hs] at h
      cases h

/-- The end is the last token, and stands nowhere else. -/
def EndsOnce (ts : List Token) : Prop :=
  ∃ init e, ts = init ++ [e] ∧ (∀ t ∈ init, t.kind ≠ .eof) ∧ e.kind = .eof

theorem endsOnce_tokenize (text : String) : EndsOnce (tokenize text) := by
  obtain ⟨ts, q, bs, hr, -, he⟩ := tokenize_reads text
  exact ⟨ts, _, he, hr.kind_ne_eof, rfl⟩

namespace EndsOnce

theorem ne_nil {ts : List Token} (h : EndsOnce ts) : ts ≠ [] := by
  obtain ⟨init, e, rfl, -, -⟩ := h
  exact List.append_ne_nil_of_right_ne_nil init (List.cons_ne_nil e [])

theorem of_append {ts us : List Token} (h : EndsOnce (ts ++ us)) (hn : us ≠ []) : EndsOnce us := by
  obtain ⟨init, e, he, hi, hk⟩ := h
  obtain ⟨vs, f, rfl⟩ := (List.eq_nil_or_concat' us).resolve_left hn
  rw [← List.append_assoc] at he
  obtain ⟨rfl, hf⟩ := List.append_inj' he rfl
  cases hf
  exact ⟨vs, _, rfl, fun t ht => hi t (List.mem_append_right _ ht), hk⟩

theorem tail {t : Token} {ts : List Token} (h : EndsOnce (t :: ts)) (hk : t.kind ≠ .eof) :
    EndsOnce ts := by
  obtain ⟨init, e, he, hi, hf⟩ := h
  cases init with
  | nil =>
      cases he
      exact absurd hf hk
  | cons i init =>
      cases he
      exact ⟨init, e, rfl, fun u hu => hi u (.tail _ hu), hf⟩

theorem eq_singleton {t : Token} {ts : List Token} (h : EndsOnce (t :: ts)) (hk : t.kind = .eof) :
    ts = [] := by
  obtain ⟨init, e, he, hi, -⟩ := h
  cases init with
  | nil =>
      cases he
      rfl
  | cons i init =>
      cases he
      exact absurd hk (hi t (.head _))

end EndsOnce

namespace Parser

variable {σ τ : Type} [Supply σ] [Supply τ]

/-- The token at hand, and those that are still supplied. -/
def stream (p : Parser σ) : List Token := p.current :: Supply.tokens p.supply

theorem ofSupply_of_nil {s : σ} (h : Supply.tokens s = []) :
    ofSupply s = ⟨⟨.eof, .zero⟩, s⟩ := by
  rw [ofSupply, Supply.next?_of_tokens_nil h]

theorem stream_ofSupply {s : σ} (h : Supply.tokens s ≠ []) :
    (ofSupply s).stream = Supply.tokens s := by
  match hs : Supply.next? s with
  | none => exact absurd (Supply.tokens_of_none hs) h
  | some (t, r) =>
      rw [ofSupply, hs, Supply.tokens_of_some hs]
      rfl

theorem stream_ofSupply_list {ts : List Token} (h : ts ≠ []) : (ofSupply ts).stream = ts := by
  have hl := Supply.tokens_list ts
  rw [stream_ofSupply (hl.symm ▸ h), hl]

theorem stream_advance {p : Parser σ} (h : Supply.tokens p.supply ≠ []) :
    p.advance.stream = Supply.tokens p.supply := by
  match hs : Supply.next? p.supply with
  | none => exact absurd (Supply.tokens_of_none hs) h
  | some (t, r) =>
      rw [advance_of_some hs, Supply.tokens_of_some hs]
      rfl

theorem stream_advance_of_nil {p : Parser σ} (h : Supply.tokens p.supply = []) :
    p.advance.stream = [p.current.endAfter] := by
  rw [advance_of_none (Supply.next?_of_tokens_nil h), stream, h]

theorem stream_advance_congr {p : Parser σ} {q : Parser τ} (h : p.stream = q.stream) :
    p.advance.stream = q.advance.stream := by
  obtain ⟨hc, hs⟩ := List.cons.inj h
  by_cases hn : Supply.tokens p.supply = []
  · rw [stream_advance_of_nil hn, stream_advance_of_nil (hs.symm.trans hn), hc]
  · rw [stream_advance hn, stream_advance (fun he => hn (hs.trans he)), hs]

/-- Parsers that are related have the same token at hand, and are related after it is taken. -/
structure InStep (R : Parser σ → Parser τ → Prop) : Prop where
  current : ∀ {p q}, R p q → p.current = q.current
  advance : ∀ {p q}, R p q → p.current.kind ≠ .eof → R p.advance q.advance

namespace InStep

variable {R : Parser σ → Parser τ → Prop}

/-- Parsers in step return the same, and are still in step where they stop. -/
theorem run (hR : InStep R) {p : Parser σ} {q : Parser τ} {stage : Stage} (h : R p q) :
    (p.run stage).1 = (q.run stage).1 ∧ R (p.run stage).2 (q.run stage).2 := by
  have hq : stage.step q.current = stage.step p.current := by rw [hR.current h]
  match hs : stage.step p.current with
  | .next following =>
      have hk := Stage.kind_of_next hs
      rw [run_next hs, run_next (hq.trans hs)]
      exact run hR (hR.advance h hk)
  | .finish e =>
      have hk := Stage.kind_of_finish hs
      have ih : (p.advance.run .column).1 = (q.advance.run .column).1 ∧
          R (p.advance.run .column).2 (q.advance.run .column).2 := run hR (hR.advance h hk)
      rw [run_finish hs, run_finish (hq.trans hs), ih.1]
      exact ⟨rfl, ih.2⟩
  | .accept e =>
      rw [run_accept hs, run_accept (hq.trans hs)]
      exact ⟨rfl, h⟩
  | .reject error =>
      rw [run_reject hs, run_reject (hq.trans hs)]
      exact ⟨rfl, h⟩
termination_by p.left
decreasing_by all_goals exact left_advance_lt hk

theorem parseTimes (hR : InStep R) (n : Nat) {p : Parser σ} {q : Parser τ} (h : R p q) :
    (p.parseTimes n).1 = (q.parseTimes n).1 := by
  induction n generalizing p q with
  | zero => rfl
  | succ n ih =>
      have hr : p.parse.1 = q.parse.1 ∧ R p.parse.2 q.parse.2 := hR.run h
      exact congrArg₂ List.cons hr.1 (ih hr.2)

end InStep

theorem inStep_stream : InStep fun (p : Parser σ) (q : Parser τ) => p.stream = q.stream where
  current h := (List.cons.inj h).1
  advance h _ := stream_advance_congr h

theorem current_eq_of_remaining {p : Parser σ} {q : Parser τ} (h : p.remaining = q.remaining) :
    p.current = q.current := by
  obtain ⟨ts, hp⟩ := p.remaining_eq_cons
  obtain ⟨us, hq⟩ := q.remaining_eq_cons
  rw [hp, hq] at h
  exact (List.cons.inj h).1

theorem inStep_remaining :
    InStep fun (p : Parser σ) (q : Parser τ) => p.remaining = q.remaining where
  current := current_eq_of_remaining
  advance {p q} h hk := by
    have hq : q.current.kind ≠ .eof := current_eq_of_remaining h ▸ hk
    have hc := (remaining_of_ne_eof hk).symm.trans (h.trans (remaining_of_ne_eof hq))
    exact (List.cons.inj hc).2

theorem parseTimes_tokens (n : Nat) (s : σ) :
    ((ofSupply s).parseTimes n).1 = ((ofSupply (Supply.tokens s)).parseTimes n).1 := by
  apply inStep_stream.parseTimes
  have hl : Supply.tokens (Supply.tokens s) = Supply.tokens s := Supply.tokens_list _
  by_cases hn : Supply.tokens s = []
  · rw [ofSupply_of_nil hn, ofSupply_of_nil (hl.trans hn), stream, stream, hl]
  · rw [stream_ofSupply hn, stream_ofSupply_list hn]

theorem run_of_eof {p : Parser σ} (h : p.current.kind = .eof) (stage : Stage) :
    (p.run stage).2 = p := by
  rcases Stage.step_eof stage h with ⟨e, hs⟩ | ⟨error, hs⟩
  · rw [run_accept hs]
  · rw [run_reject hs]

theorem parseTimes_of_eof {p : Parser σ} (h : p.current.kind = .eof) (n : Nat) :
    (p.parseTimes n).2 = p := by
  induction n with
  | zero => rfl
  | succ n ih =>
      have hp : p.parse.2 = p := run_of_eof h .column
      rw [parseTimes]
      simp only [hp, ih]

/-- Why a parser that began at a place stops at a token, once it has taken others: that is the end, or it
does not fit. -/
def Stops (place : Place) (taken : List Token) (t : Token) : Except SyntaxError (List Entry) → Prop
  | .ok _ => t.kind = .eof
  | .error error => ∃ q, place.read (taken.map Token.kind) = some q ∧ q.next? t.kind = none ∧
      error = q.refusal t

theorem Stops.cons {place q : Place} {u t : Token} {taken : List Token}
    {result : Except SyntaxError (List Entry)} (hu : place.next? u.kind = some q)
    (h : Stops q taken t result) : Stops place (u :: taken) t result := by
  cases result with
  | ok es => exact h
  | error error =>
      obtain ⟨r, hr, hn, he⟩ := h
      refine ⟨r, ?_, hn, he⟩
      rw [List.map_cons, Place.read_cons, hu, Option.bind_some, hr]

theorem Stops.map {place : Place} {t : Token} {taken : List Token}
    {result : Except SyntaxError (List Entry)} (h : Stops place taken t result)
    (f : List Entry → List Entry) : Stops place taken t (result.map f) := by
  cases result <;> exact h

theorem stream_eq_cons {p : Parser σ} (h : EndsOnce p.stream) (hk : p.current.kind ≠ .eof) :
    p.stream = p.current :: p.advance.stream ∧ EndsOnce p.advance.stream := by
  have ht := h.tail hk
  have ha := stream_advance ht.ne_nil
  rw [stream, ha]
  exact ⟨rfl, ht⟩

/-- A run takes some tokens, and stops at the next one. -/
theorem run_stops {p : Parser σ} {stage : Stage} (h : EndsOnce p.stream) :
    ∃ taken, p.stream = taken ++ (p.run stage).2.stream ∧
      Stops stage.place taken (p.run stage).2.current (p.run stage).1 := by
  -- A step of the parser is a step of the place, so the tokens taken are read to where it stops.
  have hp := stage.next?_place p.current
  match hs : stage.step p.current with
  | .next following =>
      have hk := Stage.kind_of_next hs
      obtain ⟨ha, ht⟩ := stream_eq_cons h hk
      rw [hs] at hp
      have ih : ∃ taken, p.advance.stream = taken ++ (p.advance.run following).2.stream ∧
          Stops following.place taken (p.advance.run following).2.current
            (p.advance.run following).1 := run_stops ht
      obtain ⟨taken, he, hst⟩ := ih
      rw [run_next hs, ha]
      exact ⟨p.current :: taken, congrArg _ he, hst.cons hp⟩
  | .finish e =>
      have hk := Stage.kind_of_finish hs
      obtain ⟨ha, ht⟩ := stream_eq_cons h hk
      rw [hs] at hp
      have ih : ∃ taken, p.advance.stream = taken ++ (p.advance.run .column).2.stream ∧
          Stops .column taken (p.advance.run .column).2.current (p.advance.run .column).1 :=
        run_stops ht
      obtain ⟨taken, he, hst⟩ := ih
      rw [run_finish hs, ha]
      exact ⟨p.current :: taken, congrArg _ he, (hst.map _).cons hp⟩
  | .accept e =>
      rw [run_accept hs]
      exact ⟨[], rfl, (Stage.of_accept hs).1⟩
  | .reject error =>
      rw [hs] at hp
      rw [run_reject hs]
      exact ⟨[], rfl, _, rfl, hp⟩
termination_by p.left
decreasing_by all_goals exact left_advance_lt hk

end Parser
end ColumnBinding
