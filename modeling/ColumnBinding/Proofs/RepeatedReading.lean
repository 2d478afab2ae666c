import ColumnBinding.Proofs.SharedLexer
import Mathlib.Logic.Function.Iterate

/-! One parser that reads again and again. Between two readings it keeps nothing but the token at which
it stopped. Main statement: each reading returns what a new parser returns from that token on, and where
that token is no name, all later readings return the same error. -/
namespace ColumnBinding

theorem kind_endOf (ts : List Token) : (endOf ts).kind = .eof := by
  match hf : ts.find? fun t => t.kind == .eof with
  | some e =>
      have he := List.find?_some (p := fun t : Token => t.kind == .eof) hf
      rw [endOf, hf]
      exact beq_iff_eq.1 he
  | none =>
      rw [endOf, hf]
      cases ts.getLast? <;> rfl

theorem endsOnce_upToEnd (ts : List Token) : EndsOnce (upToEnd ts) := by
  refine ⟨_, _, rfl, ?_, kind_endOf ts⟩
  intro t ht he
  have hn := List.all_eq_true.1 List.all_takeWhile t ht
  exact bne_iff_ne.1 hn he

theorem EndsOnce.upToEnd_eq {ts : List Token} (h : EndsOnce ts) : upToEnd ts = ts := by
  obtain ⟨init, e, rfl, hi, he⟩ := h
  exact upToEnd_concat hi he

theorem EndsOnce.drop {ts : List Token} (h : EndsOnce ts) {k : Nat} (hk : ts.drop k ≠ []) :
    EndsOnce (ts.drop k) := by
  rw [← List.take_append_drop k ts] at h
  exact h.of_append hk

/-- What a new parser returns over the tokens from the index `p` on. -/
def readFrom (ts : List Token) (p : Nat) : Except SyntaxError (List Entry) :=
  (Parser.ofSupply (ts.drop p)).parse.1

/-- The index of the token at which that parser stops. -/
def stopFrom (ts : List Token) (p : Nat) : Nat :=
  ts.length - (Parser.ofSupply (ts.drop p)).parse.2.stream.length

namespace Parser

variable {σ : Type} [Supply σ] {ts : List Token}

/-- A parser before the tokens from an index on reads as a new one does, and stops where that stops. -/
theorem parse_resumes (hts : EndsOnce ts) {x : Parser σ} {p : Nat} (hx : x.remaining = ts.drop p) :
    x.parse.1 = readFrom ts p ∧ StopsAt ts p (stopFrom ts p) (readFrom ts p) ∧
      x.parse.2.remaining = ts.drop (stopFrom ts p) := by
  have hn : ts.drop p ≠ [] := by
    obtain ⟨us, hu⟩ := x.remaining_eq_cons
    rw [← hx, hu]
    exact List.cons_ne_nil _ _
  have hs : (ofSupply (ts.drop p)).stream = ts.drop p := stream_ofSupply_list hn
  have hr : x.remaining = (ofSupply (ts.drop p)).remaining := by
    rw [remaining_ofSupply, Supply.tokens_list, (hts.drop hn).upToEnd_eq, hx]
  obtain ⟨k, hk, hd⟩ := parse_stopsAt hts hs
  have hdk : ts.drop k ≠ [] := hd ▸ List.cons_ne_nil _ _
  have stop : stopFrom ts p = k := by
    rw [stopFrom, hd, List.length_drop]
    rw [ne_eq, List.drop_eq_nil_iff] at hdk
    omega
  have same : x.parse.1 = readFrom ts p ∧
      x.parse.2.remaining = (ofSupply (ts.drop p)).parse.2.remaining := inStep_remaining.run hr
  have rest : (ofSupply (ts.drop p)).parse.2.remaining = ts.drop k := by
    rw [← (hts.drop hdk).upToEnd_eq, ← hd]
    rfl
  rw [stop]
  exact ⟨same.1, hk, same.2.trans rest⟩

theorem parseTimes_resumes (hts : EndsOnce ts) (n : Nat) {x : Parser σ} {p : Nat}
    (hx : x.remaining = ts.drop p) :
    (x.parseTimes n).1 = (List.range n).map (fun i => readFrom ts ((stopFrom ts)^[i] p)) ∧
      (x.parseTimes n).2.remaining = ts.drop ((stopFrom ts)^[n] p) := by
  induction n generalizing x p with
  | zero => exact ⟨rfl, hx⟩
  | succ n ih =>
      obtain ⟨he, -, hd⟩ := parse_resumes hts hx
      obtain ⟨hr, hn⟩ := ih hd
      rw [List.range_succ_eq_map, List.map_cons, List.map_map]
      exact ⟨congrArg₂ List.cons he hr, hn⟩

end Parser

theorem Stage.name?_eq_none {t : Token} (hl : ∀ text, t.kind ≠ .literal text)
    (hq : ∀ inner, t.kind ≠ .quoted inner) : name? t = none := by
  obtain ⟨k, s⟩ := t
  cases k with
  | literal text => exact absurd rfl (hl text)
  | quoted inner => exact absurd rfl (hq inner)
  | _ => rfl

theorem Stage.reject_eq_refusal (stage : Stage) (t : Token) :
    stage.reject t = .reject (stage.place.refusal t) := by
  obtain ⟨k, s⟩ := t
  cases stage <;> cases k <;> rfl

theorem readFrom_of_not_name {ts : List Token} {k : Nat} {t : Token} (ht : ts[k]? = some t)
    (hl : ∀ text, t.kind ≠ .literal text) (hq : ∀ inner, t.kind ≠ .quoted inner) :
    readFrom ts k = .error (Place.column.refusal t) ∧ stopFrom ts k = k := by
  obtain ⟨hk, rfl⟩ := List.getElem?_eq_some_iff.1 ht
  have hd : ts.drop k = ts[k] :: ts.drop (k + 1) := List.drop_eq_getElem_cons hk
  have hs : Stage.column.step ts[k] = .reject (Place.column.refusal ts[k]) := by
    simp only [Stage.step, Stage.name?_eq_none hl hq]
    exact Stage.reject_eq_refusal _ _
  have hp : (Parser.ofSupply (ts.drop k)).parse =
      (.error (Place.column.refusal ts[k]), Parser.ofSupply (ts.drop k)) := by
    rw [hd]
    exact Parser.run_reject hs
  constructor
  · rw [readFrom, hp]
  · have hl : (Parser.ofSupply (ts.drop k)).stream.length = ts.length - k := by
      rw [Parser.stream_ofSupply_list (hd ▸ List.cons_ne_nil _ _), List.length_drop]
    rw [stopFrom, hp, hl]
    omega

theorem getElem?_of_last {ts : List Token} {k : Nat} (h : k + 1 = (upToEnd ts).length) :
    (upToEnd ts)[k]? = some (endOf ts) := by
  rw [upToEnd, List.length_append, List.length_singleton] at h
  rw [Nat.add_right_cancel h, upToEnd, List.getElem?_concat_length]

/-- A parser reads any number of times. The tokens that count are those up to the first end, which is made up
where there is none. From the first of them on, each reading stops at one of them: at the end where it
succeeds, and else at the first token with which no mapping begins any more, which it does not take.
The next reading returns what a new parser returns over the tokens from that one on. So a reading
after one that succeeded misses a column at the end, after a stop at a token that is no name all readings
return the same error, and tokens behind an end have no influence. -/
theorem parseTimes_resumes_at_stop (ts : List Token) :
    (∃ stop : Nat → Nat, stop 0 = 0 ∧
      (∀ n, ((Parser.ofSupply ts).parseTimes n).1 =
          (List.range n).map (fun i => readFrom (upToEnd ts) (stop i)) ∧
        ((Parser.ofSupply ts).parseTimes n).2.remaining = (upToEnd ts).drop (stop n)) ∧
      (∀ i, StopsAt (upToEnd ts) (stop i) (stop (i + 1)) (readFrom (upToEnd ts) (stop i))) ∧
      (∀ i es, readFrom (upToEnd ts) (stop i) = .ok es →
        readFrom (upToEnd ts) (stop (i + 1)) = .error ⟨"mismatched input '<EOF>' expecting column",
          (endOf ts).span.start.line, (endOf ts).span.start.column⟩) ∧
      ∀ i t, (upToEnd ts)[stop (i + 1)]? = some t →
        (∀ text, t.kind ≠ .literal text) → (∀ inner, t.kind ≠ .quoted inner) → ∀ j, i < j →
          readFrom (upToEnd ts) (stop j) = .error (Place.column.refusal t)) ∧
    ∀ before e behind, e.kind = .eof → ts = before ++ e :: behind → ∀ n,
      ((Parser.ofSupply ts).parseTimes n).1 = ((Parser.ofSupply (before ++ [e])).parseTimes n).1 := by
  have hts := endsOnce_upToEnd ts
  have start : (Parser.ofSupply ts).remaining = (upToEnd ts).drop 0 := by
    rw [Parser.remaining_ofSupply, Supply.tokens_list, List.drop_zero]
  have run := fun n => Parser.parseTimes_resumes hts n start
  constructor
  · have stops : ∀ i, StopsAt (upToEnd ts) ((stopFrom (upToEnd ts))^[i] 0)
        ((stopFrom (upToEnd ts))^[i + 1] 0) (readFrom (upToEnd ts) ((stopFrom (upToEnd ts))^[i] 0)) := by
      intro i
      rw [Function.iterate_succ_apply']
      exact (Parser.parse_resumes hts (run i).2).2.1
    refine ⟨fun i => (stopFrom (upToEnd ts))^[i] 0, rfl, run, stops, ?_, ?_⟩
    · intro i es hes
      have hs := stops i
      rw [hes] at hs
      have he := getElem?_of_last hs.2.1
      have hr := readFrom_of_not_name he (by simp [kind_endOf]) (by simp [kind_endOf])
      rw [hr.1, Place.refusal, kind_endOf]
      rfl
    · intro i t ht hl hq j hj
      obtain ⟨hr, hf⟩ := readFrom_of_not_name ht hl hq
      obtain ⟨d, rfl⟩ := Nat.exists_eq_add_of_lt hj
      have hd : (stopFrom (upToEnd ts))^[i + d + 1] 0 = (stopFrom (upToEnd ts))^[i + 1] 0 := by
        rw [Nat.add_right_comm, Nat.add_comm, Function.iterate_add_apply]
        exact Function.iterate_fixed hf d
      dsimp only
      rw [hd, hr]
  · rintro before e behind he rfl n
    apply Parser.inStep_remaining.parseTimes
    rw [Parser.remaining_ofSupply, Parser.remaining_ofSupply, Supply.tokens_list, Supply.tokens_list,
      upToEnd_append_eof before he]

/-- After an entry without an end behind it, a column is missing at the end of the entry. -/
theorem parseTimes_resumes_at_stop_of_no_end :
    ((Parser.ofSupply [(⟨.literal "c", ⟨⟨0, 1, 1⟩, 1⟩⟩ : Token), ⟨.equals, ⟨⟨1, 1, 2⟩, 2⟩⟩,
      ⟨.literal "key", ⟨⟨3, 2, 1⟩, 6⟩⟩]).parseTimes 2).1 =
        [.ok [⟨.literal "c" ⟨⟨0, 1, 1⟩, 1⟩, .name (.literal "key" ⟨⟨3, 2, 1⟩, 6⟩), ⟨⟨0, 1, 1⟩, 6⟩⟩],
          .error ⟨"mismatched input '<EOF>' expecting column", 2, 1⟩] := by
  obtain ⟨⟨stop, h0, run, -, next, -⟩, -⟩ := parseTimes_resumes_at_stop
    [(⟨.literal "c", ⟨⟨0, 1, 1⟩, 1⟩⟩ : Token), ⟨.equals, ⟨⟨1, 1, 2⟩, 2⟩⟩,
      ⟨.literal "key", ⟨⟨3, 2, 1⟩, 6⟩⟩]
  have first : readFrom (upToEnd [(⟨.literal "c", ⟨⟨0, 1, 1⟩, 1⟩⟩ : Token), ⟨.equals, ⟨⟨1, 1, 2⟩, 2⟩⟩,
      ⟨.literal "key", ⟨⟨3, 2, 1⟩, 6⟩⟩]) (stop 0) = .ok [⟨.literal "c" ⟨⟨0, 1, 1⟩, 1⟩,
        .name (.literal "key" ⟨⟨3, 2, 1⟩, 6⟩), ⟨⟨0, 1, 1⟩, 6⟩⟩] := by
    rw [h0]
    decide +kernel
  have two : List.range 2 = [0, 1] := rfl
  rw [(run 2).1, two, List.map_cons, List.map_singleton, first, next 0 _ first]
  rfl

end ColumnBinding
