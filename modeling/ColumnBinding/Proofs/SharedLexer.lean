import ColumnBinding.Proofs.Stopping
import ColumnBinding.Session

/-! One lexer for several readers. All that the lexer remembers is how many of the tokens of its text
are handed out, so each reader goes on with the token behind the last one that was taken before. Main
statement: every session follows the list of tokens, by an index that tells what is left. -/
namespace ColumnBinding

/-- Reading from the index `p` on stops at the token `k`: at the end where it succeeds, and else at the
first token with which no mapping begins any more. -/
def StopsAt (ts : List Token) (p k : Nat) : Except SyntaxError (List Entry) → Prop
  | .ok _ => p ≤ k ∧ k + 1 = ts.length ∧ ∃ t, ts[k]? = some t ∧ t.kind = .eof
  | .error error => p ≤ k ∧ ∃ t, ts[k]? = some t ∧
      Begins (((ts.drop p).take (k - p)).map Token.kind) ∧
      ¬ Begins (((ts.drop p).take (k - p + 1)).map Token.kind) ∧
      error.line = t.span.start.line ∧ error.column = t.span.start.column

/-- Readings in turn, each from the token at which the one before it stopped. -/
inductive StopsInTurn (ts : List Token) : Nat → List (Except SyntaxError (List Entry)) → Nat → Prop
  | last {p k result} : StopsAt ts p k result → StopsInTurn ts p [result] k
  | more {p k m result results} : StopsAt ts p k result → StopsInTurn ts k results m →
      StopsInTurn ts p (result :: results) m

namespace Session

/-- The results of reading `n` times with one new parser from the index `p` on, which leaves the index
`q`: they are those over the list of tokens, and all tokens behind the last stop are left. Where no token
is left to start with, none is taken. -/
structure Reading (ts : List Token) (p n : Nat) (results : List (Except SyntaxError (List Entry)))
    (q : Nat) : Prop where
  eager : results = ((Parser.ofSupply (ts.drop p)).parseTimes n).1
  stopped : p < ts.length → ∃ k, StopsInTurn ts p results k ∧ q = k + 1
  exhausted : p = ts.length → q = p

/-- What a request at the index `p` is answered, and the index that it leads to. -/
inductive Moves (ts : List Token) : Nat → Request → Reply → Nat → Prop
  | next {p t} : ts[p]? = some t → Moves ts p .next (.next (some t)) (p + 1)
  | nothing : Moves ts ts.length .next (.next none) ts.length
  | tokens {p} : Moves ts p .tokens (.tokens (ts.drop p)) ts.length
  | parse {p q result} : Reading ts p 1 [result] q → Moves ts p .parse (.parse result) q
  | parseTwice {p q results} : Reading ts p 2 results q →
      Moves ts p .parseTwice (.parseTwice results) q

variable {σ : Type} [Supply σ]

/-- What is left of a supply is the list from the index on. Where nothing is left, a parser starts on an
end of its own. -/
structure StandsAt (ts : List Token) (s : σ) (p : Nat) : Prop where
  le : p ≤ ts.length
  left : Supply.tokens s = ts.drop p
  fresh : p = ts.length → Parser.ofSupply s = ⟨⟨.eof, ⟨⟨0, 1, 1⟩, 0⟩⟩, s⟩

/-- `Follows ts s p requests replies`: at each moment of a session, the supply stands at an index of the
list, which is `p` at first, and every reply moves it on. -/
inductive Follows (ts : List Token) : σ → Nat → List Request → List Reply → Prop
  | nil {s p} : StandsAt ts s p → Follows ts s p [] []
  | cons {s p q request reply requests replies} : StandsAt ts s p → Moves ts p request reply q →
      Follows ts (answer s request).2 q requests replies →
      Follows ts s p (request :: requests) (reply :: replies)

end Session

namespace Parser

variable {σ : Type} [Supply σ] {ts : List Token}

theorem Stops.stopsAt {p : Nat} {taken rest : List Token} {t : Token}
    {result : Except SyntaxError (List Entry)} (hd : ts.drop p = taken ++ t :: rest)
    (hend : EndsOnce (t :: rest)) (h : Stops .column taken t result) :
    StopsAt ts p (p + taken.length) result := by
  have hk : ts.drop (p + taken.length) = t :: rest := by
    rw [← List.drop_drop, hd, List.drop_left]
  have ht : ts[p + taken.length]? = some t := by
    rw [← List.head?_drop, hk, List.head?_cons]
  cases result with
  | ok es =>
      have hlen := congrArg List.length hk
      rw [hend.eq_singleton h, List.length_drop, List.length_singleton] at hlen
      exact ⟨Nat.le_add_right p _, by omega, t, ht, h⟩
  | error error =>
      obtain ⟨q, hr, hn, rfl⟩ := h
      have hl : p + taken.length - p = taken.length := Nat.add_sub_cancel_left p _
      refine ⟨Nat.le_add_right p _, t, ht, ?_, ?_, rfl, rfl⟩
      · rw [hl, hd, List.take_left]
        exact begins_iff.2 ⟨q, hr⟩
      · have hc := Place.read_concat hr t.kind
        rw [hn] at hc
        rw [hl, hd, List.take_length_add_append, List.take_succ_cons, List.take_zero, List.map_append,
          List.map_singleton, begins_iff, hc]
        rintro ⟨r, hq⟩
        cases hq

theorem parse_stopsAt (hts : EndsOnce ts) {x : Parser σ} {p : Nat} (hx : x.stream = ts.drop p) :
    ∃ k, StopsAt ts p k x.parse.1 ∧ x.parse.2.stream = ts.drop k := by
  have hend : EndsOnce x.stream := by
    rw [← List.take_append_drop p ts, ← hx] at hts
    exact hts.of_append (List.cons_ne_nil _ _)
  have stops : ∃ taken, x.stream = taken ++ x.parse.2.stream ∧
      Stops .column taken x.parse.2.current x.parse.1 := run_stops hend
  obtain ⟨taken, he, hs⟩ := stops
  have hd : ts.drop p = taken ++ x.parse.2.stream := hx.symm.trans he
  rw [he] at hend
  refine ⟨p + taken.length, hs.stopsAt hd (hend.of_append (List.cons_ne_nil _ _)), ?_⟩
  rw [← List.drop_drop, hd, List.drop_left]

theorem parseTimes_stopsInTurn (hts : EndsOnce ts) (n : Nat) {x : Parser σ} {p : Nat}
    (hx : x.stream = ts.drop p) : ∃ k, StopsInTurn ts p (x.parseTimes (n + 1)).1 k ∧
      (x.parseTimes (n + 1)).2.stream = ts.drop k := by
  induction n generalizing x p with
  | zero =>
      obtain ⟨k, hs, hk⟩ := parse_stopsAt hts hx
      exact ⟨k, .last hs, hk⟩
  | succ n ih =>
      obtain ⟨k, hs, hk⟩ := parse_stopsAt hts hx
      obtain ⟨m, hm, hd⟩ := ih hk
      exact ⟨m, .more hs hm, hd⟩

end Parser

namespace Session

variable {σ : Type} [Supply σ] {ts : List Token} {s : σ} {p : Nat}

theorem StandsAt.of_tokens (hp : p ≤ ts.length) (h : Supply.tokens s = ts.drop p) :
    StandsAt ts s p := by
  refine ⟨hp, h, ?_⟩
  intro he
  apply Parser.ofSupply_of_nil
  rw [h, he, List.drop_length]

theorem tokens_drain (s : σ) : Supply.tokens (drain s) = [] := by
  rw [drain]
  match hs : Supply.next? s with
  | none => exact Supply.tokens_of_none hs
  | some (t, r) => exact tokens_drain r
termination_by Supply.left s
decreasing_by exact Supply.left_lt hs

/-- Reading with a new parser is reading from the list, and leaves what is behind the last stop. -/
theorem StandsAt.reading (hts : EndsOnce ts) (h : StandsAt ts s p) (n : Nat) :
    ∃ q, Reading ts p (n + 1) ((Parser.ofSupply s).parseTimes (n + 1)).1 q ∧
      StandsAt ts ((Parser.ofSupply s).parseTimes (n + 1)).2.supply q := by
  have eager : ((Parser.ofSupply s).parseTimes (n + 1)).1 =
      ((Parser.ofSupply (ts.drop p)).parseTimes (n + 1)).1 := by
    rw [Parser.parseTimes_tokens, h.left]
  rcases Nat.lt_or_eq_of_le h.le with hp | hp
  · have hn : Supply.tokens s ≠ [] := by
      rw [h.left, ne_eq, List.drop_eq_nil_iff]
      omega
    obtain ⟨k, hk, hd⟩ := Parser.parseTimes_stopsInTurn hts n
      ((Parser.stream_ofSupply hn).trans h.left)
    have hlen := congrArg List.length hd
    rw [Parser.stream, List.length_cons, List.length_drop] at hlen
    refine ⟨k + 1, ⟨eager, fun _ => ⟨k, hk, rfl⟩, fun he => absurd he (Nat.ne_of_lt hp)⟩, ?_⟩
    refine .of_tokens (by omega) ?_
    rw [← List.tail_drop, ← hd]
    rfl
  · -- Nothing is left: the parser starts on an end, which it does not leave.
    have hf := h.fresh hp
    have hs : ((Parser.ofSupply s).parseTimes (n + 1)).2 = Parser.ofSupply s :=
      Parser.parseTimes_of_eof (by rw [hf]) _
    refine ⟨p, ⟨eager, fun hlt => absurd hp (Nat.ne_of_lt hlt), fun _ => rfl⟩, ?_⟩
    rw [hs, hf]
    exact h

theorem StandsAt.moves (hts : EndsOnce ts) (h : StandsAt ts s p) (request : Request) :
    ∃ q, Moves ts p request (answer s request).1 q ∧ StandsAt ts (answer s request).2 q := by
  cases request with
  | next =>
      match hs : Supply.next? s with
      | none =>
          have hd := h.left
          rw [Supply.tokens_of_none hs, eq_comm, List.drop_eq_nil_iff] at hd
          obtain rfl := Nat.le_antisymm h.le hd
          simp only [answer, hs]
          exact ⟨_, .nothing, h⟩
      | some (t, r) =>
          have hd := h.left
          rw [Supply.tokens_of_some hs] at hd
          have ht : ts[p]? = some t := by rw [← List.head?_drop, ← hd, List.head?_cons]
          obtain ⟨hp, -⟩ := List.getElem?_eq_some_iff.1 ht
          simp only [answer, hs]
          refine ⟨p + 1, .next ht, .of_tokens hp ?_⟩
          rw [← List.tail_drop, ← hd, List.tail_cons]
  | tokens =>
      have hr : (answer s .tokens).1 = .tokens (ts.drop p) := by rw [← h.left, answer]
      rw [hr]
      refine ⟨ts.length, .tokens, .of_tokens (Nat.le_refl _) ?_⟩
      rw [List.drop_length]
      exact tokens_drain s
  | parse =>
      obtain ⟨q, hr, hq⟩ := h.reading hts 0
      exact ⟨q, .parse hr, hq⟩
  | parseTwice =>
      obtain ⟨q, hr, hq⟩ := h.reading hts 1
      exact ⟨q, .parseTwice hr, hq⟩

theorem StandsAt.follows (hts : EndsOnce ts) (h : StandsAt ts s p) (requests : List Request) :
    Follows ts s p requests (answers s requests) := by
  induction requests generalizing s p with
  | nil => exact .nil h
  | cons request requests ih =>
      obtain ⟨q, hm, hq⟩ := h.moves hts request
      exact .cons h hm (ih hq)

/-- Every session with one lexer follows the list of its tokens, from the first one on, whatever is
requested and in which order. At each moment the lexer has an index of the list: what it still hands
out is the list from there on. A token that is taken is the one at the index, and all tokens that are taken
are all that are left. A parser returns what it returns over the list of what is left, each time that it
reads, and leaves the tokens behind the one at which it stopped last: none after a success, which
stops at the end, and all behind the refused token after a failure. Where nothing is left, a parser
starts on an end of its own, and nothing is taken. -/
theorem lexer_follows_tokens (text : String) (requests : List Request) :
    Follows (tokenize text) (Lexer.ofString text) 0 requests
      (answers (Lexer.ofString text) requests) :=
  StandsAt.follows (endsOnce_tokenize text) (.of_tokens (Nat.zero_le _) rfl) requests

end Session
end ColumnBinding
