import ColumnBinding.Entry.Parser

/-! Several readers that share one supply of tokens, one after the other. -/
namespace ColumnBinding.Session

inductive Request where
  | next
  | tokens
  /-- Read one mapping with a new parser. -/
  | parse
  /-- Read twice with one new parser. -/
  | parseTwice
deriving DecidableEq

inductive Reply where
  | next (token : Option Token)
  | tokens (tokens : List Token)
  | parse (result : Except SyntaxError (List Entry))
  | parseTwice (results : List (Except SyntaxError (List Entry)))

/-- The supply after all its tokens are taken. -/
def drain {σ : Type} [Supply σ] (s : σ) : σ :=
  match _h : Supply.next? s with
  | none => s
  | some (_, r) => drain r
termination_by Supply.left s
decreasing_by exact Supply.left_lt _h

variable {σ : Type} [Supply σ]

/-- The reply to a request, and what it leaves of the supply. -/
def answer (s : σ) : Request → Reply × σ
  | .next =>
      match Supply.next? s with
      | none => (.next none, s)
      | some (t, r) => (.next (some t), r)
  | .tokens => (.tokens (Supply.tokens s), drain s)
  | .parse =>
      let (result, p) := (Parser.ofSupply s).parse
      (.parse result, p.supply)
  | .parseTwice =>
      let (results, p) := (Parser.ofSupply s).parseTimes 2
      (.parseTwice results, p.supply)

/-- The replies to requests in turn. -/
def answers (s : σ) : List Request → List Reply
  | [] => []
  | q :: qs => (answer s q).1 :: answers (answer s q).2 qs

end ColumnBinding.Session
