import ColumnBinding.Entry.Basic
import ColumnBinding.SyntaxError
import ColumnBinding.Token.Basic

/-! The grammar of a mapping, `column '=' field (',' column '=' field)*`, read one token at a
time. A field is a name, or a name without quotes followed by `'(' ')'`. -/
namespace ColumnBinding

/-- What comes next, with what is known of the entry at hand. -/
inductive Stage where
  | column
  | equals (column : WrittenName)
  | field (column : WrittenName)
  | closing (column : WrittenName) (function : String) (span : Span)
  | separator (entry : Entry)
deriving DecidableEq

/-- What a token does. Only `next` and `finish` take it. -/
inductive Step where
  | next (stage : Stage)
  /-- The entry is complete, and another one follows. -/
  | finish (entry : Entry)
  /-- The entry is complete, and it is the last one. -/
  | accept (entry : Entry)
  | reject (error : SyntaxError)
deriving DecidableEq

namespace Stage

/-- What is wrong with a token that does not fit. -/
def complaint (stage : Stage) (found : Kind) : String :=
  match stage with
  | .column => "mismatched input " ++ found.describe ++ " expecting column"
  | .equals _ => "missing '=' at " ++ found.describe
  | .field _ => "mismatched input " ++ found.describe ++ " expecting field"
  | .closing _ _ _ => "mismatched input " ++ found.describe ++ " expecting ')'"
  | .separator _ => "extraneous input " ++ found.describe ++ " expecting \x7b',', <EOF>\x7d"

/-- A token that is no text of the language speaks for itself. -/
def reject (stage : Stage) (t : Token) : Step :=
  let message := match t.kind with
    | .invalid message => message
    | kind => stage.complaint kind
  .reject ⟨message, t.span.start.line, t.span.start.column⟩

def name? (t : Token) : Option WrittenName :=
  match t.kind with
  | .literal text => some (.literal text t.span)
  | .quoted inner => some (.quoted inner t.span)
  | _ => none

/-- What a token does at a stage. A token that does not fit is refused, and is not taken. -/
def step (stage : Stage) (t : Token) : Step :=
  match stage, t.kind with
  | .column, _ =>
      match name? t with
      | some name => .next (.equals name)
      | none => stage.reject t
  | .equals c, .equals => .next (.field c)
  | .field c, _ =>
      match name? t with
      | some name => .next (.separator (.of c (.name name)))
      | none => stage.reject t
  | .closing c f s, .rightParen => .next (.separator (.of c (.call f (s.through t.span))))
  | .separator entry, .comma => .finish entry
  | .separator entry, .eof => .accept entry
  | .separator ⟨c, .name (.literal text s), _⟩, .leftParen => .next (.closing c text s)
  | _, _ => stage.reject t

/-- Nothing follows the end. -/
theorem step_eof (stage : Stage) {t : Token} (h : t.kind = .eof) :
    (∃ entry, stage.step t = .accept entry) ∨ ∃ error, stage.step t = .reject error := by
  cases stage <;> simp [step, name?, reject, h]

theorem kind_of_next {stage next : Stage} {t : Token} (h : stage.step t = .next next) :
    t.kind ≠ .eof := by
  intro he
  rcases step_eof stage he with ⟨_, hs⟩ | ⟨_, hs⟩ <;> rw [h] at hs <;> cases hs

theorem kind_of_finish {stage : Stage} {entry : Entry} {t : Token}
    (h : stage.step t = .finish entry) : t.kind ≠ .eof := by
  intro he
  rcases step_eof stage he with ⟨_, hs⟩ | ⟨_, hs⟩ <;> rw [h] at hs <;> cases hs

end Stage
end ColumnBinding
