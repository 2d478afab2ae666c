/-! Places in a text: the byte offset of its UTF-8 form, the line, and the column in characters. -/
namespace ColumnBinding

structure Position where
  offset : Nat
  line : Nat
  column : Nat
deriving DecidableEq

namespace Position

def start : Position := ⟨0, 1, 1⟩

/-- The place behind a character. Only a line feed begins a line. -/
def next (p : Position) (c : Char) : Position :=
  if c = '\n' then ⟨p.offset + c.utf8Size, p.line + 1, 1⟩
  else ⟨p.offset + c.utf8Size, p.line, p.column + 1⟩

def after (p : Position) (cs : List Char) : Position := cs.foldl next p

@[simp] theorem after_nil (p : Position) : p.after [] = p := rfl
@[simp] theorem after_cons (p : Position) (c : Char) (cs : List Char) :
    p.after (c :: cs) = (p.next c).after cs := rfl
@[simp] theorem after_append (p : Position) (cs ds : List Char) :
    p.after (cs ++ ds) = (p.after cs).after ds := List.foldl_append

theorem next_offset (p : Position) (c : Char) : (p.next c).offset = p.offset + c.utf8Size := by
  unfold next
  split <;> rfl

theorem next_line (p : Position) (c : Char) :
    (p.next c).line = p.line + if c = '\n' then 1 else 0 := by
  unfold next
  split <;> rfl

theorem after_offset (p : Position) (cs : List Char) :
    (p.after cs).offset = p.offset + (String.ofList cs).utf8ByteSize := by
  induction cs generalizing p with
  | nil => rfl
  | cons c cs ih =>
      rw [after_cons, ih, next_offset, String.ofList_cons, String.utf8ByteSize_append,
        String.utf8ByteSize_singleton, Nat.add_assoc]

theorem after_line (p : Position) (cs : List Char) :
    (p.after cs).line = p.line + cs.count '\n' := by
  induction cs generalizing p with
  | nil => rfl
  | cons c cs ih =>
      simp only [after_cons, ih, next_line, List.count_cons, beq_iff_eq]
      omega

end Position

/-- A stretch of text: where it starts, and the byte offset at which it stops. -/
structure Span where
  start : Position
  stop : Nat
deriving DecidableEq

namespace Span

def zero : Span := ⟨.start, 0⟩

/-- The empty stretch at the end of another one, which keeps its line and column. -/
def ending (s : Span) : Span := ⟨{ s.start with offset := s.stop }, s.stop⟩

def through (s t : Span) : Span := ⟨s.start, t.stop⟩

end Span
end ColumnBinding
