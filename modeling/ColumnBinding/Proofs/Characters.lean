import ColumnBinding.Token.Basic

/-! The characters that a mapping text is made of. Main statements: the tests that a lexer makes hold of
exactly the characters that are named here. -/
namespace ColumnBinding

/-- A letter or a number of any script, an underscore, a dot or a hyphen. -/
def IsLiteral (c : Char) : Prop :=
  c ∈ Text.alphabetic ∨ c ∈ Text.numeric ∨ c = '_' ∨ c = '.' ∨ c = '-'

/-- A text that a name without quotes can have. -/
def IsWord (text : String) : Prop := text ≠ "" ∧ ∀ c ∈ text.toList, IsLiteral c

/-- A space, a tab, a carriage return or a line feed. -/
def IsBlank (c : Char) : Prop := c = ' ' ∨ c = '\t' ∨ c = '\r' ∨ c = '\n'

/-- The characters that are tokens on their own. -/
inductive IsMark : Char → Kind → Prop
  | equals : IsMark '=' .equals
  | comma : IsMark ',' .comma
  | leftParen : IsMark '(' .leftParen
  | rightParen : IsMark ')' .rightParen

theorem isLiteral_iff {c : Char} : isLiteral c = true ↔ IsLiteral c := by
  simp only [isLiteral, IsLiteral, Bool.or_eq_true, Text.isAlphanumeric_iff, beq_iff_eq, or_assoc]

theorem isBlank_iff {c : Char} : isBlank c = true ↔ IsBlank c := by
  simp only [isBlank, IsBlank, Bool.or_eq_true, beq_iff_eq, or_assoc]

theorem all_isBlank_iff {cs : List Char} : cs.all isBlank = true ↔ ∀ c ∈ cs, IsBlank c := by
  simp only [List.all_eq_true, isBlank_iff]

theorem isLiteral_eq_false_iff {c : Char} : isLiteral c = false ↔ ¬ IsLiteral c := by
  rw [← isLiteral_iff, Bool.not_eq_true]

theorem isBlank_eq_false_iff {c : Char} : isBlank c = false ↔ ¬ IsBlank c := by
  rw [← isBlank_iff, Bool.not_eq_true]

theorem ofMark?_eq_some_iff {c : Char} {k : Kind} : Kind.ofMark? c = some k ↔ IsMark c k := by
  constructor
  · intro h
    unfold Kind.ofMark? at h
    split at h <;> cases h <;> constructor
  · rintro (_ | _)
    all_goals rfl

theorem ofMark?_eq_none_iff {c : Char} : Kind.ofMark? c = none ↔ ∀ k, ¬ IsMark c k := by
  simp only [Option.eq_none_iff_forall_ne_some, ne_eq, ofMark?_eq_some_iff]

instance : DecidablePred IsLiteral := fun _ => decidable_of_iff _ isLiteral_iff

instance : DecidablePred IsBlank := fun _ => decidable_of_iff _ isBlank_iff

namespace IsMark

variable {c : Char} {k : Kind}

theorem not_literal (h : IsMark c k) : ¬ IsLiteral c := by
  cases h <;> decide

theorem not_blank (h : IsMark c k) : ¬ IsBlank c := by
  cases h <;> decide

theorem ne_eof (h : IsMark c k) : k ≠ .eof := by
  cases h <;> exact Kind.noConfusion

end IsMark

namespace IsLiteral

variable {c : Char}

theorem ofMark? (h : IsLiteral c) : Kind.ofMark? c = none :=
  ofMark?_eq_none_iff.2 fun _ hm => hm.not_literal h

theorem ne_quote (h : IsLiteral c) : c ≠ '"' := by
  rintro rfl
  revert h
  decide

theorem not_blank (h : IsLiteral c) : ¬ IsBlank c := by
  rintro (rfl | rfl | rfl | rfl) <;> exact absurd h (by decide)

end IsLiteral
end ColumnBinding
