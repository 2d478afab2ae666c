import ColumnBinding.Token.Basic

/-! Finite supplies of tokens. -/
namespace ColumnBinding

/-- Tokens that are taken one at a time, and that run out. -/
class Supply (σ : Type) where
  next? : σ → Option (Token × σ)
  left : σ → Nat
  left_lt : ∀ {s r : σ} {t : Token}, next? s = some (t, r) → left r < left s

namespace Supply

def tokens {σ : Type} [Supply σ] (s : σ) : List Token :=
  match _h : next? s with
  | none => []
  | some (t, r) => t :: tokens r
termination_by left s
decreasing_by exact left_lt _h

theorem tokens_of_none {σ : Type} [Supply σ] {s : σ} (h : next? s = none) : tokens s = [] := by
  rw [tokens]
  split <;> simp_all

theorem tokens_of_some {σ : Type} [Supply σ] {s r : σ} {t : Token} (h : next? s = some (t, r)) :
    tokens s = t :: tokens r := by
  rw [tokens]
  split <;> simp_all

instance : Supply (List Token) where
  next?
    | [] => none
    | t :: ts => some (t, ts)
  left := List.length
  left_lt := by
    intro s r t h
    cases s with
    | nil => cases h
    | cons a s =>
        cases h
        exact Nat.lt_succ_self _

@[simp] theorem tokens_list (ts : List Token) : tokens ts = ts := by
  induction ts with
  | nil => exact tokens_of_none rfl
  | cons t ts ih => rw [tokens_of_some (s := t :: ts) rfl, ih]

end Supply
end ColumnBinding
