/-! Sets of characters, given by ranges of code points. Main statement: what is found in a set are the
characters of its ranges. -/
namespace ColumnBinding.Text

/-- Each range begins beyond the end of the one before it. -/
def ascends : List (Nat × Nat) → Bool
  | [] => true
  | r :: rs => r.1 ≤ r.2 && (rs.head?.all fun s => decide (r.2 < s.1)) && ascends rs

/-- Inclusive ranges of code points, in ascending order. -/
structure CodePoints where
  ranges : List (Nat × Nat)
  ascending : ascends ranges = true := by decide +kernel

/-- Looks for a range that holds `n`, up to the first that begins beyond it. -/
def search (n : Nat) : List (Nat × Nat) → Bool
  | [] => false
  | (low, high) :: rs => low ≤ n && (n ≤ high || search n rs)

def CodePoints.contains (s : CodePoints) (c : Char) : Bool := search c.toNat s.ranges

instance : Membership Char CodePoints where
  mem s c := ∃ r ∈ s.ranges, r.1 ≤ c.toNat ∧ c.toNat ≤ r.2

theorem low_le_of_ascends {r : Nat × Nat} {rs : List (Nat × Nat)} (h : ascends (r :: rs) = true) :
    ∀ s ∈ rs, r.1 ≤ s.1 := by
  induction rs generalizing r with
  | nil =>
      intro s hs
      cases hs
  | cons q rs ih =>
      simp only [ascends, Bool.and_eq_true, decide_eq_true_eq, List.head?_cons, Option.all_some] at h ih
      have hq : r.1 ≤ q.1 := by omega
      intro s hs
      cases hs with
      | head => exact hq
      | tail _ hs => exact Nat.le_trans hq (ih h.2 s hs)

/-- No range is missed, since those behind the one that begins beyond `n` begin beyond it, too. -/
theorem search_eq_true_iff {n : Nat} {rs : List (Nat × Nat)} (h : ascends rs = true) :
    search n rs = true ↔ ∃ r ∈ rs, r.1 ≤ n ∧ n ≤ r.2 := by
  induction rs with
  | nil => simp [search]
  | cons r rs ih =>
      have ht : ascends rs = true := (Bool.and_eq_true_iff.1 h).2
      rw [search, Bool.and_eq_true, Bool.or_eq_true, decide_eq_true_eq, decide_eq_true_eq, ih ht]
      constructor
      · rintro ⟨hl, hn | ⟨s, hs, hn⟩⟩
        · exact ⟨r, .head _, hl, hn⟩
        · exact ⟨s, .tail _ hs, hn⟩
      · rintro ⟨s, hs, hl, hn⟩
        cases hs with
        | head => exact ⟨hl, .inl hn⟩
        | tail _ hs => exact ⟨Nat.le_trans (low_le_of_ascends h s hs) hl, .inr ⟨s, hs, hl, hn⟩⟩

theorem CodePoints.contains_iff {s : CodePoints} {c : Char} : s.contains c = true ↔ c ∈ s :=
  search_eq_true_iff s.ascending

end ColumnBinding.Text
