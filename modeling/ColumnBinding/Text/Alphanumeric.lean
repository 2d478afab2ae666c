import ColumnBinding.Text.Alphabetic
import ColumnBinding.Text.Numeric

/-! Letters and numbers of every script. Main statement: they are the characters of the two tables, though
ASCII is answered for without them. -/
namespace ColumnBinding.Text

/-- The letters and digits of ASCII, and what the tables hold beyond it. -/
def isAlphanumeric (c : Char) : Bool :=
  if c.toNat < 0x80 then c.isAlphanum else alphabetic.contains c || numeric.contains c

theorem all_isAlphanum_eq : ((List.range 0x80).map Char.ofNat).all (fun c =>
    c.isAlphanum == (alphabetic.contains c || numeric.contains c)) = true := by
  decide +kernel

theorem isAlphanumeric_eq (c : Char) :
    isAlphanumeric c = (alphabetic.contains c || numeric.contains c) := by
  unfold isAlphanumeric
  split
  · next h =>
      have hc : c ∈ (List.range 0x80).map Char.ofNat :=
        List.mem_map.2 ⟨c.toNat, List.mem_range.2 h, Char.ofNat_toNat c⟩
      exact beq_iff_eq.1 (List.all_eq_true.1 all_isAlphanum_eq c hc)
  · rfl

theorem isAlphanumeric_iff {c : Char} : isAlphanumeric c = true ↔ c ∈ alphabetic ∨ c ∈ numeric := by
  rw [isAlphanumeric_eq, Bool.or_eq_true, CodePoints.contains_iff, CodePoints.contains_iff]

end ColumnBinding.Text
