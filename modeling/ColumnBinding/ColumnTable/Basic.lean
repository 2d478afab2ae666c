import ColumnBinding.Name

/-! Ordered tables from columns to fields. A column occurs once; binding it again moves it to the
end. -/
namespace ColumnBinding

/-- Pairs of a column and its field, in the order in which the columns were last bound. -/
structure ColumnTable where
  pairs : List (Name × Name)
  distinct : (pairs.map Prod.fst).Nodup
deriving DecidableEq

namespace ColumnTable

def empty : ColumnTable := ⟨[], .nil⟩

def columns (t : ColumnTable) : List Name := t.pairs.map Prod.fst
def fields (t : ColumnTable) : List Name := t.pairs.map Prod.snd
def size (t : ColumnTable) : Nat := t.pairs.length
def isEmpty (t : ColumnTable) : Bool := t.pairs.isEmpty
def get? (t : ColumnTable) (column : Name) : Option Name := t.pairs.lookup column
def contains (t : ColumnTable) (column : Name) : Bool := t.columns.contains column

@[ext] theorem ext {s t : ColumnTable} (h : s.pairs = t.pairs) : s = t := by
  cases s
  cases t
  cases h
  rfl

/-- Takes the first pair of a column out of a list, with the field that it held. -/
def extract (column : Name) : List (Name × Name) → Option Name × List (Name × Name)
  | [] => (none, [])
  | (c, f) :: ps =>
      if column = c then (some f, ps)
      else ((extract column ps).1, (c, f) :: (extract column ps).2)

theorem extract_fst (column : Name) (ps : List (Name × Name)) :
    (extract column ps).1 = ps.lookup column := by
  induction ps with
  | nil => rfl
  | cons p ps ih =>
      obtain ⟨c, f⟩ := p
      by_cases h : column = c
      · simp [extract, h]
      · simp [extract, List.lookup_cons, h, beq_false_of_ne h, ih]

theorem extract_snd {ps : List (Name × Name)} (h : (ps.map Prod.fst).Nodup) (column : Name) :
    (extract column ps).2 = ps.filter fun p => p.1 != column := by
  induction ps with
  | nil => rfl
  | cons p ps ih =>
      rw [List.map_cons, List.nodup_cons] at h
      by_cases hc : column = p.1
      · subst hc
        have hp : ∀ q ∈ ps, (q.1 != p.1) = true := fun q hq =>
          bne_iff_ne.2 fun he => h.1 (he ▸ List.mem_map_of_mem hq)
        simp [extract, List.filter_eq_self.2 hp]
      · have hn : p.1 ≠ column := fun he => hc he.symm
        simp [extract, hc, hn, ih h.2]

/-- Binds a column at the end of the table, and returns the field that it was bound to. -/
def replace (t : ColumnTable) (column field : Name) : Option Name × ColumnTable :=
  ((extract column t.pairs).1,
    ⟨(extract column t.pairs).2 ++ [(column, field)], by
      rw [extract_snd t.distinct, List.map_append, List.nodup_append]
      refine ⟨t.distinct.sublist (List.filter_sublist.map _), by simp, ?_⟩
      simp only [List.mem_map, List.mem_filter]
      rintro a ⟨p, ⟨_, hp⟩, rfl⟩ b ⟨q, hq, rfl⟩ he
      cases List.mem_singleton.1 hq
      exact (bne_iff_ne.1 hp) he⟩)

def insert (t : ColumnTable) (column field : Name) : ColumnTable := (t.replace column field).2

/-- The other pairs stay as they are, and the new one comes last. -/
theorem pairs_insert (t : ColumnTable) (column field : Name) :
    (t.insert column field).pairs =
      (t.pairs.filter fun p => p.1 != column) ++ [(column, field)] := by
  rw [← extract_snd t.distinct]
  rfl

def insertMany (t : ColumnTable) (ps : List (Name × Name)) : ColumnTable :=
  ps.foldl (fun t p => t.insert p.1 p.2) t

def ofList (ps : List (Name × Name)) : ColumnTable := empty.insertMany ps

def toJson (t : ColumnTable) : Json := .object (t.pairs.map fun p => (p.1, p.2.toJson))

end ColumnTable
end ColumnBinding
