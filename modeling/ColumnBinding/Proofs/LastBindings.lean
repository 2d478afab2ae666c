import ColumnBinding.ColumnTable.Basic
import Mathlib.Data.List.FinRange

/-! Tables as the last bindings of their columns. Main statement: binding a list of pairs in turn
leaves of each column the pair that is not followed by another one, in the order of the list. -/
namespace ColumnBinding.ColumnTable

/-- The pairs whose column does not occur again. -/
def lastBindings : List (Name × Name) → List (Name × Name)
  | [] => []
  | p :: ps => if p.1 ∈ ps.map Prod.fst then lastBindings ps else p :: lastBindings ps

theorem lastBindings_sublist (ps : List (Name × Name)) : (lastBindings ps).Sublist ps := by
  induction ps with
  | nil => exact .slnil
  | cons p ps ih =>
      rw [lastBindings]
      split
      · exact ih.cons p
      · exact ih.cons_cons p

theorem pairs_insertMany (t : ColumnTable) (ps : List (Name × Name)) :
    (t.insertMany ps).pairs =
      (t.pairs.filter fun q => decide (q.1 ∉ ps.map Prod.fst)) ++ lastBindings ps := by
  induction ps generalizing t with
  | nil => simp [insertMany, lastBindings]
  | cons p ps ih =>
      have hi : t.insertMany (p :: ps) = (t.insert p.1 p.2).insertMany ps := rfl
      have hf : (t.pairs.filter fun q => q.1 != p.1).filter (fun q => decide (q.1 ∉ ps.map Prod.fst)) =
          t.pairs.filter fun q => decide (q.1 ∉ (p :: ps).map Prod.fst) := by
        rw [List.filter_filter]
        apply List.filter_congr
        intro q _
        rw [Bool.eq_iff_iff]
        simp only [Bool.and_eq_true, decide_eq_true_eq, bne_iff_ne, List.map_cons, List.mem_cons, not_or]
        exact and_comm
      rw [hi, ih, pairs_insert, List.filter_append, hf, List.append_assoc]
      by_cases hp : p.1 ∈ ps.map Prod.fst
      · simp [lastBindings, hp]
      · simp [lastBindings, hp]

theorem pairs_ofList (ps : List (Name × Name)) : (ofList ps).pairs = lastBindings ps := by
  rw [ofList, pairs_insertMany]
  rfl

theorem lastBindings_of_nodup {ps : List (Name × Name)} (h : (ps.map Prod.fst).Nodup) :
    lastBindings ps = ps := by
  induction ps with
  | nil => rfl
  | cons p ps ih =>
      obtain ⟨hp, hn⟩ := List.nodup_cons.1 h
      rw [lastBindings, if_neg hp, ih hn]

theorem ofList_pairs (t : ColumnTable) : ofList t.pairs = t :=
  ext ((pairs_ofList t.pairs).trans (lastBindings_of_nodup t.distinct))

theorem lastBindings_map {α : Type} (f : α → Name × Name) (as : List α) :
    lastBindings (as.map f) = ((List.finRange as.length).filter fun i =>
      decide (∀ j, i < j → (f (as.get j)).1 ≠ (f (as.get i)).1)).map fun i => f (as.get i) := by
  induction as with
  | nil => rfl
  | cons a as ih =>
      have head : (∀ j : Fin (as.length + 1), 0 < j → (f ((a :: as).get j)).1 ≠ (f a).1) ↔
          (f a).1 ∉ (as.map f).map Prod.fst := by
        rw [Fin.forall_fin_succ]
        constructor
        · rintro ⟨-, h⟩ hp
          obtain ⟨_, hq, he⟩ := List.mem_map.1 hp
          obtain ⟨b, hb, rfl⟩ := List.mem_map.1 hq
          obtain ⟨j, rfl⟩ := List.mem_iff_get.1 hb
          exact h j (Fin.succ_pos j) he
        · intro h
          constructor
          · intro h0
            exact absurd h0 (lt_irrefl _)
          · intro j _ he
            exact h (List.mem_map.2 ⟨_, List.mem_map_of_mem (List.get_mem as j), he⟩)
      have tail : ∀ i : Fin as.length,
          (∀ j : Fin (as.length + 1), i.succ < j →
            (f ((a :: as).get j)).1 ≠ (f ((a :: as).get i.succ)).1) ↔
          ∀ j, i < j → (f (as.get j)).1 ≠ (f (as.get i)).1 := by
        intro i
        rw [Fin.forall_fin_succ]
        constructor
        · rintro ⟨-, h⟩ j hj
          exact h j (Fin.succ_lt_succ_iff.2 hj)
        · intro h
          constructor
          · intro h0
            exact absurd h0 (Fin.not_lt_zero _)
          · intro j hj
            exact h j (Fin.succ_lt_succ_iff.1 hj)
      rw [List.map_cons, lastBindings, ih]
      simp only [List.length_cons, List.finRange_succ, List.filter_cons, List.filter_map,
        List.get_cons_zero, head, Function.comp_def, tail]
      split <;> simp_all [Function.comp_def]

theorem mem_columns_insert {t : ColumnTable} {column field c : Name} :
    c ∈ (t.insert column field).columns ↔ c ∈ t.columns ∨ c = column := by
  simp only [columns, pairs_insert, List.map_append, List.mem_append, List.map_cons, List.map_nil,
    List.mem_singleton]
  constructor
  · rintro (h | rfl)
    · exact .inl ((List.filter_sublist.map _).subset h)
    · exact .inr rfl
  · intro h
    by_cases hc : c = column
    · exact .inr hc
    · obtain ⟨p, hp, rfl⟩ := List.mem_map.1 (h.resolve_right hc)
      exact .inl (List.mem_map_of_mem (List.mem_filter.2 ⟨hp, bne_iff_ne.2 hc⟩))

theorem mem_columns_insertMany {t : ColumnTable} {ps : List (Name × Name)} {c : Name} :
    c ∈ (t.insertMany ps).columns ↔ c ∈ t.columns ∨ c ∈ ps.map Prod.fst := by
  induction ps generalizing t with
  | nil => simp only [insertMany, List.foldl_nil, List.map_nil, List.not_mem_nil, or_false]
  | cons p ps ih =>
      have hi : t.insertMany (p :: ps) = (t.insert p.1 p.2).insertMany ps := rfl
      rw [hi, ih, mem_columns_insert, List.map_cons, List.mem_cons, or_assoc]

theorem mem_columns_ofList {ps : List (Name × Name)} {c : Name} :
    c ∈ (ofList ps).columns ↔ c ∈ ps.map Prod.fst := by
  rw [ofList, mem_columns_insertMany]
  simp only [columns, empty, List.map_nil, List.not_mem_nil, false_or]

theorem ofList_append (ps qs : List (Name × Name)) :
    ofList (ps ++ qs) = (ofList ps).insertMany qs := List.foldl_append

theorem insertMany_ofList (t : ColumnTable) (ps : List (Name × Name)) :
    t.insertMany (ofList ps).pairs = t.insertMany ps := by
  have hc : ∀ c, c ∈ (ofList ps).pairs.map Prod.fst ↔ c ∈ ps.map Prod.fst :=
    fun _ => mem_columns_ofList
  apply ext
  rw [pairs_insertMany, pairs_insertMany, lastBindings_of_nodup (ofList ps).distinct]
  simp only [hc]
  rw [pairs_ofList]

/-- The columns that are bound again are those that two tables share. -/
theorem size_insertMany (t : ColumnTable) (ps : List (Name × Name)) :
    (t.insertMany ps).size + (t.columns.filter fun c => (ofList ps).contains c).length =
      t.size + (ofList ps).size := by
  have hl := List.length_eq_countP_add_countP
    (fun p : Name × Name => decide (p.1 ∉ ps.map Prod.fst)) (l := t.pairs)
  have hc : t.pairs.countP (fun p => decide ¬ (decide (p.1 ∉ ps.map Prod.fst)) = true) =
      (t.columns.filter fun c => (ofList ps).contains c).length := by
    rw [← List.countP_eq_length_filter, columns, List.countP_map]
    apply List.countP_congr
    intro p _
    simp only [decide_eq_true_eq, not_not, Function.comp_apply, contains, List.contains_iff_mem,
      mem_columns_ofList]
  rw [hc, List.countP_eq_length_filter] at hl
  simp only [size, pairs_insertMany, List.length_append, pairs_ofList]
  omega

theorem size_insert (t : ColumnTable) (column field : Name) :
    (t.insert column field).size = t.size + if column ∈ t.columns then 0 else 1 := by
  have hl := List.length_eq_countP_add_countP (fun p : Name × Name => p.1 != column) (l := t.pairs)
  have hc : t.pairs.countP (fun p => decide ¬((p.1 != column) = true)) =
      if column ∈ t.columns then 1 else 0 := by
    refine Eq.trans ?_ t.distinct.count
    rw [List.count, List.countP_map]
    apply List.countP_congr
    intro p _
    simp
  rw [hc] at hl
  simp only [size, pairs_insert, List.length_append, List.length_singleton,
    ← List.countP_eq_length_filter]
  by_cases hm : column ∈ t.columns
  · rw [if_pos hm] at hl ⊢
    omega
  · rw [if_neg hm] at hl ⊢
    omega

end ColumnBinding.ColumnTable
