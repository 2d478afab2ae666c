import ColumnBinding.Proofs.LastBindings
import Mathlib.Data.Finset.Card

/-! Tables over their whole history. However a table is built, it tells of its history the last insert of
each column, and nothing else. Main statement: columns, fields, look-ups and sizes are those of the last
inserts, so two histories make the same table exactly where their last inserts are the same. -/
namespace ColumnBinding.ColumnTable

/-- How a table is changed. -/
inductive Change where
  | insert (column field : Name)
  /-- A new table is collected from pairs, in place of the old one. -/
  | collect (pairs : List (Name × Name))
  /-- A new table is collected from the pairs of the old one, and more behind them. -/
  | collectMore (pairs : List (Name × Name))
deriving DecidableEq

def change (t : ColumnTable) : Change → ColumnTable
  | .insert column field => t.insert column field
  | .collect ps => .ofList ps
  | .collectMore ps => .ofList (t.pairs ++ ps)

/-- The table after changes to the empty one. -/
def replay (history : List Change) : ColumnTable := history.foldl change .empty

/-- The pairs that are inserted by one more change, where `ps` are inserted before. A table that is
collected anew knows only its own ones. -/
def insertedBy (ps : List (Name × Name)) : Change → List (Name × Name)
  | .insert column field => ps ++ [(column, field)]
  | .collect qs => qs
  | .collectMore qs => ps ++ qs

/-- The inserts that made the table, in turn. -/
def inserted (history : List Change) : List (Name × Name) := history.foldl insertedBy []

theorem change_ofList (ps : List (Name × Name)) (step : Change) :
    (ofList ps).change step = ofList (insertedBy ps step) := by
  cases step with
  | insert column field => rw [insertedBy, ofList_append]; rfl
  | collect qs => rfl
  | collectMore qs => rw [change, insertedBy, ofList_append, ofList_append, ofList_pairs]

theorem replay_eq_ofList (history : List Change) : replay history = ofList (inserted history) := by
  have run : ∀ ps, history.foldl change (ofList ps) = ofList (history.foldl insertedBy ps) := by
    induction history with
    | nil => exact fun _ => rfl
    | cons step history ih =>
        intro ps
        rw [List.foldl_cons, List.foldl_cons, change_ofList, ih]
  exact run []

/-- The pair is the last insert of its column. -/
def IsLastInsert (ps : List (Name × Name)) (p : Name × Name) : Prop :=
  ∃ before behind, ps = before ++ p :: behind ∧ p.1 ∉ behind.map Prod.fst

theorem not_isLastInsert_nil {p : Name × Name} : ¬ IsLastInsert [] p := by
  rintro ⟨before, behind, h, -⟩
  exact List.append_ne_nil_of_right_ne_nil before (List.cons_ne_nil p behind) h.symm

theorem isLastInsert_cons {p q : Name × Name} {ps : List (Name × Name)} :
    IsLastInsert (q :: ps) p ↔ p = q ∧ q.1 ∉ ps.map Prod.fst ∨ IsLastInsert ps p := by
  constructor
  · rintro ⟨before, behind, h, hp⟩
    cases before with
    | nil =>
        cases h
        exact .inl ⟨rfl, hp⟩
    | cons d before =>
        cases h
        exact .inr ⟨before, behind, rfl, hp⟩
  · rintro (⟨rfl, hp⟩ | ⟨before, behind, rfl, hp⟩)
    · exact ⟨[], ps, rfl, hp⟩
    · exact ⟨q :: before, behind, rfl, hp⟩

theorem mem_lastBindings_iff {ps : List (Name × Name)} {p : Name × Name} :
    p ∈ lastBindings ps ↔ IsLastInsert ps p := by
  induction ps with
  | nil => exact iff_of_false List.not_mem_nil not_isLastInsert_nil
  | cons q ps ih =>
      rw [isLastInsert_cons, lastBindings]
      by_cases hq : q.1 ∈ ps.map Prod.fst
      · have hn : ¬ (p = q ∧ q.1 ∉ ps.map Prod.fst) := fun h => h.2 hq
        rw [if_pos hq, ih, or_iff_right hn]
      · rw [if_neg hq, List.mem_cons, ih, and_iff_left hq]

theorem get?_eq_some_iff {t : ColumnTable} {column field : Name} :
    t.get? column = some field ↔ (column, field) ∈ t.pairs := by
  rw [get?, List.lookup_eq_some_iff]
  constructor
  · rintro ⟨before, behind, h, -⟩
    rw [h]
    exact List.mem_append_right _ (.head _)
  · intro h
    obtain ⟨before, behind, he⟩ := List.append_of_mem h
    refine ⟨before, behind, he, ?_⟩
    intro p hp
    have hd := t.distinct
    rw [he, List.map_append, List.nodup_append] at hd
    exact bne_iff_ne.2 (hd.2.2 p.1 (List.mem_map_of_mem hp) column (.head _)).symm

theorem get?_eq_none_iff {t : ColumnTable} {column : Name} :
    t.get? column = none ↔ column ∉ t.columns := by
  rw [get?, List.lookup_eq_none_iff, columns, List.mem_map]
  constructor
  · rintro h ⟨p, hp, rfl⟩
    exact bne_iff_ne.1 (h p hp) rfl
  · intro h p hp
    exact bne_iff_ne.2 fun he => h ⟨p, hp, he.symm⟩

/-- What a table tells of the inserts that made it. -/
structure Records (t : ColumnTable) (ps : List (Name × Name)) : Prop where
  distinct : t.columns.Nodup
  columns : t.columns = (lastBindings ps).map Prod.fst
  fields : t.fields = (lastBindings ps).map Prod.snd
  mem_columns : ∀ column, column ∈ t.columns ↔ column ∈ ps.map Prod.fst
  bound : ∀ column field, t.get? column = some field ↔ IsLastInsert ps (column, field)
  unbound : ∀ column, t.get? column = none ↔ column ∉ ps.map Prod.fst
  size : t.size = (ps.map Prod.fst).toFinset.card
  collected : ofList t.pairs = t

/-- The table `u` is what one more insert makes of `t`, which returns `previous`. -/
structure Replaces (t u : ColumnTable) (column field : Name) (previous : Option Name) : Prop where
  returns : previous = t.get? column
  binds : u.get? column = some field
  fields : ∀ other ≠ column, u.get? other = t.get? other
  order : (u.pairs.filter fun p => p.1 != column) = t.pairs.filter fun p => p.1 != column

theorem records_ofList (ps : List (Name × Name)) : Records (ofList ps) ps := by
  have hc : ∀ column, column ∈ (ofList ps).columns ↔ column ∈ ps.map Prod.fst :=
    fun _ => mem_columns_ofList
  refine ⟨(ofList ps).distinct, ?_, ?_, hc, ?_, ?_, ?_, ofList_pairs _⟩
  · rw [columns, pairs_ofList]
  · rw [fields, pairs_ofList]
  · intro column field
    rw [get?_eq_some_iff, pairs_ofList, mem_lastBindings_iff]
  · intro column
    rw [get?_eq_none_iff, hc]
  · have hs : (ofList ps).columns.toFinset = (ps.map Prod.fst).toFinset := by
      ext column
      rw [List.mem_toFinset, List.mem_toFinset, hc]
    have hn : (ofList ps).columns.Nodup := (ofList ps).distinct
    rw [← hs, List.toFinset_card_of_nodup hn, columns, List.length_map, size]

theorem filter_insert (t : ColumnTable) (column field : Name) :
    ((t.insert column field).pairs.filter fun p => p.1 != column) =
      t.pairs.filter fun p => p.1 != column := by
  rw [pairs_insert, List.filter_append, List.filter_filter]
  simp

theorem replaces_insert (t : ColumnTable) (column field : Name) :
    Replaces t (t.insert column field) column field (t.replace column field).1 := by
  have same : ∀ other ≠ column, ∀ f,
      (other, f) ∈ (t.insert column field).pairs ↔ (other, f) ∈ t.pairs := by
    intro other ho f
    have hp : ((other, f).1 != column) = true := bne_iff_ne.2 ho
    have hf := congrArg ((other, f) ∈ ·) (filter_insert t column field)
    simpa only [List.mem_filter, hp, and_true, eq_iff_iff] using hf
  refine ⟨extract_fst column t.pairs, ?_, ?_, filter_insert t column field⟩
  · rw [get?_eq_some_iff, pairs_insert]
    exact List.mem_append_right _ (.head _)
  · intro other ho
    apply Option.ext
    intro f
    rw [get?_eq_some_iff, get?_eq_some_iff, same other ho]

/-- The table over any history of inserts, one by one or collected. -/
theorem replay_records_last_inserts (history : List Change) :
    Records (replay history) (inserted history) ∧
    (∀ column field, replay (history ++ [.insert column field]) =
        ((replay history).replace column field).2 ∧
      Replaces (replay history) (replay (history ++ [.insert column field])) column field
        ((replay history).replace column field).1) ∧
    ∀ other : List Change, replay other = replay history ↔
      lastBindings (inserted other) = lastBindings (inserted history) := by
  refine ⟨?_, ?_, ?_⟩
  · rw [replay_eq_ofList]
    exact records_ofList (inserted history)
  · intro column field
    have step : replay (history ++ [.insert column field]) = (replay history).insert column field :=
      List.foldl_append
    rw [step]
    exact ⟨rfl, replaces_insert (replay history) column field⟩
  · intro other
    rw [replay_eq_ofList, replay_eq_ofList, ← pairs_ofList, ← pairs_ofList]
    exact ⟨congrArg pairs, ext⟩

/-- A column moves to the end with each insert, also where the pairs of the table are collected again. -/
example : (replay [.insert "a" "x", .insert "b" "y", .insert "a" "z",
    .collectMore [("c", "w"), ("b", "v")]]).pairs = [("a", "z"), ("c", "w"), ("b", "v")] := by
  decide

end ColumnBinding.ColumnTable
