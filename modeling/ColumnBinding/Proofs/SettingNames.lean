import ColumnBinding.Setting
import Mathlib.Data.Set.Function

/-! Topics, read back from the names of their settings. An option has no dot, so the last dot of a name
parts the topic from the option, whatever dots the topic has. Main statement: a topic is read from a name
exactly where it is not empty and the name is the one that its mapping has. -/
namespace ColumnBinding

namespace Setting

theorem toList_name (topic option : String) :
    (name topic option).toList = root.toList ++ (topic.toList ++ '.' :: option.toList) := by
  simp only [name, String.toList_append, List.append_assoc]
  rfl

theorem name_injOn : Set.InjOn (fun p : String × String => name p.1 p.2) {p | '.' ∉ p.2.toList} := by
  rintro ⟨topic, option⟩ (ho : '.' ∉ option.toList) ⟨other, another⟩ (ha : '.' ∉ another.toList) h
  have hl := congrArg String.toList h
  rw [toList_name, toList_name, List.append_cancel_left_eq] at hl
  have hs := splitLastDot_append topic.toList ho
  rw [hl, splitLastDot_append other.toList ha, Option.some.injEq, Prod.mk.injEq] at hs
  rw [Prod.mk.injEq, String.toList_inj.1 hs.1, String.toList_inj.1 hs.2]
  exact ⟨rfl, rfl⟩

theorem dot_notMem_mappingOption : '.' ∉ mappingOption.toList := by decide

end Setting

namespace MappingSetting

/-- Of the names that settings have, those of mappings are read, unless the topic is empty. -/
theorem ofName_name (topic : String) {option : String} (h : '.' ∉ option.toList) :
    ofName (Setting.name topic option) =
      if topic ≠ "" ∧ option = Setting.mappingOption then .ok ⟨topic⟩
      else .error (.invalidName (Setting.name topic option)) := by
  have hp : Setting.root.toList.isPrefixOf (Setting.name topic option).toList = true := by
    rw [Setting.toList_name, List.isPrefixOf_iff_prefix]
    exact List.prefix_append _ _
  have hd : (Setting.name topic option).toList.drop Setting.root.length =
      topic.toList ++ '.' :: option.toList := by
    rw [Setting.toList_name, ← String.length_toList, List.drop_left]
  simp only [ofName, hp, if_true, hd, Setting.splitLastDot_append topic.toList h,
    String.ofList_toList, ne_eq, String.toList_eq_nil_iff]

theorem eq_name_or_ofName_eq_error (name : String) :
    (∃ topic option, '.' ∉ option.toList ∧ name = Setting.name topic option) ∨
      ofName name = .error (.invalidName name) := by
  by_cases hp : Setting.root.toList.isPrefixOf name.toList = true
  · cases hs : Setting.splitLastDot (name.toList.drop Setting.root.length) with
    | none => exact .inr (by simp only [ofName, hp, if_true, hs])
    | some p =>
        obtain ⟨topic, option⟩ := p
        obtain ⟨hd, ho⟩ := Setting.splitLastDot_eq_some_iff.1 hs
        refine .inl ⟨String.ofList topic, String.ofList option, ?_, ?_⟩
        · rwa [String.toList_ofList]
        · obtain ⟨rest, hr⟩ := List.isPrefixOf_iff_prefix.1 hp
          rw [← hr, ← String.length_toList, List.drop_left] at hd
          rw [← String.toList_inj, Setting.toList_name, String.toList_ofList, String.toList_ofList,
            ← hd, hr]
  · exact .inr (if_neg hp)

theorem ofName_eq_ok_iff {name : String} {s : MappingSetting} :
    ofName name = .ok s ↔ s.topic ≠ "" ∧ name = s.name := by
  constructor
  · intro h
    rcases eq_name_or_ofName_eq_error name with ⟨topic, option, ho, rfl⟩ | he
    · rw [ofName_name topic ho] at h
      split at h
      · next hc =>
          cases h
          exact ⟨hc.1, congrArg (Setting.name topic) hc.2⟩
      · cases h
    · rw [he] at h
      cases h
  · rintro ⟨hs, rfl⟩
    exact (ofName_name s.topic Setting.dot_notMem_mappingOption).trans (if_pos ⟨hs, rfl⟩)

theorem ofName_eq_error_iff {name : String} {e : SettingError} : ofName name = .error e ↔
    e = .invalidName name ∧ ∀ topic, topic ≠ "" → name ≠ (⟨topic⟩ : MappingSetting).name := by
  have refused : (∀ topic, topic ≠ "" → name ≠ (⟨topic⟩ : MappingSetting).name) ↔
      ∀ s, ofName name ≠ .ok s := by
    simp only [ne_eq, ofName_eq_ok_iff, not_and]
    exact ⟨fun h s => h s.topic, fun h topic => h ⟨topic⟩⟩
  rw [refused]
  rcases eq_name_or_ofName_eq_error name with ⟨topic, option, ho, rfl⟩ | he
  · rw [ofName_name topic ho]
    split <;> simp [eq_comm]
  · simp [he, eq_comm]

/-- Reading a name and building one undo each other. A topic is read exactly from the name that its
mapping has, unless the topic is empty; every other name is refused, and the refusal carries the name as it
is. Of the settings of a topic, only the mapping is read. Different topics or options make different
names. -/
theorem ofName_inverts_name :
    (∀ name topic, ofName name = .ok ⟨topic⟩ ↔ topic ≠ "" ∧ name = (⟨topic⟩ : MappingSetting).name) ∧
    (∀ topic, (⟨topic⟩ : MappingSetting).name = "topic." ++ topic ++ ".mapping") ∧
    (∀ name e, ofName name = .error e ↔ e = .invalidName name ∧
      ∀ topic, topic ≠ "" → name ≠ (⟨topic⟩ : MappingSetting).name) ∧
    (∀ topic option, '.' ∉ option.toList →
      ((∃ s, ofName (Setting.name topic option) = .ok s) ↔ topic ≠ "" ∧ option = "mapping")) ∧
    Set.InjOn (fun p : String × String => Setting.name p.1 p.2) {p | '.' ∉ p.2.toList} := by
  refine ⟨fun _ _ => ofName_eq_ok_iff, name_eq, fun _ _ => ofName_eq_error_iff, ?_, Setting.name_injOn⟩
  intro topic option ho
  rw [ofName_name topic ho]
  split
  · next hc => exact iff_of_true ⟨_, rfl⟩ hc
  · next hc => exact iff_of_false (fun ⟨_, h⟩ => by cases h) hc

/-- A topic with dots at its start, names that are too short for a topic, and another option. -/
theorem ofName_inverts_name_of_dots :
    ofName "topic...mapping.mapping" = .ok ⟨"..mapping"⟩ ∧
    ofName "topic..mapping" = .error (.invalidName "topic..mapping") ∧
    ofName "topic.mapping" = .error (.invalidName "topic.mapping") ∧
    '.' ∉ "keyspace".toList ∧ ¬ ∃ s, ofName "topic.a.b.keyspace" = .ok s := by
  obtain ⟨hok, hname, herr, hopt, -⟩ := ofName_inverts_name
  have short : ∀ name : String, name.length ≤ 14 → ofName name = .error (.invalidName name) := by
    intro name hl
    refine (herr _ _).2 ⟨rfl, ?_⟩
    rintro topic ht rfl
    have hp : topic.length ≠ 0 := fun h0 => ht (String.length_eq_zero_iff.1 h0)
    have hs : "topic.".length = 6 ∧ ".mapping".length = 8 := by decide
    rw [hname, String.length_append, String.length_append] at hl
    omega
  have hk : '.' ∉ "keyspace".toList := by decide
  refine ⟨(hok _ _).2 ⟨by decide, by decide⟩, short _ (by decide), short _ (by decide), hk, ?_⟩
  intro hs
  exact absurd ((hopt "a.b" "keyspace" hk).1 hs).2 (by decide)

end MappingSetting
end ColumnBinding
