import ColumnBinding.Proofs.Spelling
import Mathlib.Data.Set.Function

/-! What stands between the quotes of a token. Main statement: the inner texts of quoted tokens are those
in which every run of quotes is even, which are those that doubling makes of some text; so an inner text
and the name for which it stands determine each other. -/
namespace ColumnBinding

namespace Text.Quoted

theorem enclose_eq (text : String) :
    enclose text = "\"" ++ String.ofList (encode text.toList) ++ "\"" := by
  rw [← String.toList_inj, String.toList_append, String.toList_append]
  simp only [enclose, String.toList_ofList]
  rfl

theorem exists_enclose_eq (text : String) :
    ∃ inner, enclose text = "\"" ++ inner ++ "\"" ∧ collapse inner = text := by
  refine ⟨String.ofList (encode text.toList), enclose_eq text, ?_⟩
  rw [collapse, String.toList_ofList, decode_encode, String.ofList_toList]

theorem enclose_collapse_eq_iff {inner : String} :
    enclose (collapse inner) = "\"" ++ inner ++ "\"" ↔ EvenRuns inner.toList := by
  rw [enclose_eq, String.append_left_inj, String.append_right_inj, collapse, String.toList_ofList,
    ← String.toList_inj, String.toList_ofList]
  constructor
  · intro h
    rw [← h]
    exact evenRuns_encode _
  · exact encode_decode

theorem collapse_injOn : Set.InjOn collapse {inner | EvenRuns inner.toList} := by
  intro inner hi other ho h
  have he := enclose_collapse_eq_iff.2 hi
  rw [h, enclose_collapse_eq_iff.2 ho, String.append_left_inj, String.append_right_inj] at he
  exact he.symm

end Text.Quoted

theorem kinds_quoted {inner : String} (h : Text.Quoted.EvenRuns inner.toList) :
    (tokenize ("\"" ++ inner ++ "\"")).map Token.kind = [.quoted inner, .eof] := by
  have ht : ("\"" ++ inner ++ "\"").toList = '"' :: (inner.toList ++ ['"']) := by
    rw [String.toList_append, String.toList_append]
    rfl
  have hs : Spells (.quoted inner) ('"' :: (inner.toList ++ ['"'])) [] := by
    rw [← String.ofList_toList (s := inner), String.toList_ofList]
    exact .quoted h (by simp)
  have hr := ReadsKinds.cons (List.forall_mem_nil _) hs (by simp) (.nil [])
  rw [List.nil_append, List.append_nil, ← ht] at hr
  exact hr.map_kind_tokenize (List.forall_mem_nil _)

/-- There is a token of an inner text exactly where every run of quotes in the text is even. -/
theorem exists_quoted_iff {inner : String} :
    (∃ source, .quoted inner ∈ (tokenize source).map Token.kind) ↔
      Text.Quoted.EvenRuns inner.toList := by
  constructor
  · rintro ⟨source, h⟩
    obtain ⟨t, ht, hk⟩ := List.mem_map.1 h
    have hs := spelled_of_mem_tokenize ht
    rwa [hk] at hs
  · intro h
    refine ⟨"\"" ++ inner ++ "\"", ?_⟩
    rw [kinds_quoted h]
    exact .head _

/-- Putting a text in quotes and taking them off again gives the text. The other way round, this holds of
an inner text exactly where every run of quotes in it is even, and these are the inner texts that tokens
have. So tokens stand for the same name exactly where their inner texts are the same. -/
theorem quoted_tokens_decode :
    (∀ text, ∃ inner, Text.Quoted.enclose text = "\"" ++ inner ++ "\"" ∧
      Text.Quoted.collapse inner = text) ∧
    (∀ inner, (Text.Quoted.EvenRuns inner.toList ↔
        Text.Quoted.enclose (Text.Quoted.collapse inner) = "\"" ++ inner ++ "\"") ∧
      (Text.Quoted.EvenRuns inner.toList ↔
        ∃ source, .quoted inner ∈ (tokenize source).map Token.kind)) ∧
    ∀ source other inner another, .quoted inner ∈ (tokenize source).map Token.kind →
      .quoted another ∈ (tokenize other).map Token.kind →
      (Text.Quoted.collapse inner = Text.Quoted.collapse another ↔ inner = another) := by
  refine ⟨Text.Quoted.exists_enclose_eq,
    fun _ => ⟨Text.Quoted.enclose_collapse_eq_iff.symm, exists_quoted_iff.symm⟩, ?_⟩
  intro source other inner another hi ha
  exact Text.Quoted.collapse_injOn.eq_iff (exists_quoted_iff.1 ⟨source, hi⟩)
    (exists_quoted_iff.1 ⟨other, ha⟩)

/-- Two names of quotes alone. -/
theorem quoted_tokens_decode_of_quotes :
    .quoted "\"\"" ∈ (tokenize "\"\"\"\"").map Token.kind ∧
    .quoted "\"\"\"\"" ∈ (tokenize "\"\"\"\"\"\"").map Token.kind ∧
    Text.Quoted.collapse "\"\"" ≠ Text.Quoted.collapse "\"\"\"\"" := by
  have even₁ : Text.Quoted.EvenRuns "\"\"".toList := Text.Quoted.evenRuns_encode ['"']
  have even₂ : Text.Quoted.EvenRuns "\"\"\"\"".toList := Text.Quoted.evenRuns_encode ['"', '"']
  have one : (tokenize "\"\"\"\"").map Token.kind = [.quoted "\"\"", .eof] := kinds_quoted even₁
  have two : (tokenize "\"\"\"\"\"\"").map Token.kind = [.quoted "\"\"\"\"", .eof] :=
    kinds_quoted even₂
  have h₁ : .quoted "\"\"" ∈ (tokenize "\"\"\"\"").map Token.kind := one ▸ .head _
  have h₂ : .quoted "\"\"\"\"" ∈ (tokenize "\"\"\"\"\"\"").map Token.kind := two ▸ .head _
  refine ⟨h₁, h₂, ?_⟩
  rw [ne_eq, quoted_tokens_decode.2.2 _ _ _ _ h₁ h₂]
  decide

end ColumnBinding
