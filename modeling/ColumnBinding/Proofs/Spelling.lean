import ColumnBinding.Proofs.PrintedText

/-! Names as the tokens of a text spell them. Main statement: every name of an entry that is read from
a text is spelled. -/
namespace ColumnBinding

theorem spells_word {text : String} (h : IsWord text) {rest : List Char} (hr : EndsName rest) :
    Spells (.literal text) text.toList rest := by
  have hq : needsQuotes text = true → false = true := by
    intro hq
    rw [needsQuotes_eq_false_iff.2 h] at hq
    cases hq
  exact spells_asWritten hq hr

theorem endsName_nil : EndsName [] := by
  intro c hc
  cases hc

theorem EndsName.behind_blanks {bs rest : List Char} (hb : ∀ c ∈ bs, IsBlank c)
    (hr : EndsName rest) : EndsName (bs ++ rest) := by
  cases bs with
  | nil => exact hr
  | cons b bs =>
      intro c hc
      cases hc
      have hc := hb b (.head _)
      constructor
      · exact fun hl => hl.not_blank hc
      · rintro rfl
        exact absurd hc (by decide)

/-- The text of a name is one that a token can hold. -/
def Kind.Spelled : Kind → Prop
  | .literal text => IsWord text
  | .quoted inner => Text.Quoted.EvenRuns inner.toList
  | _ => True

theorem Spells.spelled {k : Kind} {cs rest : List Char} (h : Spells k cs rest) : k.Spelled := by
  cases h with
  | eof => trivial
  | mark hm => cases hm <;> trivial
  | literal hn hl hr =>
      refine ⟨?_, by rwa [String.toList_ofList]⟩
      rwa [ne_eq, String.ofList_eq_empty_iff]
  | quoted hi hr =>
      rw [Kind.Spelled, String.toList_ofList]
      exact hi
  | stray hs => trivial
  | unclosed hi => trivial

theorem Reads.spelled {p q : Position} {cs ds : List Char} {ts : List Token}
    (h : Reads p cs ts q ds) : ∀ t ∈ ts, t.kind.Spelled := by
  induction h with
  | nil =>
      intro t ht
      cases ht
  | cons hb hs hk _ ih =>
      intro t ht
      cases ht with
      | head => exact hs.spelled
      | tail _ ht => exact ih t ht

theorem spelled_of_mem_tokenize {text : String} {t : Token} (h : t ∈ tokenize text) :
    t.kind.Spelled := by
  obtain ⟨ts, q, bs, hr, -, he⟩ := tokenize_reads text
  rw [he] at h
  rcases List.mem_append.1 h with ht | ht
  · exact hr.spelled t ht
  · cases List.mem_singleton.1 ht
    trivial

theorem kinds_subset_flatten {e : Entry} {es : List Entry} (h : e ∈ es) : e.kinds ⊆ flatten es := by
  induction es with
  | nil => cases h
  | cons d es ih =>
      rw [flatten_cons]
      cases h with
      | head => exact List.subset_append_left _ _
      | tail _ h =>
          refine List.subset_append_of_subset_right _ ?_
          intro k hk
          exact List.mem_flatMap.2 ⟨e, h, .tail _ hk⟩

def Entry.Spelled (e : Entry) : Prop := ∀ k ∈ e.kinds, k.Spelled

theorem exists_token_of_parseEntries {text : String} {es : List Entry} {e : Entry} {k : Kind}
    (h : parseEntries text = .ok es) (he : e ∈ es) (hk : k ∈ e.kinds) :
    ∃ t ∈ tokenize text, t.kind = k := by
  obtain ⟨-, hes⟩ := parseEntries_ok_iff.1 ⟨es, h, rfl⟩
  have hm : k ∈ (tokenize text).map Token.kind := by
    rw [hes]
    exact List.mem_append_left _ (kinds_subset_flatten he hk)
  exact List.mem_map.1 hm

/-- A text that is read spells the names of its entries. -/
theorem spelled_of_parseEntries {text : String} {es : List Entry} (h : parseEntries text = .ok es) :
    ∀ e ∈ es, e.Spelled := by
  intro e he k hk
  obtain ⟨t, ht, rfl⟩ := exists_token_of_parseEntries h he hk
  exact spelled_of_mem_tokenize ht

end ColumnBinding
