import ColumnBinding.Proofs.BoundVariables
import ColumnBinding.Proofs.QuotedTokens
import ColumnBinding.Proofs.Quoting

/-! Names as CQL statements write them. A name that needs no quotes in a CQL statement needs none in a
mapping, either, and both put quotes around a name in the same way. Main statement: what a CQL statement
writes for a name is read, in a mapping, as the column of that name. -/
namespace ColumnBinding

/-- A text in which quotes occur in pairs only. -/
inductive Text.Quoted.Paired : List Char → Prop
  | nil : Paired []
  | pair {cs} : Paired cs → Paired ('"' :: '"' :: cs)
  | other {c cs} : c ≠ '"' → Paired cs → Paired (c :: cs)

theorem Text.Quoted.paired_encode (cs : List Char) : Paired (encode cs) := by
  induction cs with
  | nil => exact .nil
  | cons c cs ih =>
      by_cases hc : c = '"'
      · subst hc
        exact .pair ih
      · rw [encode_cons hc]
        exact .other hc ih

namespace Name

/-- A lower-case letter of ASCII, then lower-case letters, digits and underscores. -/
def Plain (name : Name) : Prop :=
  ∃ c cs, name.toList = c :: cs ∧ ('a' ≤ c ∧ c ≤ 'z') ∧
    ∀ d ∈ cs, ('a' ≤ d ∧ d ≤ 'z') ∨ ('0' ≤ d ∧ d ≤ '9') ∨ d = '_'

theorem isLower_iff {c : Char} : c.isLower = true ↔ 'a' ≤ c ∧ c ≤ 'z' := by
  change (decide ('a' ≤ c) && decide (c ≤ 'z')) = true ↔ _
  rw [Bool.and_eq_true, decide_eq_true_iff, decide_eq_true_iff]

theorem isDigit_iff {c : Char} : c.isDigit = true ↔ '0' ≤ c ∧ c ≤ '9' := by
  change (decide ('0' ≤ c) && decide (c ≤ '9')) = true ↔ _
  rw [Bool.and_eq_true, decide_eq_true_iff, decide_eq_true_iff]

theorem isPlain_iff {name : Name} : isPlain name = true ↔ Plain name := by
  rw [isPlain, Plain]
  split
  · next h => simp [h]
  · next c cs h => simp [h, isLower_iff, isDigit_iff, or_assoc]

theorem isLiteral_of_isLower_or_isDigit {c : Char} (h : c.isLower = true ∨ c.isDigit = true) :
    IsLiteral c := by
  have ascii : c.toNat < 0x80 := by
    rcases h with h | h
    · exact Nat.lt_of_le_of_lt (isLower_iff.1 h).2 (by decide)
    · exact Nat.lt_of_le_of_lt (isDigit_iff.1 h).2 (by decide)
  have alphanum : c.isAlphanum = true := by
    change (c.isUpper || c.isLower || c.isDigit) = true
    rcases h with h | h <;> simp [h]
  have hn : Text.isAlphanumeric c = true := (if_pos ascii).trans alphanum
  rw [← isLiteral_iff, isLiteral, hn]
  rfl

theorem isWord_of_isPlain {name : Name} (h : isPlain name = true) : IsWord name := by
  unfold isPlain at h
  split at h
  · cases h
  · next c cs hl =>
      rw [Bool.and_eq_true, List.all_eq_true] at h
      constructor
      · rintro rfl
        cases hl
      · rw [hl]
        intro d hd
        rcases List.mem_cons.1 hd with rfl | hd
        · exact isLiteral_of_isLower_or_isDigit (.inl h.1)
        · have hd := h.2 d hd
          rw [Bool.or_eq_true, Bool.or_eq_true, beq_iff_eq] at hd
          rcases hd with hd | rfl
          · exact isLiteral_of_isLower_or_isDigit hd
          · decide

theorem boundVariable?_of_isPlain {name : Name} (h : isPlain name = true) :
    Conventions.standard.boundVariable? name = none := by
  rw [Option.eq_none_iff_forall_ne_some]
  intro v hv
  -- both reserved names start with an underscore, which no plain name does
  rcases Conventions.boundVariable?_cases hv with ⟨rfl, -⟩ | ⟨rfl, -⟩ <;> exact absurd h (by decide)

theorem cql_cases (name : Name) :
    Plain name ∧ cql name = name ∨ ¬ Plain name ∧ ∃ body, cql name = "\"" ++ body ++ "\"" ∧
      Text.Quoted.Paired body.toList ∧ Text.Quoted.collapse body = name := by
  rw [← isPlain_iff]
  by_cases h : isPlain name = true
  · exact .inl ⟨h, if_pos h⟩
  · refine .inr ⟨h, String.ofList (Text.Quoted.encode name.toList), ?_, ?_, ?_⟩
    · exact (if_neg h).trans (Text.Quoted.enclose_eq name)
    · rw [String.toList_ofList]
      exact Text.Quoted.paired_encode _
    · exact text_asWritten true name

/-- The entry that binds what a CQL statement writes for the name. -/
def cqlEntry (name : Name) : Entry :=
  .of (asWritten (!isPlain name) name) (.name (asWritten false "value.x"))

theorem kinds_cqlEntry (name : Name) :
    (tokenize (cql name ++ "=value.x")).map Token.kind = flatten [cqlEntry name] ++ [.eof] := by
  have hc : needsQuotes name = true → (!isPlain name) = true := by
    intro hq
    cases hp : isPlain name with
    | false => rfl
    | true =>
        rw [needsQuotes_eq_false_iff.2 (isWord_of_isPlain hp)] at hq
        cases hq
  have hf : needsQuotes "value.x" = true → false = true := by decide
  have ht : nameText (!isPlain name) name ++ "=" ++ nameText false "value.x" =
      cql name ++ "=value.x" := by
    have hn : nameText (!isPlain name) name = cql name := by
      cases h : isPlain name <;> simp [cql, h, nameText]
    rw [hn, String.append_assoc]
    rfl
  have hr := readsKinds_written hc hf (List.forall_mem_nil _) endsName_nil (.nil [])
  rw [ht, List.nil_append, List.append_nil, List.append_nil] at hr
  exact hr.map_kind_tokenize (List.forall_mem_nil _)

/-- Quotes that a mapping would not need do no harm. -/
theorem ofEntries_cqlEntry (name : Name) :
    Compiled.ofEntries .standard [cqlEntry name] = ⟨.standard, .ofList [(name, "value.x")], []⟩ := by
  have hc : Conventions.standard.column (cqlEntry name).column =
      Conventions.standard.column (Conventions.standard.entryOf (name, "value.x")).column := by
    rw [Conventions.column_entryOf]
    apply column_asWritten
    intro h
    rw [Bool.not_eq_false'] at h
    exact boundVariable?_of_isPlain h
  have hf : (cqlEntry name).field = (Conventions.standard.entryOf (name, "value.x")).field := by
    have hq : Conventions.standard.quotesField "value.x" = false := by decide
    rw [Conventions.entryOf, hq]
    rfl
  have hu : ["value.x"].filter (fun f => decide (Conventions.standard.Unsupported f)) = [] := by
    decide
  calc Compiled.ofEntries .standard [cqlEntry name]
      = .ofEntries .standard [Conventions.standard.entryOf (name, "value.x")] :=
        Compiled.record_congr hc (congrArg _ hf) (congrArg _ hf)
    _ = ⟨.standard, .ofList [(name, "value.x")],
          (["value.x"].filter fun f => decide (Conventions.standard.Unsupported f)).map
            .invalidField⟩ := Compiled.ofEntries_entryOf .standard (.ofList [(name, "value.x")])
    _ = _ := by rw [hu, List.map_nil]

theorem compile_cql (setting : String) (name : Name) :
    compile .standard setting (cql name ++ "=value.x") =
      .ok ⟨.standard, .ofList [(name, "value.x")], []⟩ := by
  rw [Compiled.compile_of_kinds (List.cons_ne_nil _ _) (kinds_cqlEntry name), ofEntries_cqlEntry]

theorem cql_injective : Function.Injective cql := by
  intro name other h
  have hc := compile_cql "" name
  rw [h, compile_cql] at hc
  have hp := congrArg (fun r : Compiled => r.table.pairs) (Except.ok.inj hc)
  exact (congrArg Prod.fst (List.cons.inj hp).1).symm

/-- A name is written bare where it is plain, and else in quotes around a body in which every quote is
doubled and that collapses to the name. What is written for different names differs, and in a mapping it is
the column of the name, without errors, even where the name is reserved. -/
theorem cql_reads_back (name : Name) :
    (Plain name ∧ cql name = name ∨ ¬ Plain name ∧ ∃ body, cql name = "\"" ++ body ++ "\"" ∧
      Text.Quoted.Paired body.toList ∧ Text.Quoted.collapse body = name) ∧
    Function.Injective cql ∧
    ∀ setting, ∃ r, compile .standard setting (cql name ++ "=value.x") = .ok r ∧ r.messages = [] ∧
      r.table.pairs = [(name, "value.x")] :=
  ⟨cql_cases name, cql_injective, fun setting => ⟨_, compile_cql setting name, rfl, rfl⟩⟩

end Name
end ColumnBinding
