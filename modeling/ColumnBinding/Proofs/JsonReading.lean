import ColumnBinding.Compiled.Basic
import ColumnBinding.Text.Json.Reader
import ColumnBinding.Text.Json.Writer
import Mathlib.Data.List.Basic

/-! Compact JSON text, read back. A string ends at the first quote that is not escaped, and an array or an
object at the bracket behind its last part, so what stands behind a value does not matter to it. Main
statement: the compact text of a compiled mapping determines its table and its messages, and the members of
the table are read in their order. -/
namespace ColumnBinding

namespace Json

theorem hex?_control : ∀ n < 0x20,
    hex? ['0', '0', Nat.digitChar (n / 16), Nat.digitChar (n % 16)] = some n := by
  decide

theorem units_raw (read : List Nat) {c : Char} (hq : c ≠ '"') (hb : c ≠ '\\') (h : ¬ c.toNat < 0x20)
    (cs : List Char) : units read (c :: cs) = units (c.toNat :: read) cs := by
  rw [units]
  · exact if_neg h
  · exact hq
  · intros
    exact hb ‹_›
  · intros
    exact hb ‹_›

/-- However a character is escaped, its code point is read. -/
theorem units_escape (read : List Nat) (c : Char) (cs : List Char) :
    units read (escape c ++ cs) = units (c.toNat :: read) cs := by
  unfold escape
  split
  case h_8 hq hb _ _ _ _ _ =>
    split
    · next h => simp [units, hex?_control _ h]
    · next h => exact units_raw read hq hb h cs
  all_goals simp [units, unescape?]

theorem units_escaped (read : List Nat) (cs rest : List Char) :
    units read (cs.flatMap escape ++ '"' :: rest) = some (read.reverse ++ cs.map Char.toNat, rest) := by
  induction cs generalizing read with
  | nil => rw [List.flatMap_nil, List.nil_append, units, List.map_nil, List.append_nil]
  | cons c cs ih =>
      rw [List.flatMap_cons, List.append_assoc, units_escape, ih, List.reverse_cons, List.append_assoc]
      rfl

theorem characters_toNat (read cs : List Char) :
    characters read (cs.map Char.toNat) = some (read.reverse ++ cs) := by
  induction cs generalizing read with
  | nil => rw [List.map_nil, characters, List.append_nil]
  | cons c cs ih =>
      -- no character is half of a pair
      have hv : c.toNat < 0xD800 ∨ 0xDFFF < c.toNat ∧ c.toNat < 0x110000 := c.valid
      have high : (0xD800 ≤ c.toNat && c.toNat < 0xDC00) = false := by
        simp
        omega
      have low : (0xDC00 ≤ c.toNat && c.toNat < 0xE000) = false := by
        simp
        omega
      rw [List.map_cons, characters.eq_def]
      simp only [high, low, Bool.false_eq_true, if_false, Char.ofNat_toNat, ih, List.reverse_cons,
        List.append_assoc, List.singleton_append]

theorem readString_escaped (text : String) (rest : List Char) :
    readString (text.toList.flatMap escape ++ '"' :: rest) = some (text, rest) := by
  have hc := characters_toNat [] text.toList
  rw [List.reverse_nil, List.nil_append] at hc
  simp [readString, units_escaped, hc]

theorem toList_literal_append (text : String) (rest : List Char) :
    (literal text).toList ++ rest = '"' :: (text.toList.flatMap escape ++ '"' :: rest) := by
  simp [literal]

/-- The text begins as that of a string, an array or an object. -/
def Opens (cs : List Char) : Prop := ∃ c rest, cs = c :: rest ∧ (c = '"' ∨ c = '[' ∨ c = '{')

theorem Opens.append {cs : List Char} (h : Opens cs) (rest : List Char) : Opens (cs ++ rest) := by
  obtain ⟨c, ds, rfl, hc⟩ := h
  exact ⟨c, ds ++ rest, rfl, hc⟩

theorem opens_literal (text : String) : Opens (literal text).toList :=
  ⟨'"', text.toList.flatMap escape ++ ['"'], String.toList_ofList, .inl rfl⟩

section
variable {steps : Nat} {cs behind rest : List Char} {v : Json} {vs : List Json}
  {ms : List (String × Json)}

theorem readValue_literal (steps : Nat) (text : String) (rest : List Char) :
    readValue (steps + 1) ((literal text).toList ++ rest) = some (.string text, rest) := by
  simp [toList_literal_append, readValue, skipBlanks, readString_escaped]

theorem readValue_brackets (steps : Nat) (rest : List Char) :
    readValue (steps + 1) ('[' :: ']' :: rest) = some (.array [], rest) := by
  simp [readValue, skipBlanks]

theorem readValue_bracket (ho : Opens cs) (h : readItems steps cs = some (vs, rest)) :
    readValue (steps + 1) ('[' :: cs) = some (.array vs, rest) := by
  obtain ⟨c, ds, rfl, rfl | rfl | rfl⟩ := ho <;> simp [readValue, skipBlanks, h]

theorem readValue_braces (steps : Nat) (rest : List Char) :
    readValue (steps + 1) ('{' :: '}' :: rest) = some (.object [], rest) := by
  simp [readValue, skipBlanks]

theorem readValue_brace (ho : Opens cs) (h : readMembers steps cs = some (ms, rest)) :
    readValue (steps + 1) ('{' :: cs) = some (.object ms, rest) := by
  obtain ⟨c, ds, rfl, rfl | rfl | rfl⟩ := ho <;> simp [readValue, skipBlanks, h]

theorem readItems_last (h : readValue steps cs = some (v, ']' :: rest)) :
    readItems (steps + 1) cs = some ([v], rest) := by
  simp [readItems, skipBlanks, h]

theorem readItems_more (h : readValue steps cs = some (v, ',' :: behind))
    (hs : readItems steps behind = some (vs, rest)) :
    readItems (steps + 1) cs = some (v :: vs, rest) := by
  simp [readItems, skipBlanks, h, hs]

theorem readMembers_last (key : String) (h : readValue steps cs = some (v, '}' :: rest)) :
    readMembers (steps + 1) ((literal key).toList ++ ':' :: cs) = some ([(key, v)], rest) := by
  simp [toList_literal_append, readMembers, skipBlanks, readString_escaped, h]

theorem readMembers_more (key : String) (h : readValue steps cs = some (v, ',' :: behind))
    (hs : readMembers steps behind = some (ms, rest)) :
    readMembers (steps + 1) ((literal key).toList ++ ':' :: cs) = some ((key, v) :: ms, rest) := by
  simp [toList_literal_append, readMembers, skipBlanks, readString_escaped, h, hs]

end

/-- Wherever its compact text stands, the value is read from it, in two steps a character at most. -/
structure ReadsBack (j : Json) : Prop where
  opens : Opens j.compact.toList
  read : ∀ steps rest, 2 * j.compact.toList.length ≤ steps →
    readValue steps (j.compact.toList ++ rest) = some (j, rest)

theorem toList_intercalate_comma (part other : String) (parts : List String) :
    (",".intercalate (part :: other :: parts)).toList =
      part.toList ++ ',' :: (",".intercalate (other :: parts)).toList := by
  rw [String.intercalate_cons_cons, String.toList_append, String.toList_append, List.append_assoc]
  rfl

theorem Opens.intercalate {part : String} (h : Opens part.toList) (parts : List String) :
    Opens (",".intercalate (part :: parts)).toList := by
  cases parts with
  | nil => rwa [String.intercalate_singleton]
  | cons other parts =>
      rw [toList_intercalate_comma]
      exact h.append _

/-- Parts that are joined by commas are read by a loop that reads one part at a time, then ends at the
closing mark or goes on behind a comma. -/
theorem read_intercalate {α : Type} {text : α → String} {as : List α}
    {read : Nat → List Char → Option (List α × List Char)} {close : Char}
    (last : ∀ a ∈ as, ∀ steps rest, 2 * (text a).toList.length ≤ steps →
      read (steps + 1) ((text a).toList ++ close :: rest) = some ([a], rest))
    (more : ∀ a ∈ as, ∀ steps behind bs rest, 2 * (text a).toList.length ≤ steps →
      read steps behind = some (bs, rest) →
      read (steps + 1) ((text a).toList ++ ',' :: behind) = some (a :: bs, rest))
    (hn : as ≠ []) {steps : Nat} (hs : 2 * (",".intercalate (as.map text)).toList.length < steps)
    (rest : List Char) :
    read steps ((",".intercalate (as.map text)).toList ++ close :: rest) = some (as, rest) := by
  induction as generalizing steps with
  | nil => exact absurd rfl hn
  | cons a as ih =>
      obtain ⟨n, rfl⟩ := Nat.exists_eq_add_one_of_ne_zero (Nat.ne_zero_of_lt hs)
      cases as with
      | nil =>
          rw [List.map_singleton, String.intercalate_singleton] at hs ⊢
          exact last a (.head _) n rest (by omega)
      | cons b as =>
          have ht : (",".intercalate ((a :: b :: as).map text)).toList =
              (text a).toList ++ ',' :: (",".intercalate ((b :: as).map text)).toList :=
            toList_intercalate_comma _ _ _
          rw [ht, List.length_append, List.length_cons] at hs
          rw [ht, List.append_assoc, List.cons_append]
          have hl : 2 * (",".intercalate ((b :: as).map text)).toList.length < n := by omega
          have hb := ih (fun c hc => last c (.tail _ hc)) (fun c hc => more c (.tail _ hc))
            (List.cons_ne_nil b as) hl
          exact more a (.head _) n _ _ _ (by omega) hb

theorem compactItems_eq (vs : List Json) : compactItems vs = vs.map compact := by
  induction vs with
  | nil => rfl
  | cons v vs ih => rw [compactItems, ih, List.map_cons]

/-- The compact text of a key and its value. -/
def memberText (m : String × Json) : String := literal m.1 ++ ":" ++ m.2.compact

theorem compactMembers_eq (ms : List (String × Json)) : compactMembers ms = ms.map memberText := by
  induction ms with
  | nil => rfl
  | cons m ms ih =>
      rw [compactMembers, ih, List.map_cons]
      rfl

theorem toList_memberText (m : String × Json) :
    (memberText m).toList = (literal m.1).toList ++ ':' :: m.2.compact.toList := by
  rw [memberText, String.toList_append, String.toList_append, List.append_assoc]
  rfl

theorem readItems_compact {vs : List Json} (hn : vs ≠ []) (h : ∀ v ∈ vs, v.ReadsBack) {steps : Nat}
    (hs : 2 * (",".intercalate (vs.map compact)).toList.length < steps) (rest : List Char) :
    readItems steps ((",".intercalate (vs.map compact)).toList ++ ']' :: rest) = some (vs, rest) := by
  refine read_intercalate ?_ ?_ hn hs rest
  · intro v hv steps rest hl
    exact readItems_last ((h v hv).read steps _ hl)
  · intro v hv steps behind ws rest hl hw
    exact readItems_more ((h v hv).read steps _ hl) hw

theorem readMembers_compact {ms : List (String × Json)} (hn : ms ≠ [])
    (h : ∀ m ∈ ms, m.2.ReadsBack) {steps : Nat}
    (hs : 2 * (",".intercalate (ms.map memberText)).toList.length < steps) (rest : List Char) :
    readMembers steps ((",".intercalate (ms.map memberText)).toList ++ '}' :: rest) =
      some (ms, rest) := by
  have long : ∀ m steps, 2 * (memberText m).toList.length ≤ steps →
      2 * m.2.compact.toList.length ≤ steps := by
    intro m steps hl
    rw [toList_memberText, List.length_append, List.length_cons] at hl
    omega
  refine read_intercalate ?_ ?_ hn hs rest
  · intro m hm steps rest hl
    rw [toList_memberText, List.append_assoc, List.cons_append]
    exact readMembers_last m.1 ((h m hm).read steps _ (long m steps hl))
  · intro m hm steps behind ns rest hl hn
    rw [toList_memberText, List.append_assoc, List.cons_append]
    exact readMembers_more m.1 ((h m hm).read steps _ (long m steps hl)) hn

theorem toList_array (vs : List Json) : (array vs).compact.toList =
    '[' :: ((",".intercalate (vs.map compact)).toList ++ [']']) := by
  rw [compact, compactItems_eq, String.toList_append, String.toList_append]
  rfl

theorem toList_object (ms : List (String × Json)) : (object ms).compact.toList =
    '{' :: ((",".intercalate (ms.map memberText)).toList ++ ['}']) := by
  rw [compact, compactMembers_eq, String.toList_append, String.toList_append]
  rfl

namespace ReadsBack

theorem string (text : String) : (string text).ReadsBack := by
  have ht : (Json.string text).compact = literal text := rfl
  constructor
  · rw [ht]
    exact opens_literal text
  · intro steps rest hs
    rw [ht] at hs ⊢
    obtain ⟨c, cs, hc, -⟩ := opens_literal text
    rw [hc, List.length_cons] at hs
    obtain ⟨n, rfl⟩ := Nat.exists_eq_add_one_of_ne_zero (n := steps) (by omega)
    exact readValue_literal n text rest

theorem array {vs : List Json} (h : ∀ v ∈ vs, v.ReadsBack) : (array vs).ReadsBack := by
  constructor
  · exact ⟨_, _, toList_array vs, .inr (.inl rfl)⟩
  · intro steps rest hs
    rw [toList_array, List.length_cons, List.length_append, List.length_singleton] at hs
    obtain ⟨n, rfl⟩ := Nat.exists_eq_add_one_of_ne_zero (n := steps) (by omega)
    rw [toList_array, List.cons_append, List.append_assoc, List.singleton_append]
    cases vs with
    | nil => exact readValue_brackets n rest
    | cons v vs =>
        have ho := (h v (.head _)).opens.intercalate (vs.map compact)
        exact readValue_bracket (ho.append _)
          (readItems_compact (List.cons_ne_nil v vs) h (by omega) rest)

theorem object {ms : List (String × Json)} (h : ∀ m ∈ ms, m.2.ReadsBack) : (object ms).ReadsBack := by
  constructor
  · exact ⟨_, _, toList_object ms, .inr (.inr rfl)⟩
  · intro steps rest hs
    rw [toList_object, List.length_cons, List.length_append, List.length_singleton] at hs
    obtain ⟨n, rfl⟩ := Nat.exists_eq_add_one_of_ne_zero (n := steps) (by omega)
    rw [toList_object, List.cons_append, List.append_assoc, List.singleton_append]
    cases ms with
    | nil => exact readValue_braces n rest
    | cons m ms =>
        have ho : Opens (",".intercalate ((m :: ms).map memberText)).toList := by
          refine Opens.intercalate ?_ _
          rw [toList_memberText]
          exact (opens_literal m.1).append _
        exact readValue_brace (ho.append _)
          (readMembers_compact (List.cons_ne_nil m ms) h (by omega) rest)

variable {j k : Json}

theorem ofText?_compact (h : j.ReadsBack) : ofText? j.compact = some j := by
  have hr := h.read (2 * j.compact.toList.length + 2) [] (by omega)
  rw [List.append_nil] at hr
  simp [ofText?, hr, skipBlanks]

theorem compact_inj (hj : j.ReadsBack) (hk : k.ReadsBack) : j.compact = k.compact ↔ j = k := by
  constructor
  · intro h
    have hr := hj.ofText?_compact
    rw [h, hk.ofText?_compact] at hr
    exact (Option.some.inj hr).symm
  · rintro rfl
    rfl

end ReadsBack
end Json

namespace ColumnTable

theorem readsBack_toJson (t : ColumnTable) : t.toJson.ReadsBack := by
  apply Json.ReadsBack.object
  intro m hm
  obtain ⟨p, -, rfl⟩ := List.mem_map.1 hm
  exact .string p.2

theorem toJson_injective : Function.Injective toJson := by
  intro s t h
  have member : Function.Injective fun p : Name × Name => (p.1, p.2.toJson) := by
    intro p q he
    obtain ⟨hc, hf⟩ := Prod.mk.inj he
    exact Prod.ext hc (Json.string.inj hf)
  exact ext (List.map_injective_iff.2 member (Json.object.inj h))

end ColumnTable

namespace Compiled

theorem readsBack_toJson (r : Compiled) : r.toJson.ReadsBack := by
  have errors : (Json.array (r.messages.map .string)).ReadsBack := by
    apply Json.ReadsBack.array
    intro v hv
    obtain ⟨text, -, rfl⟩ := List.mem_map.1 hv
    exact .string text
  apply Json.ReadsBack.object
  simp only [List.forall_mem_cons]
  exact ⟨r.table.readsBack_toJson, errors, List.forall_mem_nil _⟩

theorem toJson_inj {r s : Compiled} :
    r.toJson = s.toJson ↔ r.table = s.table ∧ r.messages = s.messages := by
  constructor
  · intro h
    obtain ⟨hm, he⟩ := List.cons.inj (Json.object.inj h)
    have hs := Json.array.inj (congrArg Prod.snd (List.cons.inj he).1)
    refine ⟨ColumnTable.toJson_injective (congrArg Prod.snd hm), ?_⟩
    exact List.map_injective_iff.2 (fun _ _ => Json.string.inj) hs
  · rintro ⟨ht, hm⟩
    rw [toJson, toJson, ht, hm]

/-- The compact text of a compiled mapping determines its table, with its order, and its messages, whatever
conventions and texts it was compiled from. The members that are read from the text have pairwise different
keys, which are the columns in the order of the table. -/
theorem compact_determines_compiled (r s : Compiled) :
    (r.toJson.compact = s.toJson.compact ↔ r.table = s.table ∧ r.messages = s.messages) ∧
    ∃ members, Json.ofText? r.toJson.compact = some (.object
        [("mapping", .object members), ("errors", .array (r.messages.map .string))]) ∧
      members.map Prod.fst = r.table.columns ∧ (members.map Prod.fst).Nodup := by
  have hk : (r.table.pairs.map fun p => (p.1, p.2.toJson)).map Prod.fst = r.table.columns := by
    rw [List.map_map]
    rfl
  refine ⟨(r.readsBack_toJson.compact_inj s.readsBack_toJson).trans toJson_inj, _,
    r.readsBack_toJson.ofText?_compact, hk, ?_⟩
  rw [hk]
  exact r.table.distinct

end Compiled
end ColumnBinding
