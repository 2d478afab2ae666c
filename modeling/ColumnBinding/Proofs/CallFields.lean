import ColumnBinding.Compiled.Text
import ColumnBinding.Proofs.ErrorLists
import Mathlib

/-! Fields that call a function. A call is held to the same shape as a name, so its own name may put
it in a namespace. Main statement: a call that is not supported is reported for its entry unless
it lies in a namespace. -/
namespace ColumnBinding

namespace Conventions

variable {conv : Conventions} {function : String} {span : Span}

theorem refuses_call : conv.Refuses (.call function span) ↔ conv.Unsupported (function ++ "()") :=
  refuses_iff_unsupported rfl

end Conventions

namespace Compiled

/-- What is reported for the entry at a place. -/
def reportAt (conv : Conventions) (es : List Entry) (i : Fin es.length) : List String :=
  (errorsIf conv (∃ j < i,
    conv.resolvedColumn (es.get j).column = conv.resolvedColumn (es.get i).column)
    (es.get i)).map (EntryError.message conv)

theorem messages_ofEntries (conv : Conventions) (es : List Entry) :
    (ofEntries conv es).messages = (List.finRange es.length).flatMap (reportAt conv es) := by
  rw [messages, conventions_ofEntries, errors_ofEntries, Conventions.column_eq, List.map_flatMap]
  rfl

theorem isValid_eq_false_of_mem {r : Compiled} {m : String} (h : m ∈ r.messages) :
    r.isValid = false := isValid_eq_false_iff.2 (List.ne_nil_of_mem h)

theorem message_mem_reportAt_iff {conv : Conventions} {es : List Entry} {i : Fin es.length} :
    (EntryError.invalidField (es.get i).field.resolvedText).message conv ∈ reportAt conv es i ↔
      conv.Refuses (es.get i).field := by
  constructor
  · intro h
    obtain ⟨e, he, hm⟩ := List.mem_map.1 h
    rcases List.mem_append.1 he with hd | hi
    · split at hd
      · cases List.mem_singleton.1 hd
        exact absurd hm (EntryError.message_duplicate_ne conv _ _)
      · cases hd
    · split at hi
      · next hr => exact hr
      · cases hi
  · intro h
    refine List.mem_map_of_mem (List.mem_append_right _ ?_)
    rw [if_pos h]
    exact List.mem_singleton_self _

end Compiled

open Compiled in
/-- A call that is not supported is reported for its entry, by the message that names it, unless
the call starts with a namespace. Where it is reported, the mapping is not valid, and by the standard
conventions no setting takes the text. -/
theorem unsupported_call_reported_iff (conv : Conventions) (setting text : String)
    {es : List Entry} (h : parseEntries text = .ok es) (i : Fin es.length) {function : String}
    {span : Span} (hf : (es.get i).field = .call function span)
    (hn : function ++ "()" ∉ conv.functions) :
    ∃ r, compile conv setting text = .ok r ∧
      r.messages = (List.finRange es.length).flatMap (reportAt conv es) ∧
      ((EntryError.invalidField (function ++ "()")).message conv ∈ reportAt conv es i ↔
        ∀ space ∈ conv.namespaces, ¬ space.toList <+: (function ++ "()").toList) ∧
      ((∀ space ∈ conv.namespaces, ¬ space.toList <+: (function ++ "()").toList) →
        r.isValid = false ∧ (conv = .standard → ∀ s : MappingSetting,
          s.compile text = .error (r.toSettingError s.name text))) := by
  have hr : (EntryError.invalidField (function ++ "()")).message conv ∈ reportAt conv es i ↔
      ∀ space ∈ conv.namespaces, ¬ space.toList <+: (function ++ "()").toList := by
    have hm : (EntryError.invalidField (es.get i).field.resolvedText).message conv ∈
        reportAt conv es i ↔ conv.Refuses (es.get i).field := message_mem_reportAt_iff
    have ht : (WrittenField.call function span).resolvedText = function ++ "()" := rfl
    rwa [hf, ht, Conventions.refuses_call, Conventions.Unsupported, and_iff_left hn] at hm
  have hc : ∀ setting, compile conv setting text = .ok (ofEntries conv es) :=
    fun _ => compile_eq_ok_iff.2 ⟨es, h, rfl⟩
  refine ⟨.ofEntries conv es, hc setting, messages_ofEntries conv es, hr, ?_⟩
  intro hs
  have hv : (ofEntries conv es).isValid = false := by
    apply isValid_eq_false_of_mem (m := (EntryError.invalidField (function ++ "()")).message conv)
    rw [messages_ofEntries]
    exact List.mem_flatMap.2 ⟨i, List.mem_finRange i, hr.2 hs⟩
  refine ⟨hv, ?_⟩
  rintro rfl s
  exact MappingSetting.compile_of_invalid (hc s.name) hv

/-- A name with a dot is in no namespace for that alone. -/
theorem unsupported_call_reported_of_dot :
    parseEntries "a=key.f(), c=a.b()" = .ok
      [⟨.literal "a" ⟨⟨0, 1, 1⟩, 1⟩, .call "key.f" ⟨⟨2, 1, 3⟩, 9⟩, ⟨⟨0, 1, 1⟩, 9⟩⟩,
        ⟨.literal "c" ⟨⟨11, 1, 12⟩, 12⟩, .call "a.b" ⟨⟨13, 1, 14⟩, 18⟩, ⟨⟨11, 1, 12⟩, 18⟩⟩] ∧
    "a.b" ++ "()" ∉ Conventions.standard.functions ∧
    ∃ r, compile .standard "mapping" "a=key.f(), c=a.b()" = .ok r ∧
      (EntryError.invalidField ("a.b" ++ "()")).message .standard ∈ r.messages ∧
      r.isValid = false ∧
      (⟨"t"⟩ : MappingSetting).compile "a=key.f(), c=a.b()" =
        .error (r.toSettingError "topic.t.mapping" "a=key.f(), c=a.b()") := by
  have hp : parseEntries "a=key.f(), c=a.b()" = .ok
      [⟨.literal "a" ⟨⟨0, 1, 1⟩, 1⟩, .call "key.f" ⟨⟨2, 1, 3⟩, 9⟩, ⟨⟨0, 1, 1⟩, 9⟩⟩,
        ⟨.literal "c" ⟨⟨11, 1, 12⟩, 12⟩, .call "a.b" ⟨⟨13, 1, 14⟩, 18⟩, ⟨⟨11, 1, 12⟩, 18⟩⟩] := by
    cbv
  have hn : "a.b" ++ "()" ∉ Conventions.standard.functions := by decide
  have hs : ∀ space ∈ Conventions.standard.namespaces,
      ¬ space.toList <+: ("a.b" ++ "()").toList := by decide
  obtain ⟨r, hr, hm, hi, hv⟩ := unsupported_call_reported_iff .standard "mapping" _ hp 1 rfl hn
  obtain ⟨hv, he⟩ := hv hs
  refine ⟨hp, hn, r, hr, ?_, hv, he rfl ⟨"t"⟩⟩
  rw [hm]
  exact List.mem_flatMap.2 ⟨1, List.mem_finRange 1, hi.2 hs⟩

/-- A call whose name starts with a namespace is taken for a field of it. -/
theorem call_in_namespace_not_reported :
    parseEntries "c=value.later()" = .ok
      [⟨.literal "c" ⟨⟨0, 1, 1⟩, 1⟩, .call "value.later" ⟨⟨2, 1, 3⟩, 15⟩, ⟨⟨0, 1, 1⟩, 15⟩⟩] ∧
    "value.later()" ∉ Conventions.standard.functions ∧
    ∃ r, compile .standard "mapping" "c=value.later()" = .ok r ∧ r.messages = [] ∧
      r.isValid = true :=
  ⟨by cbv, by decide, ⟨.standard, ⟨[("c", "value.later()")], by decide⟩, []⟩, by cbv, rfl, rfl⟩

end ColumnBinding
