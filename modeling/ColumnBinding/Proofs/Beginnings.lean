import ColumnBinding.Proofs.Grammar
import Mathlib.Data.List.Basic
import Mathlib.Data.List.Induction

/-! How mappings begin. What may follow a beginning is known from its place in the grammar, and
the place is found token by token. Main statement: the kinds of tokens with which some mapping
begins are those that can be read from the first place on. -/
namespace ColumnBinding

/-- What may come next, whatever the names are. -/
inductive Place where
  | column
  | equals
  | field
  | closing
  /-- Behind an entry. Where its field is a name without quotes, that may become a call. -/
  | separator (callable : Bool)
  | ended
deriving DecidableEq

namespace Place

def next? : Place → Kind → Option Place
  | .column, .literal _ | .column, .quoted _ => some .equals
  | .equals, .equals => some .field
  | .field, .literal _ => some (.separator true)
  | .field, .quoted _ => some (.separator false)
  | .closing, .rightParen => some (.separator false)
  | .separator _, .comma => some .column
  | .separator _, .eof => some .ended
  | .separator true, .leftParen => some .closing
  | _, _ => none

/-- The place behind tokens of the given kinds, unless one of them does not fit. -/
def read (p : Place) (ks : List Kind) : Option Place := ks.foldlM next? p

theorem read_cons (p : Place) (k : Kind) (ks : List Kind) :
    p.read (k :: ks) = (p.next? k).bind fun q => q.read ks := rfl

theorem read_append (p : Place) (ks ls : List Kind) :
    p.read (ks ++ ls) = (p.read ks).bind fun q => q.read ls := List.foldlM_append

theorem read_concat {p q : Place} {ks : List Kind} (h : p.read ks = some q) (k : Kind) :
    p.read (ks ++ [k]) = q.next? k := by
  rw [read_append, h, Option.bind_some, read_cons]
  cases q.next? k <;> rfl

end Place

/-- The kind without its text. -/
def Kind.form : Kind → Kind
  | .literal _ => .literal ""
  | .quoted _ => .quoted ""
  | .invalid _ => .invalid ""
  | k => k

/-- Some mapping, with its end, begins with tokens of these kinds, whatever their texts are. -/
def Begins (ks : List Kind) : Prop :=
  ∃ es ≠ [], ks.map Kind.form <+: (flatten es ++ [Kind.eof]).map Kind.form

/-- Whole entries, each with the comma behind it. -/
def leading (es : List Entry) : List Kind := es.flatMap fun e => e.kinds ++ [.comma]

/-- Whether a parenthesis may follow. -/
def WrittenField.isCallable : WrittenField → Bool
  | .name (.literal _ _) => true
  | _ => false

/-- `p.Behind ks`: behind tokens of the kinds `ks`, a mapping goes on at the place `p`. -/
inductive Place.Behind : Place → List Kind → Prop
  | column (es : List Entry) : Behind .column (leading es)
  | equals (es : List Entry) (c : WrittenName) : Behind .equals (leading es ++ [c.kind])
  | field (es : List Entry) (c : WrittenName) : Behind .field (leading es ++ [c.kind, .equals])
  | closing (es : List Entry) (c : WrittenName) (text : String) :
      Behind .closing (leading es ++ [c.kind, .equals, .literal text, .leftParen])
  | separator (es : List Entry) (e : Entry) :
      Behind (.separator e.field.isCallable) (leading es ++ e.kinds)
  | ended (es : List Entry) (e : Entry) : Behind .ended (leading es ++ e.kinds ++ [.eof])

theorem leading_concat (es : List Entry) (e : Entry) :
    leading (es ++ [e]) = leading es ++ e.kinds ++ [.comma] := by
  rw [leading, List.flatMap_append, List.flatMap_singleton, ← List.append_assoc]
  rfl

theorem flatten_concat (es : List Entry) (e : Entry) :
    flatten (es ++ [e]) = leading es ++ e.kinds := by
  induction es with
  | nil => exact List.intercalate_singleton
  | cons d es ih =>
      have hn : es ++ [e] ≠ [] := List.append_ne_nil_of_right_ne_nil es (List.cons_ne_nil e [])
      obtain ⟨f, fs, hf⟩ := List.exists_cons_of_ne_nil hn
      have hd : flatten (d :: (es ++ [e])) = d.kinds ++ [.comma] ++ flatten (es ++ [e]) := by
        rw [hf]
        exact List.intercalate_cons_cons
      have hl : leading (d :: es) = d.kinds ++ [.comma] ++ leading es := List.flatMap_cons
      rw [List.cons_append, hd, ih, hl]
      simp only [List.append_assoc]

theorem flatten_append (es : List Entry) {fs : List Entry} (hn : fs ≠ []) :
    flatten (es ++ fs) = leading es ++ flatten fs := by
  obtain ⟨ds, d, rfl⟩ := (List.eq_nil_or_concat' fs).resolve_left hn
  rw [← List.append_assoc, flatten_concat, flatten_concat, leading, List.flatMap_append,
    List.append_assoc]
  rfl

theorem flatten_append_comma {es : List Entry} (hn : es ≠ []) :
    flatten es ++ [.comma] = leading es := by
  obtain ⟨ds, d, rfl⟩ := (List.eq_nil_or_concat' es).resolve_left hn
  rw [flatten_concat, leading_concat]

namespace Place

theorem next?_form (p : Place) (k : Kind) : p.next? k.form = p.next? k := by
  cases p <;> cases k <;> rfl

@[simp] theorem read_form (p : Place) (ks : List Kind) : p.read (ks.map Kind.form) = p.read ks := by
  induction ks generalizing p with
  | nil => rfl
  | cons k ks ih =>
      rw [List.map_cons, read_cons, read_cons, next?_form]
      simp only [ih]

theorem next?_name (n : WrittenName) : column.next? n.kind = some .equals := by
  cases n <;> rfl

theorem read_kinds (e : Entry) : column.read e.kinds = some (.separator e.field.isCallable) := by
  rw [Entry.kinds, read_cons, next?_name]
  cases e.field with
  | name n => cases n <;> rfl
  | call text s => rfl

theorem read_leading (es : List Entry) : column.read (leading es) = some .column := by
  induction es with
  | nil => rfl
  | cons e es ih =>
      rw [leading, List.flatMap_cons, read_append, read_concat (read_kinds e)]
      exact ih

theorem read_behind_leading (es : List Entry) (ks : List Kind) :
    Place.column.read (leading es ++ ks) = Place.column.read ks := by
  rw [read_append, read_leading, Option.bind_some]

theorem Behind.read_eq {p : Place} {ks : List Kind} (h : p.Behind ks) :
    Place.column.read ks = some p := by
  cases h with
  | column es => exact read_leading es
  | equals es c => rw [read_concat (read_leading es), next?_name]
  | field es c =>
      rw [read_behind_leading, read_cons, next?_name]
      rfl
  | closing es c text =>
      rw [read_behind_leading, read_cons, next?_name]
      rfl
  | separator es e => rw [read_behind_leading, read_kinds]
  | ended es e =>
      rw [List.append_assoc, read_behind_leading, read_concat (read_kinds e)]
      rfl

theorem Behind.next {p q : Place} {ks : List Kind} {k : Kind} (h : p.Behind ks)
    (hk : p.next? k = some q) : q.Behind (ks ++ [k]) := by
  cases h with
  | column es =>
      cases k with
      | literal text => cases hk; exact .equals es (.literal text .zero)
      | quoted inner => cases hk; exact .equals es (.quoted inner .zero)
      | _ => cases hk
  | equals es c =>
      cases k with
      | equals => cases hk; rw [List.append_assoc]; exact .field es c
      | _ => cases hk
  | field es c =>
      rw [List.append_assoc]
      cases k with
      | literal text =>
          cases hk
          exact .separator es (.of c (.name (.literal text .zero)))
      | quoted inner =>
          cases hk
          exact .separator es (.of c (.name (.quoted inner .zero)))
      | _ => cases hk
  | closing es c text =>
      cases k with
      | rightParen =>
          cases hk
          rw [List.append_assoc]
          exact .separator es (.of c (.call text .zero))
      | _ => cases hk
  | separator es e =>
      cases k with
      | comma =>
          cases hk
          rw [← leading_concat]
          exact .column _
      | eof =>
          cases hk
          exact .ended es e
      | leftParen =>
          -- only a name without quotes can turn out to be that of a call
          obtain ⟨c, f, s⟩ := e
          cases f with
          | name n =>
              cases n with
              | literal text t =>
                  cases hk
                  rw [List.append_assoc]
                  exact .closing es c text
              | quoted inner t => cases hk
          | call text t => cases hk
      | _ => cases hk
  | ended es e => cases hk

/-- The place that is read is the one in the grammar. -/
theorem read_eq_some_iff {p : Place} {ks : List Kind} :
    Place.column.read ks = some p ↔ p.Behind ks := by
  constructor
  · intro h
    induction ks using List.reverseRecOn generalizing p with
    | nil =>
        cases h
        exact .column []
    | append_singleton ks k ih =>
        match hq : Place.column.read ks with
        | none =>
            rw [read_append, hq] at h
            cases h
        | some q =>
            rw [read_concat hq] at h
            exact (ih hq).next h
  · exact Behind.read_eq

theorem Behind.completes {p : Place} {ks : List Kind} (h : p.Behind ks) :
    ∃ es e ls, ks ++ ls = leading es ++ Entry.kinds e ++ [.eof] := by
  have name : WrittenName := .literal "" .zero
  cases h with
  | column es => exact ⟨es, .of name (.name name), _, by rw [List.append_assoc]⟩
  | equals es c =>
      refine ⟨es, .of c (.name name), [.equals, name.kind, .eof], ?_⟩
      simp only [List.append_assoc]
      rfl
  | field es c =>
      refine ⟨es, .of c (.name name), [name.kind, .eof], ?_⟩
      simp only [List.append_assoc]
      rfl
  | closing es c text =>
      refine ⟨es, .of c (.call text .zero), [.rightParen, .eof], ?_⟩
      simp only [List.append_assoc]
      rfl
  | separator es e => exact ⟨es, e, [.eof], rfl⟩
  | ended es e => exact ⟨es, e, [], List.append_nil _⟩

theorem read_flatten {es : List Entry} (hn : es ≠ []) :
    Place.column.read (flatten es ++ [.eof]) = some .ended := by
  obtain ⟨ds, d, rfl⟩ := (List.eq_nil_or_concat' es).resolve_left hn
  rw [flatten_concat]
  exact (Behind.ended ds d).read_eq

theorem ne_invalid_of_read {p q : Place} {ks : List Kind} (h : p.read ks = some q) :
    ∀ k ∈ ks, ∀ message, k ≠ .invalid message := by
  induction ks generalizing p with
  | nil =>
      intro k hk
      cases hk
  | cons l ks ih =>
      rw [read_cons, Option.bind_eq_some_iff] at h
      obtain ⟨r, hr, hq⟩ := h
      intro k hk
      cases hk with
      | head =>
          rintro message rfl
          cases p <;> cases hr
      | tail _ hk => exact ih hq k hk

end Place

theorem begins_iff {ks : List Kind} : Begins ks ↔ ∃ p, Place.column.read ks = some p := by
  constructor
  · rintro ⟨es, hn, ls, hl⟩
    have hr : Place.column.read ((flatten es ++ [Kind.eof]).map Kind.form) = some .ended := by
      rw [Place.read_form, Place.read_flatten hn]
    rw [← hl, Place.read_append, Place.read_form, Option.bind_eq_some_iff] at hr
    obtain ⟨p, hp, -⟩ := hr
    exact ⟨p, hp⟩
  · rintro ⟨p, hp⟩
    obtain ⟨es, e, ls, hl⟩ := (Place.read_eq_some_iff.1 hp).completes
    refine ⟨es ++ [e], List.append_ne_nil_of_right_ne_nil es (List.cons_ne_nil e []), ?_⟩
    rw [flatten_concat, ← hl, List.map_append]
    exact List.prefix_append _ _

end ColumnBinding
