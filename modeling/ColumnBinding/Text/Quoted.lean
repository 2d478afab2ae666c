/-! Text between double quotes, in which a quote of the text itself is written twice. Main
statements: collapsing the pairs undoes the doubling, and `split` cuts a text at its closing
quote without losing a character. -/
namespace ColumnBinding.Text.Quoted

/-- The inner text that stands for `cs`: every quote is doubled. -/
def encode : List Char → List Char
  | [] => []
  | c :: cs => if c = '"' then '"' :: '"' :: encode cs else c :: encode cs

/-- Every doubled quote, from the left, becomes one; a quote that stands alone is kept. -/
def decode : List Char → List Char
  | [] => []
  | '"' :: '"' :: cs => '"' :: decode cs
  | c :: cs => c :: decode cs

@[simp] theorem encode_quote (cs : List Char) : encode ('"' :: cs) = '"' :: '"' :: encode cs := rfl
theorem encode_cons {c : Char} (h : c ≠ '"') (cs : List Char) :
    encode (c :: cs) = c :: encode cs := if_neg h

@[simp] theorem decode_quotes (cs : List Char) :
    decode ('"' :: '"' :: cs) = '"' :: decode cs := rfl
theorem decode_cons {c : Char} (h : c ≠ '"') (cs : List Char) :
    decode (c :: cs) = c :: decode cs := by
  rw [decode.eq_def]
  split <;> simp_all

@[simp] theorem decode_encode (cs : List Char) : decode (encode cs) = cs := by
  induction cs with
  | nil => rfl
  | cons c cs ih =>
      by_cases h : c = '"'
      · subst h
        rw [encode_quote, decode_quotes, ih]
      · rw [encode_cons h, decode_cons h, ih]

/-- Cuts the text behind an opening quote into the inner text, with its quotes still doubled,
and what follows the closing quote. There is nothing to cut where no quote closes. -/
def split : List Char → Option (List Char × List Char)
  | [] => none
  | '"' :: '"' :: cs => (split cs).map fun p => ('"' :: '"' :: p.1, p.2)
  | c :: cs => if c = '"' then some ([], cs) else (split cs).map fun p => (c :: p.1, p.2)

theorem append_of_split {cs inner rest : List Char} (h : split cs = some (inner, rest)) :
    inner ++ '"' :: rest = cs := by
  fun_induction split cs generalizing inner rest with
  | case1 => simp at h
  | case2 cs ih =>
      obtain ⟨p, hp, he⟩ := Option.map_eq_some_iff.1 h
      cases he
      simp [ih hp]
  | case3 cs hc =>
      cases h
      rfl
  | case4 c cs hc hq ih =>
      obtain ⟨p, hp, he⟩ := Option.map_eq_some_iff.1 h
      cases he
      simp [ih hp]

/-- A text as it is written between its two quotes. -/
def enclose (text : String) : String := String.ofList ('"' :: encode text.toList ++ ['"'])

/-- The text for which an inner text stands. -/
def collapse (inner : String) : String := String.ofList (decode inner.toList)

end ColumnBinding.Text.Quoted
