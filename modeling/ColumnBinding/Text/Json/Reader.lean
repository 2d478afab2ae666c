import ColumnBinding.Text.Json.Basic

/-! Reading JSON text. A number without fraction and exponent is an integer, except for minus
zero; every other number keeps its mantissa and its exponent. -/
namespace ColumnBinding.Json

def skipBlanks (cs : List Char) : List Char :=
  cs.dropWhile fun c => c == ' ' || c == '\t' || c == '\n' || c == '\r'

def hexDigit? (c : Char) : Option Nat :=
  if c.isDigit then some (c.toNat - '0'.toNat)
  else if 'a' ≤ c && c ≤ 'f' then some (c.toNat - 'a'.toNat + 10)
  else if 'A' ≤ c && c ≤ 'F' then some (c.toNat - 'A'.toNat + 10)
  else none

def hex? (cs : List Char) : Option Nat :=
  cs.foldlM (fun n c => (hexDigit? c).map (16 * n + ·)) 0

/-- The character behind an escape of one letter. -/
def unescape? : Char → Option Char
  | '"' => some '"'
  | '\\' => some '\\'
  | '/' => some '/'
  | 'b' => some '\x08'
  | 'f' => some '\x0c'
  | 'n' => some '\n'
  | 'r' => some '\r'
  | 't' => some '\t'
  | _ => none

/-- The code units of a string up to its closing quote, in front of those already read in
reverse, and the text behind the quote. -/
def units (read : List Nat) : List Char → Option (List Nat × List Char)
  | '"' :: cs => some (read.reverse, cs)
  | '\\' :: 'u' :: a :: b :: c :: d :: cs =>
      match hex? [a, b, c, d] with
      | some n => units (n :: read) cs
      | none => none
  | '\\' :: c :: cs =>
      match unescape? c with
      | some e => units (e.toNat :: read) cs
      | none => none
  | c :: cs => if c.toNat < 0x20 then none else units (c.toNat :: read) cs
  | [] => none

/-- The characters of code units, in front of those already read in reverse. The two halves of a
pair make one character, and neither stands alone. -/
def characters (read : List Char) : List Nat → Option (List Char)
  | [] => some read.reverse
  | n :: ns =>
      if 0xD800 ≤ n && n < 0xDC00 then
        match ns with
        | m :: ms =>
            if 0xDC00 ≤ m && m < 0xE000 then
              characters (Char.ofNat (0x10000 + (n - 0xD800) * 0x400 + (m - 0xDC00)) :: read) ms
            else none
        | [] => none
      else if 0xDC00 ≤ n && n < 0xE000 then none
      else characters (Char.ofNat n :: read) ns

def readString (cs : List Char) : Option (String × List Char) := do
  let (us, rest) ← units [] cs
  return (String.ofList (← characters [] us), rest)

/-- The digits at the head of a text, one at least, and the text behind them. -/
def readDigits (cs : List Char) : Option (List Char × List Char) :=
  match cs.takeWhile Char.isDigit with
  | [] => none
  | ds => some (ds, cs.dropWhile Char.isDigit)

def decimal (ds : List Char) : Nat := ds.foldl (fun n d => 10 * n + (d.toNat - '0'.toNat)) 0

/-- The digits behind a point, if there is one. -/
def readFraction : List Char → Option (Option (List Char) × List Char)
  | '.' :: cs => (readDigits cs).map fun p => (some p.1, p.2)
  | cs => some (none, cs)

/-- A sign, if there is one, and whether it is a minus. -/
def readSign : List Char → Bool × List Char
  | '-' :: cs => (true, cs)
  | '+' :: cs => (false, cs)
  | cs => (false, cs)

def readExponent : List Char → Option (Option Int × List Char)
  | c :: cs =>
      if c == 'e' || c == 'E' then
        let (negative, cs) := readSign cs
        (readDigits cs).map fun p =>
          (some (if negative then -(decimal p.1 : Int) else (decimal p.1 : Int)), p.2)
      else some (none, c :: cs)
  | [] => some (none, [])

/-- A number. Its whole part begins with a zero only where it is zero. -/
def readNumber (cs : List Char) : Option (Json × List Char) := do
  let (negative, cs) := match cs with
    | '-' :: cs => (true, cs)
    | cs => (false, cs)
  let (whole, cs) ← readDigits cs
  let (fraction, cs) ← readFraction cs
  let (exponent, cs) ← readExponent cs
  if whole.head? = some '0' ∧ whole.length ≠ 1 then none
  else
    let size := decimal (whole ++ fraction.getD [])
    let mantissa : Int := if negative then -(size : Int) else size
    if fraction.isNone ∧ exponent.isNone ∧ ¬(negative ∧ size = 0) then
      return (.integer mantissa, cs)
    else return (.scaled mantissa (exponent.getD 0 - (fraction.getD []).length), cs)

mutual

/-- A value, read in at most so many steps. -/
def readValue : Nat → List Char → Option (Json × List Char)
  | 0, _ => none
  | steps + 1, cs =>
      match skipBlanks cs with
      | 'n' :: 'u' :: 'l' :: 'l' :: cs => some (.null, cs)
      | 't' :: 'r' :: 'u' :: 'e' :: cs => some (.bool true, cs)
      | 'f' :: 'a' :: 'l' :: 's' :: 'e' :: cs => some (.bool false, cs)
      | '"' :: cs => (readString cs).map fun p => (.string p.1, p.2)
      | '[' :: cs =>
          match skipBlanks cs with
          | ']' :: cs => some (.array [], cs)
          | cs => (readItems steps cs).map fun p => (.array p.1, p.2)
      | '{' :: cs =>
          match skipBlanks cs with
          | '}' :: cs => some (.object [], cs)
          | cs => (readMembers steps cs).map fun p => (.object p.1, p.2)
      | cs => readNumber cs

def readItems : Nat → List Char → Option (List Json × List Char)
  | 0, _ => none
  | steps + 1, cs => do
      let (v, cs) ← readValue steps cs
      match skipBlanks cs with
      | ',' :: cs =>
          let (vs, cs) ← readItems steps cs
          return (v :: vs, cs)
      | ']' :: cs => return ([v], cs)
      | _ => none

def readMembers : Nat → List Char → Option (List (String × Json) × List Char)
  | 0, _ => none
  | steps + 1, cs => do
      let (k, cs) ← match skipBlanks cs with
        | '"' :: cs => readString cs
        | _ => none
      match skipBlanks cs with
      | ':' :: cs =>
          let (v, cs) ← readValue steps cs
          match skipBlanks cs with
          | ',' :: cs =>
              let (ms, cs) ← readMembers steps cs
              return ((k, v) :: ms, cs)
          | '}' :: cs => return ([(k, v)], cs)
          | _ => none
      | _ => none

end

/-- The value that a text holds. Every second step at least takes a character. -/
def ofText? (text : String) : Option Json :=
  let cs := text.toList
  match readValue (2 * cs.length + 2) cs with
  | some (j, rest) => if (skipBlanks rest).isEmpty then some j else none
  | none => none

end ColumnBinding.Json
