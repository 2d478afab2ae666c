/-! JSON values whose objects keep the order of their members. -/
namespace ColumnBinding

inductive Json where
  | null
  | bool (value : Bool)
  | integer (value : Int)
  /-- The number `mantissa · 10 ^ exponent`, for numbers that are not written as integers. -/
  | scaled (mantissa exponent : Int)
  | string (text : String)
  | array (items : List Json)
  | object (members : List (String × Json))
deriving Inhabited

namespace Json

def text? : Json → Option String
  | string s => some s
  | _ => none

/-- What a count stays below, `2 ^ 64`. -/
def countLimit : Nat := 18446744073709551616

/-- A count is an integer from zero up to the limit. -/
def count? : Json → Option Nat
  | integer (.ofNat n) => if n < countLimit then some n else none
  | _ => none

/-- The value of the first member of that name. -/
def member? (name : String) : Json → Option Json
  | object ms => ms.lookup name
  | _ => none

end Json
end ColumnBinding
