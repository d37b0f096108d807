import Constituency.Number.Layout
import Constituency.OrderedMap
import Constituency.Text.Quoted

/-!
# Values

The data that a caller may hand over without a fixed type: labels still to be checked, settings, and
the items of two sequences that are compared. `Value.text` writes a value, `Value.same` compares two
values by what they stand for, so that an integer, a double and a truth value can be equal.
-/
namespace Constituency

/-- Data without a fixed type. -/
inductive Value where
  | null
  | bool (b : Bool)
  | int (n : Int)
  | float (x : Float)
  | text (s : String)
  | list (items : List Value)
  | record (fields : List (String × Value))
  deriving Inhabited

namespace Value

def kind : Value → String
  | null => "NoneType"
  | bool _ => "bool"
  | int _ => "int"
  | float _ => "float"
  | text _ => "str"
  | list _ => "list"
  | record _ => "dict"

mutual

/-- A value as text. -/
def display : Value → String
  | null => "None"
  | bool b => if b then "True" else "False"
  | int n => toString n
  | float x => Number.shortestText x
  | text s => Text.quoted s
  | list items => "[" ++ ", ".intercalate (displayAll items) ++ "]"
  | record fields => "\x7b" ++ ", ".intercalate (displayFields fields) ++ "\x7d"

def displayAll : List Value → List String
  | [] => []
  | v :: vs => v.display :: displayAll vs

def displayFields : List (String × Value) → List String
  | [] => []
  | (k, v) :: fs => (Text.quoted k ++ ": " ++ v.display) :: displayFields fs

end

/-- The number that a value stands for, as a double's value; truth values count as one and zero. -/
def number? : Value → Option Number.Binary
  | bool b => some (.finite false b.toNat 0)
  | int n => some (.finite (n < 0) n.natAbs 0)
  | float x => some (Number.Binary.ofFloat x)
  | _ => none

/-- Whether two numbers are equal in size; what is no number differs from everything. -/
def sameNumber : Number.Binary → Number.Binary → Bool
  | .finite s m p, .finite t n q =>
      let a := Number.Binary.quotient m p
      let b := Number.Binary.quotient n q
      a.1 * b.2 == b.1 * a.2 && (s == t || m == 0)
  | .infinite s, .infinite t => s == t
  | _, _ => false

mutual

/-- Whether two values stand for the same thing. Records are compared without their order. -/
def same : Value → Value → Bool
  | null, null => true
  | text a, text b => a == b
  | list xs, list ys => sameAll xs ys
  | record fs, record gs => fs.length == gs.length && sameFields fs gs
  | x, y =>
      match x.number?, y.number? with
      | some a, some b => sameNumber a b
      | _, _ => false

/-- Whether two lists of values agree item by item. -/
def sameAll : List Value → List Value → Bool
  | [], [] => true
  | x :: xs, y :: ys => same x y && sameAll xs ys
  | _, _ => false

/-- Whether every field has a counterpart of the same name. -/
def sameFields : List (String × Value) → List (String × Value) → Bool
  | [], _ => true
  | (k, v) :: fs, gs =>
      (match OrderedMap.find k gs with
        | some w => same v w
        | none => false) && sameFields fs gs

end

end Value

end Constituency
