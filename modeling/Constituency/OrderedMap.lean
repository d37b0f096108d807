/-!
# Maps that remember insertion order

A finite map kept as the list of its entries, oldest key first. Writing to a key that is already
present changes its value in place; a new key goes to the end. Every listing of the library that
promises "in order of first occurrence" is a listing of such a map.
-/
namespace Constituency

/-- A finite map whose keys are listed in the order in which they were first written. -/
structure OrderedMap (κ ν : Type) where
  entries : List (κ × ν)
  deriving Repr

namespace OrderedMap

variable {κ ν : Type}

def empty : OrderedMap κ ν := ⟨[]⟩

instance : Inhabited (OrderedMap κ ν) := ⟨empty⟩

/-- The keys, oldest first. -/
def keys (m : OrderedMap κ ν) : List κ := m.entries.map Prod.fst

/-- The values, in the order of their keys. -/
def values (m : OrderedMap κ ν) : List ν := m.entries.map Prod.snd

def size (m : OrderedMap κ ν) : Nat := m.entries.length

section Lookup

variable [DecidableEq κ]

/-- Search of an entry list. -/
def find (k : κ) : List (κ × ν) → Option ν
  | [] => none
  | e :: es => if e.1 = k then some e.2 else find k es

/-- Update of an entry list: in place when the key is present, at the end otherwise. -/
def put (k : κ) (f : Option ν → ν) : List (κ × ν) → List (κ × ν)
  | [] => [(k, f none)]
  | e :: es => if e.1 = k then (k, f (some e.2)) :: es else e :: put k f es

def get? (m : OrderedMap κ ν) (k : κ) : Option ν := find k m.entries

def contains (m : OrderedMap κ ν) (k : κ) : Bool := (m.get? k).isSome

/-- Change the value of a key, which is `none` while the key is absent. -/
def alter (m : OrderedMap κ ν) (k : κ) (f : Option ν → ν) : OrderedMap κ ν :=
  ⟨put k f m.entries⟩

def insert (m : OrderedMap κ ν) (k : κ) (v : ν) : OrderedMap κ ν := m.alter k fun _ => v

/-- The map of a list of entries, a later entry of a key replacing the value of an earlier one. -/
def ofList (l : List (κ × ν)) : OrderedMap κ ν :=
  l.foldl (fun m e => m.insert e.1 e.2) empty

@[simp] theorem get?_empty (k : κ) : (empty : OrderedMap κ ν).get? k = none := rfl

theorem find_put (k x : κ) (f : Option ν → ν) (l : List (κ × ν)) :
    find x (put k f l) = if k = x then some (f (find k l)) else find x l := by
  induction l with
  | nil => by_cases h : k = x <;> simp [put, find, h]
  | cons e es ih =>
      by_cases hk : e.1 = k
      · by_cases hx : k = x
        · simp [put, find, hk, hx]
        · simp [put, find, hk, hx]
      · by_cases hx : e.1 = x
        · subst hx
          simp [put, find, hk, Ne.symm hk]
        · simp [put, find, hk, hx, ih]

/-- Reading after a change. -/
theorem get?_alter (m : OrderedMap κ ν) (k x : κ) (f : Option ν → ν) :
    (m.alter k f).get? x = if k = x then some (f (m.get? k)) else m.get? x :=
  find_put k x f m.entries

/-- Reading after a write. -/
@[simp] theorem get?_insert (m : OrderedMap κ ν) (k x : κ) (v : ν) :
    (m.insert k v).get? x = if k = x then some v else m.get? x :=
  get?_alter m k x _

theorem map_fst_put (k : κ) (f : Option ν → ν) (l : List (κ × ν)) :
    (put k f l).map Prod.fst =
      if (find k l).isSome then l.map Prod.fst else l.map Prod.fst ++ [k] := by
  induction l with
  | nil => simp [put, find]
  | cons e es ih =>
      by_cases hk : e.1 = k
      · simp [put, find, hk]
      · simp only [put, find, hk, if_false, List.map_cons, ih]
        split <;> simp

/-- A change keeps the keys and their order; a new key goes to the end. -/
theorem keys_alter (m : OrderedMap κ ν) (k : κ) (f : Option ν → ν) :
    (m.alter k f).keys = if m.contains k then m.keys else m.keys ++ [k] :=
  map_fst_put k f m.entries

end Lookup

end OrderedMap

/-! ## Counting -/

/-- How often each key was counted, keys in the order of their first occurrence. -/
abbrev Tally (κ : Type) := OrderedMap κ Nat

namespace Tally

variable {κ : Type} [DecidableEq κ]

/-- The count of a key; an unseen key has the count zero. -/
def count (t : Tally κ) (k : κ) : Nat := (OrderedMap.get? t k).getD 0

/-- Count one more occurrence of a key. -/
def bump (t : Tally κ) (k : κ) : Tally κ := OrderedMap.alter t k fun c => c.getD 0 + 1

def total (t : Tally κ) : Nat := (OrderedMap.values t).foldr (· + ·) 0

@[simp] theorem count_empty (k : κ) : count (OrderedMap.empty : Tally κ) k = 0 := rfl

/-- Counting an occurrence raises the count of its key by one and keeps all others. -/
@[simp] theorem count_bump (t : Tally κ) (k x : κ) :
    count (bump t k) x = if k = x then count t x + 1 else count t x := by
  by_cases h : k = x <;> simp [count, bump, OrderedMap.get?_alter, h]

end Tally

end Constituency
