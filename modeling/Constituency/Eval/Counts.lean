import Constituency.OrderedMap
import Std.Data.HashMap.Lemmas

/-!
# Multisets of counts

A multiset gives each of its keys a number of occurrences. Two multisets are compared through
their sizes and through the size of what they have in common. A number may be zero or negative;
then it adds to the size, and nothing to what is in common.
-/
namespace Constituency

/-- Keys with their numbers of occurrences. -/
abbrev Counts (κ : Type) := OrderedMap κ Int

namespace Counts

variable {κ : Type} [DecidableEq κ]

/-- The number of occurrences of a key; a key that is not listed has none. -/
def count (m : Counts κ) (k : κ) : Int := (OrderedMap.get? m k).getD 0

def add (m : Counts κ) (k : κ) (n : Int) : Counts κ := OrderedMap.alter m k fun c => c.getD 0 + n

def ofList (l : List κ) : Counts κ := l.foldl (fun m k => add m k 1) .empty

/-- The sum of all numbers. -/
def size {κ : Type} (m : Counts κ) : Int := (OrderedMap.values m).foldr (· + ·) 0

/-- Whether no key is listed. -/
def isEmpty {κ : Type} (m : Counts κ) : Bool := m.entries.isEmpty

/-- The numbers of all keys in a table, where they are found without a search. -/
def table [Hashable κ] (m : Counts κ) : Std.HashMap κ Int :=
  m.entries.foldr (fun e t => t.insert e.1 e.2) ∅

@[simp] theorem getD_table [Hashable κ] (m : Counts κ) (k : κ) : m.table.getD k 0 = count m k := by
  obtain ⟨entries⟩ := m
  simp only [table, count, OrderedMap.get?]
  induction entries with
  | nil => simp [OrderedMap.find]
  | cons e es ih =>
      by_cases h : e.1 = k <;> simp [Std.HashMap.getD_insert, OrderedMap.find, h, ih]

/-- How many occurrences two multisets have in common. -/
def overlap [Hashable κ] (m n : Counts κ) : Int :=
  let numbers := n.table
  m.entries.foldr (fun e sum => max 0 (min e.2 (numbers.getD e.1 0)) + sum) 0

/-- Of every listed key as many occurrences are in common as it has on the poorer side. -/
theorem overlap_eq [Hashable κ] (m n : Counts κ) :
    m.overlap n = m.entries.foldr (fun e sum => max 0 (min e.2 (count n e.1)) + sum) 0 := by
  simp [overlap]

/-- Whether every key has the same number of occurrences in both. -/
def same (m n : Counts κ) : Bool :=
  (OrderedMap.keys m ++ OrderedMap.keys n).all fun k => count m k == count n k

/-- Add the occurrences of another multiset under changed keys; only positive numbers count. -/
def addAll {ι : Type} (m : Counts κ) (f : ι → κ) (n : Counts ι) : Counts κ :=
  n.entries.foldl (fun m e => if 0 < e.2 then add m (f e.1) e.2 else m) m

@[simp] theorem count_empty (k : κ) : count (OrderedMap.empty : Counts κ) k = 0 := rfl

/-- Adding occurrences changes the number of their key only. -/
@[simp] theorem count_add (m : Counts κ) (k x : κ) (n : Int) :
    count (add m k n) x = if k = x then count m x + n else count m x := by
  by_cases h : k = x <;> simp [count, add, OrderedMap.get?_alter, h]

end Counts

end Constituency
