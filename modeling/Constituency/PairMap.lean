import Std.Data.TreeMap.Lemmas

/-!
# Maps over pairs of numbers

A finite map over pairs of integers is kept twice, by the first number of its pairs and by the
second one, so that the entries with a given number on either side are found without a search and
come in ascending order. Reading after a write (`get?_insert`) determines the map; its listings hold
exactly the entries that can be read (`mem_row`, `mem_column`, `mem_toList`).
-/
namespace Constituency

/-- The values of a map over pairs, under the one number and then under the other. -/
abbrev Rows (ν : Type) := Std.TreeMap Int (Std.TreeMap Int ν)

namespace Rows

variable {ν : Type}

/-- The entries under a number. -/
def row (t : Rows ν) (a : Int) : Std.TreeMap Int ν := t.getD a ∅

/-- The value under two numbers. -/
def read? (t : Rows ν) (a b : Int) : Option ν := (t.row a)[b]?

/-- Give two numbers a value. -/
def write (t : Rows ν) (a b : Int) (v : ν) : Rows ν := t.insert a ((t.row a).insert b v)

@[simp] theorem read?_empty (a b : Int) : Rows.read? (∅ : Rows ν) a b = none := by
  simp [read?, row]

/-- Reading after a write. -/
theorem read?_write (t : Rows ν) (a b x y : Int) (v : ν) :
    Rows.read? (Rows.write t a b v) x y = if a = x ∧ b = y then some v else Rows.read? t x y := by
  by_cases h : a = x
  · subst h
    simp [read?, row, write, Std.TreeMap.getElem?_insert]
  · simp [read?, row, write, Std.TreeMap.getD_insert, h]

end Rows

/-- A finite map over pairs of numbers. -/
structure PairMap (ν : Type) where
  byFirst : Rows ν
  bySecond : Rows ν
  agree : ∀ a b, Rows.read? byFirst a b = Rows.read? bySecond b a

namespace PairMap

variable {ν : Type}

def empty : PairMap ν := ⟨∅, ∅, fun _ _ => by simp⟩

def get? (m : PairMap ν) (k : Int × Int) : Option ν := Rows.read? m.byFirst k.1 k.2

def contains (m : PairMap ν) (k : Int × Int) : Bool := (m.get? k).isSome

def insert (m : PairMap ν) (k : Int × Int) (v : ν) : PairMap ν :=
  ⟨Rows.write m.byFirst k.1 k.2 v, Rows.write m.bySecond k.2 k.1 v, fun a b => by
    simp only [Rows.read?_write, m.agree a b, and_comm]⟩

/-- The entries with a given first number, in ascending order of the second one. -/
def row (m : PairMap ν) (a : Int) : List (Int × ν) := (Rows.row m.byFirst a).toList

/-- The entries with a given second number, in ascending order of the first one. -/
def column (m : PairMap ν) (b : Int) : List (Int × ν) := (Rows.row m.bySecond b).toList

/-- The first numbers of all pairs, in ascending order. -/
def firsts (m : PairMap ν) : List Int := m.byFirst.keys

/-- The second numbers of all pairs, in ascending order. -/
def seconds (m : PairMap ν) : List Int := m.bySecond.keys

/-- All entries, in ascending order of the first and then of the second number. -/
def toList (m : PairMap ν) : List ((Int × Int) × ν) :=
  m.firsts.flatMap fun a => (m.row a).map fun e => ((a, e.1), e.2)

def size (m : PairMap ν) : Nat := m.toList.length

@[simp] theorem get?_empty (k : Int × Int) : (empty : PairMap ν).get? k = none := by
  simp [get?, empty]

/-- Reading after a write. -/
@[simp] theorem get?_insert (m : PairMap ν) (k x : Int × Int) (v : ν) :
    (m.insert k v).get? x = if k = x then some v else m.get? x := by
  simp [get?, insert, Rows.read?_write, Prod.ext_iff]

@[simp] theorem mem_row {m : PairMap ν} {a b : Int} {v : ν} :
    (b, v) ∈ m.row a ↔ m.get? (a, b) = some v :=
  Std.TreeMap.mem_toList_iff_getElem?_eq_some

@[simp] theorem mem_column {m : PairMap ν} {a b : Int} {v : ν} :
    (a, v) ∈ m.column b ↔ m.get? (a, b) = some v := by
  rw [get?, m.agree]
  exact Std.TreeMap.mem_toList_iff_getElem?_eq_some

/-- A row comes in ascending order, without repetition. -/
theorem row_ascending (m : PairMap ν) (a : Int) : (m.row a).Pairwise fun d e => d.1 < e.1 :=
  Std.TreeMap.ordered_keys_toList.imp Int.compare_eq_lt.1

/-- A column comes in ascending order, without repetition. -/
theorem column_ascending (m : PairMap ν) (b : Int) :
    (m.column b).Pairwise fun d e => d.1 < e.1 :=
  Std.TreeMap.ordered_keys_toList.imp Int.compare_eq_lt.1

/-- The listing holds what can be read. -/
@[simp] theorem mem_toList {m : PairMap ν} {k : Int × Int} {v : ν} :
    (k, v) ∈ m.toList ↔ m.get? k = some v := by
  obtain ⟨a, b⟩ := k
  simp only [toList, List.mem_flatMap, List.mem_map, Prod.mk.injEq, firsts]
  constructor
  · rintro ⟨x, _, e, he, ⟨rfl, rfl⟩, rfl⟩
    exact mem_row.1 he
  · intro h
    refine ⟨a, ?_, (b, v), mem_row.2 h, ⟨rfl, rfl⟩, rfl⟩
    rw [Std.TreeMap.mem_keys]
    by_cases ha : a ∈ m.byFirst
    · exact ha
    · simp [get?, Rows.read?, Rows.row, Std.TreeMap.getD_eq_fallback ha] at h

end PairMap

end Constituency
