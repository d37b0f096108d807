import Constituency.Text.ByteTable

/-!
# Grids of characters

The character sets of East Asia are grids: rows of the same number of cells, each of which has a
character or none. A character is found in its first place.
-/
namespace Constituency.Text

/-- Characters in rows of equal width, row by row. -/
structure Grid where
  width : Nat
  chars : Array Char
  deriving Repr, DecidableEq

namespace Grid

/-- The grid of some rows; short rows are filled up with cells that have no character. -/
def ofRows (width : Nat) (rows : List String) : Grid :=
  ⟨width, (rows.flatMap fun row =>
    let cs := row.toList
    cs ++ List.replicate (width - cs.length) ByteTable.unassigned).toArray⟩

/-- The character in a cell of a row; both are counted from zero. -/
def char? (g : Grid) (row cell : Nat) : Option Char :=
  if cell < g.width then g.chars[row * g.width + cell]?.filter (· != ByteTable.unassigned) else none

/-- The row and the cell of a character. -/
def place? (g : Grid) (c : Char) : Option (Nat × Nat) :=
  if c = ByteTable.unassigned then none
  else (g.chars.findIdx? (· == c)).map fun k => (k / g.width, k % g.width)

/-- A grid with the characters of a text from a cell on. Where the text has none, those of the grid
stay. -/
def set (g : Grid) (row cell : Nat) (text : String) : Grid :=
  let start := row * g.width + cell
  let chars := g.chars ++ Array.replicate (start + text.length - g.chars.size) ByteTable.unassigned
  ⟨g.width, (text.toList.zipIdx start).foldl (fun cs (c, k) =>
    if c = ByteTable.unassigned then cs else cs.setIfInBounds k c) chars⟩

/-- The grid of the characters that a function has in rows and cells. -/
def tabulate (rows width : Nat) (f : Nat → Nat → Option Char) : Grid :=
  ⟨width, ((List.range (rows * width)).map fun n =>
    (f (n / width) (n % width)).getD ByteTable.unassigned).toArray⟩

/-- The characters with numbers from `first` on that a grid does not have, in their order. -/
def missing (g : Grid) (first count : Nat) : Array Char :=
  let present := g.chars.foldl (fun flags c =>
    if c = ByteTable.unassigned || c.toNat < first then flags
    else flags.setIfInBounds (c.toNat - first) true) (Array.replicate count false)
  ((List.range count).filter fun k => (first + k).isValidChar && !present.getD k true).toArray.map
    fun k => Char.ofNat (first + k)

/-- A character stands in the place in which it is found. -/
theorem char?_of_place? {g : Grid} {c : Char} {row cell : Nat} (hw : 0 < g.width)
    (h : g.place? c = some (row, cell)) : g.char? row cell = some c := by
  simp only [place?] at h
  split at h
  · simp at h
  · rename_i hc
    obtain ⟨n, hn, hp⟩ := Option.map_eq_some_iff.1 h
    obtain ⟨hlt, heq, _⟩ := Array.findIdx?_eq_some_iff_getElem.1 hn
    obtain ⟨rfl, rfl⟩ := Prod.mk.injEq .. ▸ hp
    have : n / g.width * g.width + n % g.width = n := by
      rw [Nat.mul_comm]; exact Nat.div_add_mod n g.width
    simp only [beq_iff_eq] at heq
    simp [char?, Nat.mod_lt _ hw, this, hlt, heq, hc]

/-! ## Two bytes with high bits -/

/-- The character of two bytes that number row and cell from 0xA1 on. -/
def highChar? (g : Grid) (a b : Nat) : Option Char :=
  if 0xA1 ≤ a && 0xA1 ≤ b then g.char? (a - 0xA1) (b - 0xA1) else none

/-- The two bytes of a character that number row and cell from 0xA1 on. -/
def highBytes? (g : Grid) (c : Char) : Option (List Nat) :=
  (g.place? c).map fun (row, cell) => [0xA1 + row, 0xA1 + cell]

end Grid

end Constituency.Text
