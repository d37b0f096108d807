/-!
# Tables of bytes

Many encodings give each byte a character of its own, or none. A table lists the characters in the
order of their bytes; most tables begin with ASCII. What is written with a table is read back with it.
-/
namespace Constituency.Text

/-- The characters of single bytes in their order. A byte behind the end has no character. -/
structure ByteTable where
  chars : Array Char
  deriving Repr, DecidableEq

namespace ByteTable

/-- What a table has in the place of a byte without a character. -/
def unassigned : Char := '\ufffd'

def char? (t : ByteTable) (b : UInt8) : Option Char := t.chars[b.toNat]?.filter (· != unassigned)

/-- All bytes, the greatest one in front. -/
def bytesDown : List UInt8 := (List.range 256).reverse.map Nat.toUInt8

/-- The greatest byte of a character. -/
def byte? (t : ByteTable) (c : Char) : Option UInt8 := bytesDown.find? fun b => t.char? b == some c

theorem char?_of_byte? {t : ByteTable} {c : Char} {b : UInt8} (h : t.byte? c = some b) :
    t.char? b = some c := by
  simpa using List.find?_some h

def read? (t : ByteTable) (bytes : List UInt8) : Option (List Char) := bytes.mapM t.char?

def write? (t : ByteTable) (cs : List Char) : Option (List UInt8) := cs.mapM t.byte?

/-- What is written is read back. -/
theorem read?_of_write? {t : ByteTable} {cs : List Char} {bytes : List UInt8}
    (h : t.write? cs = some bytes) : t.read? bytes = some cs := by
  induction cs generalizing bytes with
  | nil =>
    have : bytes = [] := by simpa [write?] using h.symm
    simp [this, read?]
  | cons c cs ih =>
    simp only [write?, List.mapM_cons, Option.bind_eq_bind, Option.bind_eq_some_iff, Option.pure_def,
      Option.some.injEq] at h ih
    obtain ⟨b, hb, rest, hrest, rfl⟩ := h
    have := ih hrest
    simp only [read?] at this
    simp [read?, List.mapM_cons, char?_of_byte? hb, this]

/-! ## Making tables -/

/-- The characters of the first numbers. -/
def firstChars (n : Nat) : List Char := (List.range n).map Char.ofNat

def ascii : ByteTable := ⟨(firstChars 128).toArray⟩

/-- The table in which the number of a character is its byte. -/
def latin1 : ByteTable := ⟨(firstChars 256).toArray⟩

/-- The table of the characters in rows. -/
def ofRows (rows : List String) : ByteTable := ⟨(String.join rows).toList.toArray⟩

/-- The table with ASCII in front of the characters in rows. -/
def ofUpper (rows : List String) : ByteTable := ofRows (String.ofList (firstChars 128) :: rows)

/-- The table with ASCII and the upper control characters in front of the characters in rows. -/
def ofGraphic (rows : List String) : ByteTable := ofRows (String.ofList (firstChars 160) :: rows)

/-- A table with another character for a byte. -/
def change (b : UInt8) (c : Char) (t : ByteTable) : ByteTable := ⟨t.chars.setIfInBounds b.toNat c⟩

end ByteTable

end Constituency.Text
