/-!
# Lines

Lines end with a line feed, a carriage return or both.
-/
namespace Constituency.Text

/-- The lines of a text that have an end, and what stands behind them; `line` is the open line, last
character first. -/
def splitLines (line : List Char) : List Char → List (List Char) × List Char
  | [] => ([], line.reverse)
  | '\r' :: '\n' :: cs => (splitLines [] cs).map (line.reverse :: ·) id
  | '\r' :: cs => (splitLines [] cs).map (line.reverse :: ·) id
  | '\n' :: cs => (splitLines [] cs).map (line.reverse :: ·) id
  | c :: cs => splitLines (c :: line) cs

/-- The lines of a text without their ends. -/
def lines (s : String) : List (List Char) :=
  let parts := splitLines [] s.toList
  if parts.2.isEmpty then parts.1 else parts.1 ++ [parts.2]

/-- A text without a carriage return at its end, which may be half of the end of a line. -/
def withoutReturn (cs : List Char) : List Char :=
  if cs.getLast? = some '\r' then cs.dropLast else cs

end Constituency.Text
