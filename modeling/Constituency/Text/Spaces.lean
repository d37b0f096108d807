import Constituency.Position

/-!
# Numbers of spaces

A text can be indented by any number of spaces that is a signed one of 64 bits; a negative number is none.
Whether there is room for them all is left aside.
-/
namespace Constituency.Text

/-- Why a text is not indented. -/
inductive SpacesError where
  | outOfReach
  deriving Repr, DecidableEq

/-- Nothing, if a text can be indented by a number of spaces. -/
def checkSpaces (n : Int) : Except SpacesError Unit :=
  if isReachable n then .ok () else .error .outOfReach

end Constituency.Text
