import Constituency.Value

/-!
# Attributes

A record of named values to which more can be added. Names are listed in the order in which they
were first given. The record and the operation that adds to it have names of their own: a record is
not made with an attribute of the one name, though one can be added, and an attribute of the other
name hides the operation.
-/
namespace Constituency

/-- Named values. -/
abbrev Attributes := OrderedMap String Value

inductive AttributesError where
  /-- A record made with an attribute under the name of the record itself. -/
  | nameOfRecord
  /-- The operation that adds attributes, hidden by one of its name. -/
  | hiddenOperation
  /-- A name that means an operation, and not a value. -/
  | nameOfOperation
  | missing (message : String)
  deriving Repr, DecidableEq

namespace Attributes

def ownName : String := "self"

/-- The name of the operation that adds attributes. -/
def updateName : String := "update"

/-- The record of some attributes, none of which has the name of the record itself. -/
def ofList (fields : List (String × Value)) : Except AttributesError Attributes :=
  if fields.any fun e => e.1 == ownName then .error .nameOfRecord else .ok (OrderedMap.ofList fields)

/-- Overwrite or add attributes, unless one of them hides the operation. -/
def update (a : Attributes) (more : List (String × Value)) : Except AttributesError Attributes :=
  if OrderedMap.contains a updateName then .error .hiddenOperation
  else .ok (more.foldl (fun m e => OrderedMap.insert m e.1 e.2) a)

def display (a : Attributes) : String :=
  "DictObj(" ++ ",\n\t".intercalate (a.entries.map fun e => e.1 ++ "=" ++ e.2.display) ++ ")"

/-- What is said when an attribute is missing. -/
def missingMessage (a : Attributes) (name : String) : String :=
  "'DictObj' instance has no attribute " ++ Text.quoted name ++ ".\nAvailable attributes: dict_keys(" ++
    Text.quotedList a.keys ++ ")"

def value (a : Attributes) (name : String) : Except AttributesError Value :=
  match OrderedMap.get? a name with
  | some v => .ok v
  | none =>
      .error (if name = updateName then .nameOfOperation else .missing (a.missingMessage name))

end Attributes

end Constituency
