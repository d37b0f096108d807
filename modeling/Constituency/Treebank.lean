import Constituency.Bracket.Reader
import Constituency.Bracket.Segment
import Constituency.Files
import Constituency.Label
import Constituency.Text.Encoding.Names
import Constituency.Tree.Basic
import Constituency.Tree.Traversal

/-!
# Treebanks

A treebank is a sequence of trees in bracket notation, spread over one or more files. The trees are
numbered from one across all files. A file is looked for when its turn comes, and reading gives
everything in front of the first error, and the error; function tags can be stripped off the labels,
and a root label can be required of every tree.
-/
namespace Constituency

structure TreebankOptions where
  /-- The label of every root; nothing is required when it is absent or empty. -/
  root : Option String
  /-- Whether function tags and indices are stripped off the labels. -/
  stripFunctions : Bool
  deriving Repr, DecidableEq

inductive TreebankError where
  | unknownFunctions (name : String)
  | noFiles (path directory : String)
  | file (error : PathError)
  | codec (error : Text.CodecError)
  | segment (error : Bracket.SegmentError)
  | tree (error : Bracket.ReadError)
  deriving Repr, DecidableEq

def TreebankError.message : TreebankError → String
  | unknownFunctions name =>
      "Expected one of (None, 'leave', 'remove'). Got: " ++ Text.quoted name
  | noFiles path directory => "no files matched pattern '" ++ path ++ "' in " ++ directory
  | file e => e.message
  | codec e => e.message
  | segment e => e.message
  | tree e => e.message

namespace Treebank

/-- Whether function tags are stripped, for the name of a treatment of them. -/
def stripFunctions? : Option String → Except TreebankError Bool
  | none => .ok false
  | some "leave" => .ok false
  | some "remove" => .ok true
  | some name => .error (.unknownFunctions name)

/-- A tree with the required root: an unlabeled root gets the label, another one a parent. -/
def ensureRoot (root : Option String) (t : Tree) : Tree :=
  match root, t with
  | none, t => t
  | some r, .node l cs =>
      if r = "" then t
      else if l = "" then .node r cs
      else if l = r then t
      else .node r [t]
  | some _, .leaf w => .leaf w

/-- A tree as the options want it. -/
def dress (o : TreebankOptions) (t : Tree) : Tree :=
  ensureRoot o.root (if o.stripFunctions then t.mapLabels Label.withoutFunction else t)

def readBlock (o : TreebankOptions) (block : List Char) : Except Bracket.ReadError Tree :=
  (Bracket.read block).map fun t => dress o (t.mapWords Bracket.unescapeWord)

/-- Items in front of the first error, and the error. -/
structure Reading (α : Type) where
  items : List α
  error : Option TreebankError

namespace Reading

/-- All items, when there is no error. -/
def all {α : Type} (r : Reading α) : Except TreebankError (List α) :=
  match r.error with
  | none => .ok r.items
  | some e => .error e

/-- Change every item until one cannot be changed. -/
def mapM {α β : Type} (f : α → Except TreebankError β) (r : Reading α) : Reading β :=
  go r.items
where
  go : List α → Reading β
    | [] => ⟨[], r.error⟩
    | a :: as =>
        match f a with
        | .error e => ⟨[], some e⟩
        | .ok b =>
            let rest := go as
            ⟨b :: rest.items, rest.error⟩

end Reading

/-- Of an error among lines and an error behind them, the one that is met first. That a block is not
closed is noticed behind all lines only. -/
def firstError (among : Option Bracket.SegmentError) (behind : Option Text.CodecError) :
    Option TreebankError :=
  match among, behind with
  | some (.unclosed _), some e | none, some e => some (.codec e)
  | e, _ => e.map .segment

/-- The bytes of a file and the encoding of a name. A name that cannot be one is noticed before the file
is looked for, an unknown one after it. -/
def openFile (encoding : String) (file : Except PathError ByteArray) :
    Except TreebankError (ByteArray × Text.Encoding) := do
  (Text.Encoding.checkName encoding).mapError .codec
  let bytes ← file.mapError .file
  pure (bytes, ← (Text.Encoding.forFile encoding).mapError .codec)

/-- The blocks of one file. -/
def blocksOf (encoding : String) (file : Except PathError ByteArray) : Reading (List Char) :=
  match openFile encoding file with
  | .error e => ⟨[], some e⟩
  | .ok (bytes, e) =>
      let decoded := e.readLines bytes
      let blocks := Bracket.segment decoded.items
      ⟨blocks.blocks, firstError blocks.final decoded.error⟩

/-- The blocks of several files, one after the other. -/
def blocks (encoding : String) : List (Except PathError ByteArray) → Reading (List Char)
  | [] => ⟨[], none⟩
  | file :: files =>
      let first := blocksOf encoding file
      match first.error with
      | some e => ⟨first.items, some e⟩
      | none =>
          let rest := blocks encoding files
          ⟨first.items ++ rest.items, rest.error⟩

/-- The trees of several files, one after the other. -/
def trees (o : TreebankOptions) (encoding : String) (files : List (Except PathError ByteArray)) :
    Reading Tree :=
  (blocks encoding files).mapM fun b => (readBlock o b).mapError .tree

/-- Items with their numbers, from one on. -/
def numbered {α : Type} (items : List α) : List (Nat × α) := (List.range' 1 items.length).zip items

end Treebank

end Constituency
