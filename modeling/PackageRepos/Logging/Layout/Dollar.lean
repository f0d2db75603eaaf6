import PackageRepos.Logging.Layout.Fields

/-!
# Layouts with dollar signs

A field is a dollar sign and a name, which braces may enclose. A dollar sign of the text itself is
written twice. A text without any field is no layout.
-/

namespace PackageRepos
namespace Logging
namespace Dollar

/-- A part of a layout. -/
inductive Piece where
  | literal (char : Char)
  | field (name : Text)
deriving DecidableEq, Repr

/-- The character may begin a name. -/
def beginsName (char : Char) : Bool := char.isAlpha || char == '_'

/-- The character may stand in a name. -/
def isNameChar (char : Char) : Bool := beginsName char || char.isDigit

/-- Takes a name. -/
def readName (text : Text) : Option (Text × Text) :=
  match text.span isNameChar with
  | (first :: more, rest) => if beginsName first then some (first :: more, rest) else none
  | _ => none

/-- Takes a name, which braces may enclose. -/
def readField (text : Text) : Option (Text × Text) :=
  match text with
  | '{' :: rest =>
    match readName rest with
    | some (name, '}' :: after) => some (name, after)
    | _ => none
  | _ => readName text

/-- Takes the pieces of a layout. Every piece takes a unit of fuel. -/
def piecesWithin : Nat → Text → Option (List Piece)
  | _, [] => some []
  | 0, _ => none
  | fuel + 1, '$' :: '$' :: rest => (piecesWithin fuel rest).map (.literal '$' :: ·)
  | fuel + 1, '$' :: rest => do
    let (name, after) ← readField rest
    (piecesWithin fuel after).map (.field name :: ·)
  | fuel + 1, char :: rest => (piecesWithin fuel rest).map (.literal char :: ·)

/-- The pieces of a layout, unless a dollar sign stands alone. -/
def pieces? (layout : Text) : Option (List Piece) := piecesWithin layout.length layout

/-- The piece is a field. -/
def isField : Piece → Bool
  | .field _ => true
  | .literal _ => false

/-- The text is a layout. -/
def isValid (layout : Text) : Bool :=
  match pieces? layout with
  | some pieces => pieces.any isField
  | none => false

/-- The line that a layout makes of fields, if all of them are known. -/
def render (fields : Fields) (layout : Text) : Option Text := do
  let pieces ← pieces? layout
  let written ← pieces.mapM fun
    | .literal char => some [char]
    | .field name => (fields.lookup name).map Value.plain
  some written.flatten

end Dollar
end Logging
end PackageRepos
