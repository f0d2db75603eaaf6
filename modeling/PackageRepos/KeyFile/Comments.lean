import PackageRepos.KeyFile.Reader

/-!
# Comments of a key file

Comments wait for the next line that is neither blank nor a comment and are kept above the header
or key found there; those that wait in vain stand at the end. Only the form of that line counts,
not its indentation.
-/

namespace PackageRepos
namespace KeyFile

/-- What has been collected so far. -/
structure Collecting where
  comments : OrderedMap Anchor (List Text) := ∅
  /-- The comment lines that wait for an anchor. -/
  pending : List Text := []
  /-- The group that keys belong to. -/
  group : Option Text := none
deriving DecidableEq, Repr

namespace Collecting

/-- Keeps the waiting comments above an anchor, after those that it has. -/
def attach (collecting : Collecting) (anchor : Anchor) : Collecting :=
  if collecting.pending.isEmpty then collecting
  else
    { collecting with
      comments := collecting.comments.alter anchor fun block => block.getD [] ++ collecting.pending
      pending := [] }

/-- Takes one line into account. -/
def step (collecting : Collecting) (line : Text) : Collecting :=
  let content := Text.strip line
  if content.isEmpty then collecting
  else if isComment content then { collecting with pending := collecting.pending ++ [content] }
  else
    match headerName? content, collecting.group with
    | some group, _ => { collecting with group := some group }.attach { group }
    | none, some group => collecting.attach { group, key := some (keyPart content) }
    | none, none => collecting

end Collecting

/-- The comments of a text and what they stand above. -/
def collectComments (text : Text) : Collecting := (Text.lines text).foldl Collecting.step {}

/-- The key file that a text describes. -/
def parse (text : Text) : Except SyntaxFault KeyFile :=
  match readGroups text with
  | .ok groups =>
    let collecting := collectComments text
    .ok { groups, comments := collecting.comments, trailing := collecting.pending }
  | .error fault => .error fault

end KeyFile
end PackageRepos
