import PackageRepos.Text.Blank

/-!
# Lines of a key file

What one line says by itself: nothing, a comment, a group's header, or an entry. All functions take
the line without the blanks around it.
-/

namespace PackageRepos
namespace KeyFile

/-- The line is a comment. -/
def isComment (content : Text) : Bool := content.head? == some '#'

/-- The group named in a header: all that stands between the bracket at the start and the last
closing bracket. What follows the header is ignored. -/
def headerName? (content : Text) : Option Text :=
  match content with
  | '[' :: rest =>
    match rest.reverse.dropWhile (· != ']') with
    | ']' :: name => if name.isEmpty then none else some name.reverse
    | _ => none
  | _ => none

/-- The part of an entry before its first equals sign. -/
def keyPart (content : Text) : Text := Text.stripRight (content.takeWhile (· != '='))

/-- The key and the value of an entry, which are divided by the first equals sign. -/
def entryOf? (content : Text) : Option (Text × Text) :=
  match content.dropWhile (· != '=') with
  | _ :: value => some (keyPart content, Text.strip value)
  | [] => none

end KeyFile
end PackageRepos
