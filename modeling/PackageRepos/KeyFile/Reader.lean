import PackageRepos.KeyFile.Basic
import PackageRepos.KeyFile.Line

/-!
# Reading key files

Lines are read one after the other. A line that is indented more deeply than the entry before it
continues that entry's value. A line that is neither header nor entry is noted, and reading goes on
so that all such lines are reported together; an entry before the first header ends the reading at
once.
-/

namespace PackageRepos
namespace KeyFile

/-- Why a text is not a key file. Lines are numbered from one and keep the newline that ends
them. -/
inductive SyntaxFault where
  | outsideGroup (number : Nat) (line : Text)
  | unreadable (lines : List (Nat × Text))
deriving DecidableEq, Repr

/-- A number padded with a space to two characters. -/
def paddedNumber (number : Nat) : Text :=
  if number < 10 then ' ' :: Nat.toDigits 10 number else Nat.toDigits 10 number

/-- The wording of a fault found in the named source. -/
def SyntaxFault.message (source : Text) : SyntaxFault → Text
  | outsideGroup number line =>
    Text.of "File contains no section headers.\nfile: " ++ source.quoted ++ Text.of ", line: " ++
      Nat.toDigits 10 number ++ '\n' :: line.quoted
  | unreadable lines =>
    Text.of "Source contains parsing errors: " ++ source.quoted ++
      lines.flatMap fun (number, line) =>
        Text.of "\n\t[line " ++ paddedNumber number ++ Text.of "]: " ++ line.quoted

/-- What has been read so far. -/
structure Reading where
  /-- The groups, with the lines of every value. -/
  groups : OrderedMap Text (OrderedMap Text (List Text)) := ∅
  /-- The group that entries belong to. -/
  group : Option Text := none
  /-- The key that a deeper line continues. -/
  key : Option Text := none
  /-- The indentation that a continuation has to exceed; absent when nothing can be continued. -/
  level : Option Nat := some 0
  /-- The lines that could not be read. -/
  faults : List (Nat × Text) := []
deriving Repr

namespace Reading

/-- The entries read for a group. -/
def entriesOf (reading : Reading) (group : Text) : OrderedMap Text (List Text) :=
  (reading.groups.get? group).getD ∅

/-- Adds a line to the value of a key. -/
def continueValue (reading : Reading) (group key line : Text) : Reading :=
  let entries := (reading.entriesOf group).alter key fun lines => lines.getD [] ++ [line]
  { reading with groups := reading.groups.insert group entries }

/-- Starts a group, or takes up one that has been read before. -/
def openGroup (reading : Reading) (group : Text) : Reading :=
  { reading with
    groups := reading.groups.insert group (reading.entriesOf group)
    group := some group
    key := none }

/-- Starts the value of a key; a key that is set again keeps its place. -/
def startValue (reading : Reading) (group key value : Text) : Reading :=
  let entries := (reading.entriesOf group).insert key [value]
  { reading with groups := reading.groups.insert group entries, key := some key }

/-- Notes a line that could not be read. -/
def note (reading : Reading) (number : Nat) (line : Text) : Reading :=
  { reading with faults := reading.faults ++ [(number, line)] }

/-- The group and key whose value a line of the given indentation continues. -/
def continued? (reading : Reading) (indentation : Nat) : Option (Text × Text) :=
  match reading.group, reading.key, reading.level with
  | some group, some key, some level => if level < indentation then some (group, key) else none
  | _, _, _ => none

/-- Reads a line that continues nothing. -/
def start (reading : Reading) (number : Nat) (line content : Text) : Except SyntaxFault Reading :=
  match headerName? content, reading.group with
  | some group, _ => .ok (reading.openGroup group)
  | none, none => .error (.outsideGroup number line)
  | none, some group =>
    match entryOf? content with
    | some ([], _) => .ok { reading.note number line with key := none }
    | some (key, value) => .ok (reading.startValue group key value)
    | none => .ok (reading.note number line)

/-- Reads one line. -/
def step (reading : Reading) (number : Nat) (line : Text) : Except SyntaxFault Reading :=
  let content := Text.strip line
  if content.isEmpty || isComment content then .ok { reading with level := none }
  else
    match reading.continued? (Text.indentation line) with
    | some (group, key) => .ok (reading.continueValue group key content)
    | none => { reading with level := some (Text.indentation line) }.start number line content

/-- Reads lines, the first of which has the given number. -/
def steps (reading : Reading) (number : Nat) : List Text → Except SyntaxFault Reading
  | [] => .ok reading
  | line :: rest =>
    match reading.step number line with
    | .ok next => next.steps (number + 1) rest
    | .error fault => .error fault

/-- A value from its lines. -/
def joinValue (lines : List Text) : Text := Text.stripRight (Text.unlines lines)

/-- The groups read, provided that every line could be read. -/
def finish (reading : Reading) : Except SyntaxFault (OrderedMap Text (OrderedMap Text Text)) :=
  if reading.faults.isEmpty then .ok (reading.groups.mapValues (·.mapValues joinValue))
  else .error (.unreadable reading.faults)

end Reading

/-- The groups and entries that a text declares. -/
def readGroups (text : Text) : Except SyntaxFault (OrderedMap Text (OrderedMap Text Text)) :=
  match Reading.steps {} 1 (Text.terminatedLines text) with
  | .ok reading => reading.finish
  | .error fault => .error fault

end KeyFile
end PackageRepos
