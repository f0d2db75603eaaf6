import PackageRepos.Failure
import PackageRepos.Logging.Basic

/-!
# The files of handlers

A file is opened in a mode and with an encoding, which are looked at only then. An encoding that is
not known shows after the file has been made.
-/

namespace PackageRepos
namespace Logging

/-- The name of a setting's kind in messages. -/
def settingKind : Value → String
  | .list _ => "ConvertingList"
  | .tuple _ => "ConvertingTuple"
  | .mapping _ => "ConvertingDict"
  | other => other.kindName

namespace LogFile

/-- A parameter of opening a file, as a text. -/
def textSetting (parameter : String) (setting : Value) : Except Failure Text :=
  match setting with
  | .text text =>
    if text.contains '\x00' then .error (.openMode (.malformed parameter)) else .ok text
  | other => .error (.argument (.openArgument parameter false (settingKind other)))

/-- A parameter of opening a file that need not be given. -/
def optionalSetting (parameter : String) (setting : Value) : Except Failure (Option Text) :=
  match setting with
  | .absent => .ok none
  | .text text => (textSetting parameter (.text text)).map some
  | other => .error (.argument (.openArgument parameter true (settingKind other)))

/-- The mode of a file. A file of bytes has no encoding. -/
def openMode (log : LogFile) : Except Failure Files.OpenMode := do
  let letters ← textSetting "mode" log.mode
  let encoding ← optionalSetting "encoding" log.encoding
  let errors ← optionalSetting "errors" log.errors
  let mode ← (Files.OpenMode.ofText letters).mapError .openMode
  if mode.isBinary && encoding.isSome then .error (.openMode (.binaryWith "encoding"))
  else if mode.isBinary && errors.isSome then .error (.openMode (.binaryWith "errors"))
  else .ok mode

/-- The encoding of a file, which is UTF-8 unless another one is asked for. -/
def encodingOf (log : LogFile) : Except Failure Encoding :=
  match log.encoding with
  | .text name =>
    if name = Text.of "locale" then .ok .utf8
    else
      match Encoding.ofName? name with
      | some encoding => .ok encoding
      | none => .error (.encoding (Encoding.unnamed name "codecs.open()"))
  | _ => .ok .utf8

/-- Opens a file. -/
def openIn (log : LogFile) (tree : Files.Tree) : Except Failure Files.Stream × Files.Tree :=
  match log.openMode with
  | .error failure => (.error failure, tree)
  | .ok mode =>
    match tree.openStream log.path mode with
    | .error fault => (.error (.file fault), tree)
    | .ok (stream, opened) =>
      (if mode.isBinary then .ok stream else log.encodingOf.map fun _ => stream, opened)

/-- The file is made anew when it is opened. -/
def isEmptied (log : LogFile) : Bool :=
  match log.mode with
  | .text mode => mode == ['w']
  | _ => false

/-- The bytes that are added to a file for a line, if it can be written. -/
def bytesFor? (log : LogFile) (isStart : Bool) (line : Text) : Option (List UInt8) :=
  match log.openMode, log.encodingOf with
  | .ok mode, .ok encoding =>
    if mode.isWritable && !mode.isBinary then encoding.encode? isStart (line ++ ['\n']) else none
  | _, _ => none

/-- Writes a line to an open file. One that cannot be written is left out. -/
def writeIn (log : LogFile) (stream : Files.Stream) (tree : Files.Tree) (line : Text) :
    Files.Stream × Files.Tree :=
  match log.bytesFor? (stream.position == 0) line with
  | some bytes => stream.write tree bytes
  | none => (stream, tree)

end LogFile
end Logging
end PackageRepos
