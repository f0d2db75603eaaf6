import PackageRepos.Failure
import PackageRepos.Logging.LogFile

/-!
# Logging settings

Settings for logging list formatters, filters, handlers and loggers, each with settings of its own.
A list of parts that is not a mapping has names too, but the settings of a part are then found
under a number only.

Settings are used up: a setting that is taken is gone, and what was made of a part stands in its
place, so that references lead there no longer.
-/

namespace PackageRepos
namespace Logging

/-- The settings for logging. -/
abbrev Sheet := OrderedMap Text Value

namespace Sheet

/-- The sheet as a setting. -/
def whole (sheet : Sheet) : Setting := { value := .mapping sheet.toList, place := [] }

/-- The sheet with a setting in its place. -/
def put (sheet : Sheet) (setting : Setting) : Sheet :=
  match Value.put setting.value setting.place sheet.whole.value with
  | .mapping entries => .ofList entries
  | _ => sheet

/-- What stands at a place. -/
def at? (sheet : Sheet) (place : Place) : Option Setting :=
  (sheet.whole.value.at? place).map fun value => { value, place }

/-- What a setting stands for. -/
def settle (sheet : Sheet) (setting : Setting) : Except Failure Setting :=
  (Reference.settle sheet setting).mapError fun fault => .logging (.reference fault)

/-- A setting of the sheet itself. -/
def field (sheet : Sheet) (name : String) : Except Failure (Option Setting) :=
  match sheet.at? [.name (Text.of name)] with
  | none => .ok none
  | some setting => (sheet.settle setting).map some

/-- Takes a setting out of the sheet. -/
def takeField (sheet : Sheet) (name : String) : Except Failure (Option Value × Sheet) :=
  let rest : Sheet := sheet.erase (Text.of name)
  match sheet.at? [.name (Text.of name)] with
  | none => .ok (none, rest)
  | some setting => (rest.settle setting).map fun settled => (some settled.value, rest)

/-- A setting of a part; the outer result is absent where its reference cannot be followed. -/
def setting? (sheet : Sheet) (part : Setting) (name : String) : Option (Option Value) :=
  match part.value.part? (.name (Text.of name)) with
  | none => some none
  | some value =>
    let setting := { value, place := part.place ++ [.name (Text.of name)] }
    ((sheet.settle setting).map fun settled => some settled.value).toOption

/-- The part without a setting. -/
def without (part : Setting) (name : String) : Setting :=
  match part.value with
  | .mapping entries =>
    { part with value := .mapping (entries.filter fun entry => Text.of name != entry.1) }
  | _ => part

/-- Takes a setting out of a part. The result is the setting, with the sheet and the part that are
left; it is absent where the reference of the setting cannot be followed then. -/
def take? (sheet : Sheet) (part : Setting) (name : String) :
    Option (Option Value × Sheet × Setting) :=
  let left := without part name
  let rest := sheet.put left
  (rest.setting? part name).map fun setting => (setting, rest, left)

/-- The names of the parts that a setting lists. -/
def namesOf (parts : Option Value) : Except Failure (List Value) :=
  match parts with
  | none => .ok []
  | some (.mapping entries) => .ok (entries.map fun entry => .text entry.1)
  | some (.list items) => .ok items
  | some (.text text) => .ok (text.map fun char => .text [char])
  | some (.thing "TextIOWrapper") => .error (.argument .notReadable)
  | some other => .error (.argument (.notIterable other.kindName))

/-- A setting that lists parts, and their names. -/
def fieldOfParts (sheet : Sheet) (name : String) :
    Except Failure (Option Setting × List Value) := do
  let parts ← sheet.field name
  let names ← namesOf (parts.map (·.value))
  .ok (parts, names)

/-- The index that a value counts to in a list; negative ones count from the end. -/
def indexIn? (length : Nat) (index : Value) : Option Nat :=
  match index with
  | .int index =>
    if 0 ≤ index then some index.toNat
    else if -index ≤ length then some (index + length).toNat
    else none
  | .bool flag => some (if flag then 1 else 0)
  | _ => none

/-- The key under which the part with a name stands. -/
def keyOf? (parts name : Value) : Option Key :=
  match parts, name with
  | .mapping _, .text name => some (.name name)
  | .list items, index => (indexIn? items.length index).map .number
  | _, _ => none

/-- The place of the part with a name. -/
def placeOf? (parts : Option Setting) (name : Value) : Option Place := do
  let parts ← parts
  let key ← keyOf? parts.value name
  some (parts.place ++ [key])

/-- The settings of the part at a place. -/
def part? (sheet : Sheet) (place : Place) : Option Setting :=
  (sheet.at? place).bind fun setting => (sheet.settle setting).toOption

/-- A part that is made by a maker of its own gives the maker under this name. -/
def makerKey : String := "()"

/-- The part has a maker of its own. -/
def hasMaker (part : Setting) : Bool := (part.value.part? (.name (Text.of makerKey))).isSome

/-- Takes the name of the maker out of a part. Settings may mark it as the name of something
known. -/
def takeMaker? (sheet : Sheet) (part : Setting) : Option (Text × Sheet × Setting) :=
  match part.value.part? (.name (Text.of makerKey)) with
  | some (.text text) =>
    match Reference.target? text with
    | some (.known name) =>
      let left := without part makerKey
      some (name, sheet.put left, left)
    | _ =>
      match sheet.take? part makerKey with
      | some (some (.text name), rest) => some (name, rest)
      | _ => none
  | _ => none

/-- The name of what settings hold for attributes to be set on what was made. -/
def attributesKey : String := "."

/-- Only settings from the list are given. -/
def givesOnly (entries : List (Text × Value)) (known : List String) : Bool :=
  entries.all fun entry => known.any fun name => Text.of name == entry.1

/-- The settings of a part that are handed to a maker: all but the attributes, with references
followed. -/
def arguments? (sheet : Sheet) (part : Setting) : Option (List (Text × Value)) :=
  match (without part attributesKey).value with
  | .mapping entries =>
    entries.mapM fun (key, value) =>
      let setting := { value, place := part.place ++ [.name key] }
      ((sheet.settle setting).map fun settled => (key, settled.value)).toOption
  | _ => none

/-- Attributes to be set on what was made: none, or a mapping. The outer result is absent where a
reference to them cannot be followed, the inner one where they are something else. -/
def attributes? (sheet : Sheet) (part : Setting) : Option (Option (List (Text × Value))) :=
  (sheet.take? part attributesKey).map fun
    | (some (.mapping attributes), _) => some attributes
    | (some other, _) => if other.isTrue then none else some []
    | (none, _) => some []

end Sheet

/-- The layout that a maker of layouts is asked for, and the sheet that is left. -/
def madeLayout? (sheet : Sheet) (part : Setting) : Option (Layout × Sheet) := do
  let (name, sheet, part) ← sheet.takeMaker? part
  let arguments ← sheet.arguments? part
  let _ ← (sheet.attributes? part).join
  let argument := fun (name : String) => arguments.lookup (Text.of name)
  let known := ["fmt", "format", "datefmt", "style", "validate", "defaults"]
  let (_, sheet, part) ← sheet.take? part "format"
  let (_, sheet, _) ← sheet.take? part Sheet.attributesKey
  if name == Text.of "logging.Formatter" && Sheet.givesOnly arguments known then
    (Layout.ofSettings? ((argument "format").or (argument "fmt")) (argument "datefmt")
      (argument "style") (((argument "validate").map Value.isTrue).getD true)).map fun layout =>
        (layout, sheet)
  else none

/-- The layout that the settings of a formatter give, and the sheet that is left. -/
def layoutOf? (sheet : Sheet) (part : Setting) : Option (Layout × Sheet) :=
  match part.value with
  | .mapping _ =>
    if Sheet.hasMaker part then madeLayout? sheet part
    else do
      let format ← sheet.setting? part "format"
      let timePattern ← sheet.setting? part "datefmt"
      let style ← sheet.setting? part "style"
      let className ← sheet.setting? part "class"
      let validate ← sheet.setting? part "validate"
      let isUsual := (className.filter Value.isTrue).all fun
        | .text name => name == Text.of "logging.Formatter"
        | _ => false
      if isUsual then
        (Layout.ofSettings? format timePattern style ((validate.map Value.isTrue).getD true)).map
          fun layout => (layout, sheet)
      else none
  | _ => none

/-- The filter for a name. What has no length is no name. -/
def filterFor? : Value → Option Filter
  | .text name => some (.below name)
  | .list items => some (if items.isEmpty then .below [] else .ill (settingKind (.list items)))
  | .mapping entries =>
    some (if entries.isEmpty then .below [] else .ill (settingKind (.mapping entries)))
  | _ => none

/-- The filter that a maker of filters is asked for, and the sheet that is left. -/
def madeFilter? (sheet : Sheet) (part : Setting) : Option (Filter × Sheet) := do
  let (className, sheet, part) ← sheet.takeMaker? part
  let arguments ← sheet.arguments? part
  let _ ← (sheet.attributes? part).join
  let (_, sheet, _) ← sheet.take? part Sheet.attributesKey
  if className == Text.of "logging.Filter" && Sheet.givesOnly arguments ["name"] then
    (filterFor? ((arguments.lookup (Text.of "name")).getD (.text []))).map fun filter =>
      (filter, sheet)
  else none

/-- The filter that settings give, and the sheet that is left. -/
def filterOf? (sheet : Sheet) (part : Setting) : Option (Filter × Sheet) :=
  match part.value with
  | .mapping _ =>
    if Sheet.hasMaker part then madeFilter? sheet part
    else do
      let name ← sheet.setting? part "name"
      let filter ← filterFor? (name.getD (.text []))
      some (filter, sheet)
  | _ => none

end Logging
end PackageRepos
