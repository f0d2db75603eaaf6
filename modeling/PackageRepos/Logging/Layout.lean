import PackageRepos.Logging.Layout.Brace
import PackageRepos.Logging.Layout.Dollar
import PackageRepos.Logging.Layout.Percent
import PackageRepos.Logging.Layout.Time
import PackageRepos.Settings.Packaged

/-!
# Layouts of log lines

A layout is a text with fields in one of three styles. A layout that has not been checked may be
any value; then no line can be made.
-/

namespace PackageRepos
namespace Logging

/-- The ways in which a layout marks its fields. -/
inductive LayoutStyle where
  | percent
  | brace
  | dollar
deriving DecidableEq, Repr

namespace LayoutStyle

/-- The style that a setting names by its sign. -/
def ofValue? : Value → Option LayoutStyle
  | .text ['%'] => some percent
  | .text ['\x7b'] => some brace
  | .text ['$'] => some dollar
  | _ => none

/-- The layout of lines that show the message alone. -/
def messageOnly : LayoutStyle → Text
  | percent => Text.of "%(message)s"
  | brace => Text.of "\x7bmessage\x7d"
  | dollar => Text.of "$\x7bmessage\x7d"

/-- The text is a layout of the style. -/
def accepts : LayoutStyle → Text → Bool
  | percent => Percent.isValid
  | brace => Brace.isValid
  | dollar => Dollar.isValid

/-- The beginnings of the field that shows the time. -/
def timeMarks : LayoutStyle → List String
  | percent => ["%(asctime)"]
  | brace => ["\x7basctime"]
  | dollar => ["$asctime", "$\x7basctime\x7d"]

/-- The line that a layout of the style makes of fields. -/
def render : LayoutStyle → Fields → Text → Option Text
  | percent => Percent.render
  | brace => Brace.render
  | dollar => Dollar.render

end LayoutStyle

/-- How a handler lays out its lines. -/
structure Layout where
  style : LayoutStyle := .percent
  format : Value := .text LayoutStyle.percent.messageOnly
  /-- The pattern of the time, if one is given. -/
  timePattern : Value := .absent

namespace Layout

/-- The packaged layout. -/
def packaged : Layout where
  format := .text (Text.of Settings.lineLayout)

/-- The layout has a field in its style. -/
def isValid (layout : Layout) : Bool :=
  match layout.format with
  | .text format => layout.style.accepts format
  | _ => false

/-- The layout shows the time. -/
def showsTime (layout : Layout) (format : Text) : Bool :=
  layout.style.timeMarks.any fun mark => Text.occursIn (Text.of mark) format

/-- The line of an event, if it can be made. -/
def line? (layout : Layout) (event : Event) : Option Text :=
  match layout.format with
  | .text format =>
    let fields := Fields.ofEvent event
    if layout.showsTime format then
      (Time.ofSetting? layout.timePattern).bind fun time =>
        layout.style.render (fields ++ [(Text.of "asctime", .text time)]) format
    else layout.style.render fields format
  | _ => none

/-- The layout that the settings of a formatter give. A format that does not count as true is not
given. -/
def ofSettings? (format timePattern style : Option Value) (isChecked : Bool) : Option Layout := do
  let style ← LayoutStyle.ofValue? (style.getD (.text ['%']))
  let format := (format.filter Value.isTrue).getD (.text style.messageOnly)
  let layout : Layout := { style, format, timePattern := timePattern.getD .absent }
  if !isChecked || layout.isValid then some layout else none

end Layout
end Logging
end PackageRepos
