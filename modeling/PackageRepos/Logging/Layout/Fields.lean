import PackageRepos.Event
import PackageRepos.Value

/-!
# What a line can show of an event

The fields of an event, by the names under which layouts refer to them. What an event does not
carry (the time, and the place in the running program) is shown by a text or a number of the usual
size, so that lines have their usual length.
-/

namespace PackageRepos
namespace Logging

/-- The fields of an event. -/
abbrev Fields := List (Text × Value)

namespace Fields

/-- A text of the usual size of something that is not known. -/
def stand (size : Nat) : Value := .text (List.replicate size '-')

/-- The time of an event, in seconds. -/
def moment : Binary64 := .ofDecimal false 17000000005 (-1)

/-- The values that the wording of an event was made with. -/
def arguments : Event → List Value
  | .loggingInvalid reason => [.text reason]
  | .debugTarget logger => [.text logger]
  | _ => []

/-- The fields of an event, without its time as text. -/
def ofEvent (event : Event) : Fields :=
  [("name", .text event.logger), ("msg", .text event.message),
    ("args", .tuple (arguments event)), ("levelname", .text (Text.of event.level.name)),
    ("levelno", .int event.level.number), ("pathname", stand 40), ("filename", stand 17),
    ("module", stand 14), ("exc_info", .absent), ("exc_text", .absent), ("stack_info", .absent),
    ("lineno", .int 45), ("funcName", stand 13), ("created", .float moment),
    ("msecs", .float (.ofDecimal false 500 0)),
    ("relativeCreated", .float (.ofDecimal false 1005 (-1))), ("thread", .int 140000000000000),
    ("threadName", .text (Text.of "MainThread")), ("processName", .text (Text.of "MainProcess")),
    ("process", .int 10000), ("message", .text event.message)].map
    fun (name, value) => (Text.of name, value)

end Fields
end Logging
end PackageRepos
