import PackageRepos.Logging.Layout.Fields

/-!
# The time in a line

A time is written by a pattern in which percent signs stand before the letters of its parts. Events
do not carry their time, so that every part is that of one moment.
-/

namespace PackageRepos
namespace Logging
namespace Time

/-- The parts of the moment that stands for all times. -/
def parts : List (Char × String) :=
  [('a', "Tue"), ('A', "Tuesday"), ('b', "Nov"), ('B', "November"),
    ('c', "Tue Nov 14 22:13:20 2023"), ('C', "20"), ('d', "14"), ('D', "11/14/23"), ('e', "14"),
    ('F', "2023-11-14"), ('g', "23"), ('G', "2023"), ('h', "Nov"), ('H', "22"), ('I', "10"),
    ('j', "318"), ('k', "22"), ('l', "10"), ('m', "11"), ('M', "13"), ('n', "\n"), ('p', "PM"),
    ('P', "pm"), ('r', "10:13:20 PM"), ('R', "22:13"), ('s', "1700000000"), ('S', "20"),
    ('t', "\t"), ('T', "22:13:20"), ('u', "2"), ('U', "46"), ('V', "46"), ('w', "2"), ('W', "46"),
    ('x', "11/14/23"), ('X', "22:13:20"), ('y', "23"), ('Y', "2023"), ('z', "+0000"), ('Z', "UTC"),
    ('%', "%")]

/-- A time by a pattern. A letter that names no part is left as it is. -/
def write : Text → Text
  | '%' :: letter :: rest =>
    match parts.lookup letter with
    | some part => Text.of part ++ write rest
    | none => '%' :: letter :: write rest
  | char :: rest => char :: write rest
  | [] => []

/-- The time with a thousandth of a second, which is written unless a pattern is given. -/
def precise : Text := write (Text.of "%Y-%m-%d %H:%M:%S,500")

/-- The time by the pattern that a setting gives. A setting that is no text gives none. -/
def ofSetting? (setting : Value) : Option Text :=
  if setting.isTrue then
    match setting with
    | .text pattern => some (write pattern)
    | _ => none
  else some precise

end Time
end Logging
end PackageRepos
