import Reckoner.Entries
import Reckoner.Text.Blank

/-!
# Names with values

Arguments of the form `name=value`.  The first equals sign divides; blanks around name and value do
not count.  An argument without an equals sign is passed over, and the last value of a name counts.
-/

namespace Reckoner.Pairs

open Text

/-- The name and the value in an argument. -/
def split? (argument : String) : Option (String × String) :=
  let cs := argument.toList
  let name := cs.takeWhile (· != '=')
  match cs.drop name.length with
  | [] => none
  | _ :: value =>
    some (String.ofList (dropAround isBlank name), String.ofList (dropAround isBlank value))

/-- The values by their names. -/
def ofArguments (arguments : List String) : Entries String :=
  Entries.ofList (arguments.filterMap split?)

/-- A line on each argument, telling whether it has the form. -/
def report (arguments : List String) : String :=
  String.join (arguments.mapIdx fun i argument =>
    let verdict :=
      if (split? argument).isSome then "done!" else "SKIPPING, name=value format not found"
    s!"[{i}]th arg = [{argument}]... {verdict}\n")

end Reckoner.Pairs
