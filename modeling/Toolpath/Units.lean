import Toolpath.Text.Lowercase

/-!
# Units of a program

A program is written in millimetres or in inches. Each system has its preamble word (`G21`,
`G20`), a short label and a name, and is read from text by a fixed list of spellings in any
letter case.
-/

namespace Toolpath

/-- The measurement system a program is written in. -/
inductive Units where
  | metric
  | imperial
  deriving Repr, BEq, DecidableEq, Inhabited

namespace Units

/-- The preamble word that selects the system. -/
def gcode : Units → String
  | .metric => "G21"
  | .imperial => "G20"

/-- The short label of the length unit. -/
def label : Units → String
  | .metric => "mm"
  | .imperial => "in"

/-- The name of the system. -/
def name : Units → String
  | .metric => "Metric"
  | .imperial => "Imperial"

/-- The spelling of the system in configuration files. -/
def keyword : Units → String
  | .metric => "metric"
  | .imperial => "imperial"

/-- Reads a system from one of its spellings, `metric` or `mm` and `imperial`, `inch` or `in`,
compared with the lower case of the text. Anything else is refused with a message that quotes
the text. -/
def parse (text : String) : Except String Units :=
  let folded := Text.lowercase text
  if folded == "metric" || folded == "mm" then .ok .metric
  else if folded == "imperial" || folded == "inch" || folded == "in" then .ok .imperial
  else .error ("Unknown measurement system: " ++ text)

end Units

end Toolpath
