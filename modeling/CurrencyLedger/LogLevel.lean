import CurrencyLedger.Failure
import CurrencyLedger.Text.Quoted
import CurrencyLedger.Text.Uppercase

/-!
Levels of the log.

What is logged is set by the name of a level, in any case. A name that is none stands for the level
of ordinary messages. Two sources that say much keep a level of their own.
-/

namespace CurrencyLedger.LogLevel

/-- The levels by name. -/
def levels : List (String × Nat) :=
  [("CRITICAL", 50), ("FATAL", 50), ("ERROR", 40), ("WARNING", 30), ("WARN", 30), ("INFO", 20),
    ("DEBUG", 10), ("NOTSET", 0)]

/-- The level of ordinary messages. -/
def standing : Nat := 20

/-- The level of the sources that say much. -/
def quiet : Nat := 30

/-- The name of the layout of a line, which is no level. -/
def layoutName : String := "BASIC_FORMAT"

/-- The layout of a line. -/
def layout : String := "%(levelname)s:%(name)s:%(message)s"

/-- The name of the table of layouts, which is no level either. -/
def layoutsName : String := "_STYLES"

/-- The level that a setting names. -/
def ofSetting (s : String) : Except Failure Nat :=
  let name := Text.upper (if s = "" then "INFO" else s)
  if name = layoutName then .error (.badValue ("Unknown level: " ++ Text.quoted layout))
  else if name = layoutsName then .error .badKind
  else .ok ((levels.lookup name).getD standing)

end CurrencyLedger.LogLevel
