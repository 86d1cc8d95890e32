/-!
# Log levels

The levels of the log, each with a number: the higher, the graver. Some levels have two names.
-/

namespace Candlestick.LogLevel

def named : List (String × Nat) :=
  [("NOTSET", 0), ("DEBUG", 10), ("INFO", 20), ("WARN", 30), ("WARNING", 30), ("ERROR", 40),
    ("CRITICAL", 50), ("FATAL", 50)]

/-- From this number down events of ordinary importance are reported. -/
def info : Nat := 20

def number? (name : String) : Option Nat :=
  named.lookup name

end Candlestick.LogLevel
