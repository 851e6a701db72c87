import BlockBridge.Journal
import BlockBridge.Text.Field

/-!
# The console

A console shows the records of a journal up to a chosen verbosity, one line
each: the time in milliseconds, the severity, where the record comes from and
what it says.
-/

namespace BlockBridge

/-- How much a console shows. -/
inductive Verbosity where
  /-- Nothing. -/
  | off
  /-- Every record at least as grave as `least`. -/
  | upTo (least : Severity)
  deriving DecidableEq

namespace Verbosity

/-- Whether records of a severity are shown. -/
def shows : Verbosity → Severity → Bool
  | off, _ => false
  | upTo least, severity => severity.rank ≤ least.rank

/-- The verbosity's name in upper case. -/
def name : Verbosity → String
  | off => "OFF"
  | upTo least => least.name

/-- Every verbosity, from the quietest up. -/
def all : List Verbosity :=
  [off, upTo .error, upTo .warn, upTo .info, upTo .debug, upTo .trace]

/-- The verbosity with a given name, whatever the case of its ASCII letters. -/
def ofName? (name : String) : Option Verbosity :=
  all.find? fun verbosity => verbosity.name.toList = name.toList.map Char.toUpper

end Verbosity

/-- The severity with a given name, whatever the case of its ASCII letters. -/
def Severity.ofName? (name : String) : Option Severity :=
  match Verbosity.ofName? name with
  | some (.upTo severity) => some severity
  | some .off | none => none

namespace Console

/-- The line of one record. -/
def line (record : Record) : String :=
  "[" ++ String.ofList (Text.padStart 6 ' ' (Nat.toDigits 10 (record.time / 1000))) ++ " " ++
    String.ofList (Text.padEnd 5 record.severity.name.toList) ++ " " ++
    record.target ++ "] " ++ record.text ++ "\n"

/-- What a console of a given verbosity shows of some records. -/
def transcript (verbosity : Verbosity) (records : List Record) : String :=
  String.join ((records.filter fun record => verbosity.shows record.severity).map line)

/-- Why a console could not be installed. -/
inductive Fault where
  /-- A console is in place already. -/
  | alreadyInstalled
  deriving DecidableEq

/-- The sentence shown for a console that could not be installed. -/
def Fault.message : Fault → String
  | alreadyInstalled =>
    "attempted to set a logger after the logging system was already initialized"

/-- Install a console, unless one is in place already.  Gives its verbosity. -/
def install (installed : Option Verbosity) (verbosity : Verbosity) :
    Except Fault Verbosity :=
  match installed with
  | some _ => .error .alreadyInstalled
  | none => .ok verbosity

end Console
end BlockBridge
