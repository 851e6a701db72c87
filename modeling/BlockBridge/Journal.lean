/-!
# Clock and journal

Time is counted in microseconds and passes only when someone sleeps.  A
`Timeline` is the present moment together with every record made so far,
oldest first.  What a record shows, and whether it is shown at all, is decided
later, when a console reads the journal.
-/

namespace BlockBridge

/-- How grave a record is, gravest first. -/
inductive Severity where
  | error
  | warn
  | info
  | debug
  | trace
  deriving DecidableEq

namespace Severity

/-- Place in the order of gravity; the gravest comes first. -/
def rank : Severity → Nat
  | error => 1
  | warn => 2
  | info => 3
  | debug => 4
  | trace => 5

/-- The severity's name in upper case. -/
def name : Severity → String
  | error => "ERROR"
  | warn => "WARN"
  | info => "INFO"
  | debug => "DEBUG"
  | trace => "TRACE"

end Severity

/-- What a part of the bridge has to say, before it is dated. -/
structure Note where
  severity : Severity
  text : String
  deriving DecidableEq

namespace Note

/-- A note about something that went wrong. -/
def warn (text : String) : Note := ⟨.warn, text⟩

/-- A note about the course of a run. -/
def info (text : String) : Note := ⟨.info, text⟩

/-- A note about a single operation. -/
def debug (text : String) : Note := ⟨.debug, text⟩

/-- A note that shows data. -/
def trace (text : String) : Note := ⟨.trace, text⟩

end Note

/-- A dated note and the part of the bridge that made it. -/
structure Record extends Note where
  time : Nat
  target : String
  deriving DecidableEq

/-- The present moment, in microseconds, and what has been recorded up to it. -/
structure Timeline where
  now : Nat := 0
  records : List Record := []
  deriving DecidableEq, Inhabited

namespace Timeline

/-- Let `duration` microseconds pass. -/
def sleep (duration : Nat) (timeline : Timeline) : Timeline :=
  { timeline with now := timeline.now + duration }

/-- Record notes of one part of the bridge, all at the present moment. -/
def note (target : String) (notes : List Note) (timeline : Timeline) : Timeline :=
  { timeline with
    records := timeline.records ++ notes.map fun n => ⟨n, timeline.now, target⟩ }

@[simp]
theorem now_sleep (duration : Nat) (timeline : Timeline) :
    (timeline.sleep duration).now = timeline.now + duration := rfl

@[simp]
theorem now_note (target : String) (notes : List Note) (timeline : Timeline) :
    (timeline.note target notes).now = timeline.now := rfl

end Timeline
end BlockBridge
