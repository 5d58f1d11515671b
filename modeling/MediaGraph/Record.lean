namespace MediaGraph

/-!
# Log records

A record is a level and a message.  Levels are numbers with names; a reader of records asks for
those at or above a level.
-/

/-- The levels at which something is reported. -/
inductive Level where
  | trace
  | debug
  | info
  | warning
  | error
  | critical
  deriving Repr, DecidableEq

/-- The number of a level: a higher one is more serious. -/
def Level.number : Level → Nat
  | .trace => 5
  | .debug => 10
  | .info => 20
  | .warning => 30
  | .error => 40
  | .critical => 50

/-- The name of a level. -/
def Level.name : Level → String
  | .trace => "TRACE"
  | .debug => "DEBUG"
  | .info => "INFO"
  | .warning => "WARNING"
  | .error => "ERROR"
  | .critical => "CRITICAL"

/-- All levels, lowest first. -/
def Level.all : List Level := [.trace, .debug, .info, .warning, .error, .critical]

/-- The level of a name. -/
def Level.ofName? (name : String) : Option Level := Level.all.find? fun l => l.name == name

/-- Something that was reported. -/
structure Record where
  level : Level
  text : String
  deriving Repr, DecidableEq

/-- The records at or above a number. -/
def Record.atLeast (threshold : Nat) (records : List Record) : List Record :=
  records.filter fun r => threshold ≤ r.level.number

end MediaGraph
