import WaitingList.Log.Event
import WaitingList.Text.Quoted

namespace WaitingList

inductive FieldValue where
  | text (s : String)
  | number (n : Int)
  deriving DecidableEq, Repr

namespace FieldValue

def shown : FieldValue → String
  | text s => Quoted.text s
  | number n => toString n

end FieldValue

/-- A named value that a record or a span carries. -/
structure LogField where
  name : String
  value : FieldValue
  deriving DecidableEq, Repr

namespace LogField

def shown (f : LogField) : String := s!"{f.name}={f.value.shown}"

end LogField

/-- A stretch of work that records are made in. -/
structure Span where
  name : String
  target : String
  level : Level
  fields : List LogField
  deriving DecidableEq, Repr

namespace Span

def value? (s : Span) (name : String) : Option FieldValue :=
  (s.fields.find? (·.name = name)).map LogField.value

end Span

/-- A line of the log before it is laid out. -/
structure LogRecord where
  target : String
  level : Level
  message : String
  fields : List LogField
  deriving DecidableEq, Repr

namespace LogRecord

/-- The names of all that a record carries. The message is a field too. -/
def fieldNames (r : LogRecord) : List String := "message" :: r.fields.map LogField.name

end LogRecord

def Event.record (event : Event) : LogRecord where
  target := event.source.target
  level := event.level
  message := event.text
  fields := []

/-- A record and the span that it is made in, if any. -/
structure LogEntry where
  span : Option Span
  record : LogRecord
  deriving DecidableEq, Repr

end WaitingList
