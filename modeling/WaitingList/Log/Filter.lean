import WaitingList.Log.Directive

namespace WaitingList

/-- What a filter knows: its directives, each scope once, and the widest threshold ever given. -/
structure LogFilter where
  /-- The directives that judge by origin. -/
  statics : List Directive
  /-- The directives that judge by span. -/
  dynamics : List Directive
  /-- Nothing below it is ever kept. -/
  ceiling : Threshold
  deriving DecidableEq, Repr

namespace LogFilter

/-- Adds a directive and drops an earlier one of the same scope. -/
def insert (ds : List Directive) (d : Directive) : List Directive :=
  ds.filter (fun e => !e.sameScope d) ++ [d]

/-- The filter of directives. While a threshold hangs on values, no span can be left out, since
its values are only known once it is made. -/
def ofDirectives (ds : List Directive) : LogFilter where
  statics := (ds.filter Directive.isStatic).foldl insert []
  dynamics := (ds.filter Directive.isDynamic).foldl insert []
  ceiling :=
    if ds.any Directive.asksForValue then .atLeast .trace
    else Threshold.widest (ds.map Directive.threshold)

/-- The filter that a text writes. Nothing between two commas is no directive. -/
def ofText? (text : String) : Option LogFilter :=
  ((text.toList.splitOn ',').filter (!·.isEmpty)).mapM Directive.ofText? |>.map ofDirectives

/-- The most precise of some directives. -/
def mostPrecise? : List Directive → Option Directive
  | [] => none
  | d :: ds => some (ds.foldl (fun best d => if d.isAsPreciseAs best then d else best) d)

def admitsOrigin (f : LogFilter) (r : LogRecord) : Bool :=
  (mostPrecise? (f.statics.filter (·.coversRecord r))).any (·.threshold.admits r.level)

/-- The directives that judge the records in a span. -/
def about (f : LogFilter) (s : Span) : List Directive := f.dynamics.filter (·.coversSpan s)

/-- Whether a span is kept. A span that any directive asks for is kept whatever its level, and
fields play no part in whether its origin is admitted. -/
def keepsSpan (f : LogFilter) (s : Span) : Bool :=
  f.ceiling.admits s.level &&
    (!(f.about s).isEmpty ||
      (mostPrecise? (f.statics.filter (·.coversTarget s.target))).any (·.threshold.admits s.level))

/-- The threshold that holds for the records in a span. -/
def thresholdIn (f : LogFilter) (s : Span) : Threshold :=
  Threshold.widest (((f.about s).filter (·.acceptsValues s)).map Directive.threshold)

/-- What is left of an entry: the record, without its span if that is not kept. -/
def retain? (f : LogFilter) (entry : LogEntry) : Option LogEntry :=
  let span := entry.span.filter f.keepsSpan
  let r := entry.record
  let admitted := f.admitsOrigin r || span.any fun s => (f.thresholdIn s).admits r.level
  if f.ceiling.admits r.level && admitted then some ⟨span, r⟩ else none

end LogFilter

end WaitingList
