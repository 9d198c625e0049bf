import WaitingList.Log.Filter

namespace WaitingList

inductive LogProfile where
  | development
  | production
  deriving DecidableEq, Repr

namespace LogProfile

/-- The filter that holds unless another one is asked for. -/
def defaultFilter : LogProfile → LogFilter
  | development => .ofDirectives [{ Directive.unrestricted with threshold := .atLeast .debug }]
  | production => .ofDirectives [{ Directive.unrestricted with threshold := .atLeast .info }]

/-- The filter that holds when `wanted` is asked for. A text that is no filter counts as none. -/
def filter (profile : LogProfile) (wanted : Option String) : LogFilter :=
  (wanted.bind LogFilter.ofText?).getD profile.defaultFilter

/-- A level in a column of its own, to the right. -/
def levelColumn (level : Level) : String := "".pushn ' ' (5 - level.name.length) ++ level.name

/-- Fields, each after a blank. -/
def fieldsText (fields : List LogField) : String := String.join (fields.map (" " ++ ·.shown))

/-- An entry as a line. A compact line shows the fields of the span last; a full line shows them
with the span, in braces. -/
def line (profile : LogProfile) (time : String) (entry : LogEntry) : String :=
  let r := entry.record
  let spanFields := (entry.span.map Span.fields).getD []
  match profile with
  | development =>
    let spanText := (entry.span.map fun s => s!"{s.name}: ").getD ""
    s!"{levelColumn r.level} {spanText}{r.message}" ++ fieldsText (r.fields ++ spanFields)
  | production =>
    let inBraces :=
      if spanFields.isEmpty then ""
      else "\x7b" ++ " ".intercalate (spanFields.map LogField.shown) ++ "\x7d"
    let spanText := (entry.span.map fun s => s!"{s.name}{inBraces}: ").getD ""
    s!"{time} {levelColumn r.level} {spanText}{r.target}: {r.message}" ++ fieldsText r.fields

def lines (profile : LogProfile) (filter : LogFilter) (time : String) (entries : List LogEntry) :
    List String :=
  (entries.filterMap filter.retain?).map (profile.line time)

end LogProfile

end WaitingList
