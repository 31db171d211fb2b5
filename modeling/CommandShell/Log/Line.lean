import CommandShell.Event
import CommandShell.Table.Basic

/-!
# Log lines

A log entry is written on a line: the time, the level, the name of the entry, the logger and the
fields in the order of their keys. Long texts are cut first. A text that could be taken for more
than one field is quoted. Some fields stand elsewhere or are not shown.
-/

namespace CommandShell

open Text

namespace Log

/-- The most characters of a text in a log entry. -/
def maxTextLength : Nat := 200

/-- A text that is too long is cut and marked. -/
def cut (text : String) : String :=
  if maxTextLength < text.length then String.ofList (text.toList.take maxTextLength) ++ "..."
  else text

/-- A datum of a field, cut if it is a text. -/
def cutDatum : Datum → Datum
  | .text s => .text (cut s)
  | datum => datum

/-- The fields of an entry with their long texts cut; the name of the entry is left alone. -/
def truncate (fields : List (String × Datum)) : List (String × Datum) :=
  fields.map fun (key, datum) => (key, if key = "event" then datum else cutDatum datum)

/-- The text followed by spaces up to a width. -/
def padded (width : Nat) (text : String) : String :=
  text ++ String.ofList (List.replicate (width - text.length) ' ')

/-- The characters that could end a value on a line. -/
def isDelimiter (c : Char) : Bool := " \t=\r\n\"'".toList.contains c

/-- A datum as it stands on a line. -/
def shownValue : Datum → String
  | .text s => if s.toList.any isDelimiter then quoted s else s
  | datum => datum.shown

/-- The names of the fixed parts of a line; they are no keys of fields. -/
def fixedParts : List String := ["level", "logger", "timestamp"]

/-- The keys of fields that do not stand on the line: those that ask for a trace, and those whose
texts stand below the line. -/
def offLine : List String := ["exc_info", "stack_info", "stack", "exception"]

/-- The key of a field that stands in brackets behind the logger. -/
def secondLogger : String := "logger_name"

/-- A datum as it stands in brackets. -/
def bracketed : Datum → String
  | .text s => "[" ++ s ++ "]"
  | datum => "[" ++ datum.shown ++ "]"

/-- The fields of a line, in the order of their keys; the second logger stands first. -/
def shownFields (fields : List (String × Datum)) : List String :=
  let fields := (truncate fields).filter fun (key, _) => !(fixedParts ++ offLine).contains key
  let (first, others) := fields.partition fun (key, _) => key == secondLogger
  first.map (fun (_, datum) => bracketed datum)
    ++ (others.mergeSort fun a b => Table.textLe a.1 b.1).map fun (key, datum) =>
      key ++ "=" ++ shownValue datum

/-- The name of a logger as it is shown; the logger without a name is the root of all. -/
def loggerName (name : String) : String := if name.isEmpty then "root" else cut name

/-- The line of an entry. -/
def line (time : String) (e : LogEntry) : String :=
  " ".intercalate
    ([time, "[" ++ padded 9 e.level.name ++ "]", padded 30 e.name,
      "[" ++ loggerName e.logger ++ "]"] ++ shownFields e.fields)

/-- The line of an event: that of its log entry, if it reaches the threshold. How a server waits is
told without a layout. -/
def eventLine? (threshold : Nat) (time : String) : Event → Option String
  | .pollerChosen name =>
    if threshold ≤ LogLevel.debug.rank then some ("Using selector: " ++ name) else none
  | event => do
    let e ← event.log?
    if threshold ≤ e.level.rank then return line time e else none

/-- The lines of events, each with a newline. -/
def output (threshold : Nat) (time : String) (events : List Event) : String :=
  String.join ((events.filterMap (eventLine? threshold time)).map (· ++ "\n"))

end Log

end CommandShell
