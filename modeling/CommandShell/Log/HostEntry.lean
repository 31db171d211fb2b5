import CommandShell.Log.Line

/-!
# Log entries of hosts

A host may log entries with fields of any names, some of which mean something: a stack and the
text of an exception stand below the line, a record or values for the name of the entry must be
what they are said to be, and the names under which the entry itself is handed over are taken.
Writing an entry fails if such a field is not of its kind.

The loggers of the program pass on only what reaches the threshold; other loggers pass on
everything, so an entry that fails does so even if it would not be shown.
-/

namespace CommandShell

namespace Log

/-- The datum of a field; null if it is not there. -/
def datumOf (fields : List (String × Datum)) (key : String) : Datum :=
  (fields.lookup key).getD .null

/-! ### Fields that can fail -/

/-- The fault of a field whose name is taken. -/
def taken (operation key : String) : Fault :=
  .wrongKind ("BoundLogger." ++ operation ++ "() got multiple values for argument '" ++ key ++ "'")

/-- Refuses fields under the names by which the entry itself is handed over. -/
def checkNames (e : LogEntry) : Except Fault Unit :=
  match e.fields.find? fun (key, _) => key == "self" || key == "event" with
  | some (key, _) => .error (taken e.level.name key)
  | none =>
    if e.fields.any fun (key, _) => key == "method_name" then
      .error (taken "_proxy_to_logger" "method_name")
    else .ok ()

/-- Refuses a record that is none. -/
def checkRecord (fields : List (String × Datum)) : Except Fault Unit :=
  match datumOf fields "_record" with
  | .null => .ok ()
  | datum => .error (.lacking datum.kindName "name")

/-- Whether a datum is neither null nor false nor zero nor empty. -/
def isGiven : Datum → Bool
  | .null => false
  | .bool b => b
  | .int n => n != 0
  | .real x => !x.isZero
  | .text s => !s.isEmpty
  | .bytes bs => !bs.isEmpty
  | .list items => !items.isEmpty
  | .record fields => !fields.isEmpty

/-- Whether values can be put into the places of a name that has no places. -/
def checkValues (datum : Datum) : Except Fault Unit :=
  if !isGiven datum then .ok ()
  else match datum with
    | .list _ => .ok ()
    | .record [_] => .error (.missing "0")
    | .record _ => .ok ()
    | .text _ | .bytes _ =>
      .error (.wrongKind "not all arguments converted during string formatting")
    | datum => .error (.wrongKind ("object of type '" ++ datum.kindName ++ "' has no len()"))

/-- The key of the values for the places of the name. -/
def valuesKey : String := "positional_args"

/-- Takes the values for the name out of the fields. -/
def takeValues (fields : List (String × Datum)) : Except Fault (List (String × Datum)) :=
  match datumOf fields valuesKey with
  | .null => .ok fields
  | datum => do
    checkValues datum
    return fields.filter fun (key, _) => key != valuesKey

/-- The text of a field that stands below the line. -/
def below? (fields : List (String × Datum)) (key : String) : Except Fault (Option String) :=
  match datumOf fields key with
  | .null => .ok none
  | .text s => .ok (some (cut s))
  | datum => .error (.wrongKind
      ("can only concatenate str (not \"" ++ datum.kindName ++ "\") to str"))

/-- What divides a stack from the text of an exception. -/
def divider : String := "\n\n" ++ String.ofList (List.replicate 79 '=') ++ "\n"

/-- What stands below the line: the stack, then the text of the exception. -/
def below (fields : List (String × Datum)) : Except Fault String := do
  let stack ← below? fields "stack"
  let trace ← below? fields "exception"
  return match stack, trace with
    | none, none => ""
    | some s, none => "\n" ++ s
    | none, some t => "\n" ++ t
    | some s, some t => "\n" ++ s ++ divider ++ "\n" ++ t

/-! ### Output -/

/-- The text of an entry of a host: its line and what stands below it. -/
def hostText (time : String) (e : LogEntry) : Except Fault String := do
  checkRecord e.fields
  let fields ← takeValues e.fields
  let rest ← below fields
  return line time { e with fields } ++ rest

/-- Whether a logger is one of the program. -/
def isOwnLogger (name : String) : Bool :=
  name == "nestshell" || "nestshell.".toList.isPrefixOf name.toList

/-- The text of an entry of a host, if it is shown. -/
def hostText? (threshold : Nat) (time : String) (e : LogEntry) : Except Fault (Option String) := do
  checkNames e
  if isOwnLogger e.logger && e.level.rank < threshold then return none
  let text ← hostText time e
  return if threshold ≤ e.level.rank then some text else none

/-- The texts of entries of a host, each with a newline. -/
def hostOutput (threshold : Nat) (time : String) (entries : List LogEntry) :
    Except Fault String := do
  let texts ← entries.mapM (hostText? threshold time)
  return String.join ((texts.filterMap id).map (· ++ "\n"))

end Log

end CommandShell
