import CommandShell.Number.Amount
import CommandShell.Text.Quoted

/-!
# Host data

A host may hand over a value of the wrong kind where a text, a limit, a decider or a handler is
due. Such a value is kept as a datum, because messages show it and name its kind.
-/

namespace CommandShell

open Number Text

/-- A value as a host hands it over. -/
inductive Datum where
  | null
  | bool (b : Bool)
  | int (n : Int)
  | real (x : Binary64)
  | text (s : String)
  | bytes (bs : List UInt8)
  | list (items : List Datum)
  | record (fields : List (String × Datum))
  deriving Inhabited

namespace Datum

/-- The word that names the kind of a datum in messages. -/
def kindName : Datum → String
  | null => "NoneType"
  | bool _ => "bool"
  | int _ => "int"
  | real _ => "float"
  | text _ => "str"
  | bytes _ => "bytes"
  | list _ => "list"
  | record _ => "dict"

/-- The spelling of a truth value. -/
def boolText (b : Bool) : String := if b then "True" else "False"

mutual

/-- The form in which messages show a datum. -/
def shown : Datum → String
  | null => "None"
  | bool b => boolText b
  | int n => integerText n
  | real x => x.shown
  | text s => quoted s
  | bytes bs => quotedBytes bs
  | list items => "[" ++ ", ".intercalate (shownItems items) ++ "]"
  | record fields => "\x7b" ++ ", ".intercalate (shownFields fields) ++ "\x7d"

/-- The shown forms of the items of a list. -/
def shownItems : List Datum → List String
  | [] => []
  | item :: items => item.shown :: shownItems items

/-- The shown forms of the fields of a record. -/
def shownFields : List (String × Datum) → List String
  | [] => []
  | (key, item) :: fields => (quoted key ++ ": " ++ item.shown) :: shownFields fields

end

/-- The list of the quoted texts. -/
def shownTexts (texts : List String) : String :=
  "[" ++ ", ".intercalate (texts.map quoted) ++ "]"

end Datum

/-- A value that a decider hands to a handler. -/
inductive Value where
  | text (s : String)
  | bool (b : Bool)
  | int (n : Int)
  | real (x : Binary64)
  | bytes (bs : List UInt8)
  deriving DecidableEq, Repr

namespace Value

/-- A value among the data of a host. -/
def toDatum : Value → Datum
  | text s => .text s
  | bool b => .bool b
  | int n => .int n
  | real x => .real x
  | bytes bs => .bytes bs

/-- The word that names the kind of a value in messages. -/
def kindName (v : Value) : String := v.toDatum.kindName

/-- The number of a value; truth values count as zero and one. -/
def amount? : Value → Option Amount
  | int n => some (.whole n)
  | bool b => some (.whole (if b then 1 else 0))
  | real x => some (.real x)
  | text _ | bytes _ => none

end Value

end CommandShell
