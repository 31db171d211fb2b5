import CommandShell.Event

/-!
# Log thresholds

The name of a level, in any case, sets which entries are shown: those whose rank reaches the rank
of the level. A name that stands for no level counts as `info`. Two names stand for something that
is not a level at all, the usual layout of a line and the table of layouts; those are refused.
-/

namespace CommandShell

open Text

namespace Log

/-- Capital form of a character, as far as the names of levels need it: besides the ASCII letters,
two letters have an ASCII capital, and two ligatures of S and T have both capitals. -/
def capital (c : Char) : List Char :=
  if c.toNat = 0x131 then ['I']
  else if c.toNat = 0x17f then ['S']
  else if c.toNat = 0xfb05 || c.toNat = 0xfb06 then ['S', 'T']
  else [c.toUpper]

/-- The ranks that names stand for. -/
def ranks : List (String × Nat) :=
  [("NOTSET", 0), ("DEBUG", 10), ("INFO", 20), ("WARNING", 30), ("WARN", 30), ("ERROR", 40),
   ("CRITICAL", 50), ("FATAL", 50)]

/-- The usual layout of a line. -/
def basicLayout : String := "%(levelname)s:%(name)s:%(message)s"

/-- The table of layouts in the form in which messages show it. -/
def layoutTable : String :=
  "\x7b'%': (<class 'logging.PercentStyle'>, '%(levelname)s:%(name)s:%(message)s'), "
    ++ "'\x7b': (<class 'logging.StrFormatStyle'>, "
    ++ "'\x7blevelname\x7d:\x7bname\x7d:\x7bmessage\x7d'), "
    ++ "'$': (<class 'logging.StringTemplateStyle'>, "
    ++ "'$\x7blevelname\x7d:$\x7bname\x7d:$\x7bmessage\x7d')\x7d"

/-- The rank that entries must reach to be shown, by the name of a level. -/
def threshold (name : String) : Except Fault Nat :=
  let name := String.ofList (name.toList.flatMap capital)
  if name = "BASIC_FORMAT" then .error (.refused ("Unknown level: " ++ quoted basicLayout))
  else if name = "_STYLES" then
    .error (.wrongKind ("Level not an integer or a valid string: " ++ layoutTable))
  else .ok ((ranks.lookup name).getD 20)

/-- The level of entries that are shown if no other is asked for. -/
def defaultLevel : String := "INFO"

end Log

end CommandShell
