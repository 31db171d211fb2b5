/-!
# Excerpts

The part of a text around a position, for messages. Three dots stand on a side where text was
left out.
-/

namespace CommandShell.Text

/-- How many characters an excerpt shows on each side. -/
def excerptReach : Int := 20

/-- The characters from `start` to before `stop`. A stop below zero counts from the end. -/
def slice (cs : List Char) (start : Nat) (stop : Int) : List Char :=
  let stop := if stop < 0 then cs.length + stop else stop
  (cs.drop start).take (stop - start).toNat

/-- The characters within `reach` of `position`. -/
def excerptChars (cs : List Char) (position reach : Int) : List Char :=
  let start := (position - reach).toNat
  let stop := min (cs.length : Int) (position + reach)
  let before := if 0 < start then ['.', '.', '.'] else []
  let after := if stop < cs.length then ['.', '.', '.'] else []
  before ++ slice cs start stop ++ after

/-- The excerpt of a text around a position. -/
def excerpt (text : String) (position : Int) (reach : Int := excerptReach) : String :=
  String.ofList (excerptChars text.toList position reach)

/-- The beginning of a text that is too long to be shown. -/
def opening (text : String) (count : Nat) : String :=
  String.ofList (text.toList.take count) ++ "..."

end CommandShell.Text
