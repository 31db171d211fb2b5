import CommandShell.Tree.Basic

/-!
# Building call trees

The tokens of a statement become a call tree. The first word of a scope is the name of its call,
every later word is a literal argument, a parenthesis opens a scope whose call is an argument of
the enclosing one, and the four tokens of a literal region are one literal argument.

The builder keeps the calls that are open, innermost first; the balance of parentheses is checked
beforehand, so no closing parenthesis ever meets the outermost call.
-/

namespace CommandShell

/-- The deepest nesting that is accepted when no limit is given. -/
def defaultMaxDepth : Int := 10

/-- A call that is being built; its arguments are in reverse order. -/
structure Frame where
  name : String
  args : List Arg := []

namespace Frame

/-- The frame with one more argument. -/
def push (f : Frame) (arg : Arg) : Frame := { f with args := arg :: f.args }

/-- The finished call. -/
def close (f : Frame) : Call := ⟨f.name, f.args.reverse⟩

end Frame

/-- Where the builder stands in the innermost scope. -/
inductive Scope where
  /-- The name of the call is due; the calls around the scope are given. -/
  | fresh (outer : List Frame)
  /-- The call has its name. -/
  | named (frame : Frame) (outer : List Frame)

/-- A defect, with the position of the token it was found at. -/
abbrev Located := Defect × Option Int

/-- Builds the tree from balanced tokens.

The number of open calls equals the nesting depth of the next scope, so it is compared with the
limit when a scope opens. -/
def buildFrom (maxDepth : Int) : Scope → List Token → Except Located Call
  | .fresh _, [] => .error (.nothing, some 0)
  | .named frame _, [] => .ok frame.close
  | .fresh _, .opening p :: _ => .error (.openForName, some p)
  | .fresh _, .closing p :: _ => .error (.emptyScope, some p)
  | .fresh outer, .word text _ :: tokens => buildFrom maxDepth (.named ⟨text, []⟩ outer) tokens
  | .named frame outer, .opening _ :: .marker _ :: .word text _ :: .closing _ :: tokens =>
    buildFrom maxDepth (.named (frame.push (.literal text)) outer) tokens
  | .named _ _, .opening p :: .marker _ :: _ => .error (.malformedLiteral, some p)
  | .named frame outer, .opening p :: tokens =>
    if maxDepth < outer.length + 1 then
      .error (.tooDeep (outer.length + 1) maxDepth, some p)
    else buildFrom maxDepth (.fresh (frame :: outer)) tokens
  | .named frame (parent :: outer), .closing _ :: tokens =>
    buildFrom maxDepth (.named (parent.push frame.close.toArg) outer) tokens
  | .named _ [], .closing p :: _ => .error (.unmatchedClose, some p)
  | .named frame outer, .word text _ :: tokens =>
    buildFrom maxDepth (.named (frame.push (.literal text)) outer) tokens
  | _, .marker p :: _ => .error (.strayMarker, some p)
  | _, .foreign shown :: _ => .error (.unknownToken shown, none)

/-- The excerpt that goes with a located defect. Where nothing was found at all there is none. -/
def located (text : Option String) : Located → ParseError
  | (.nothing, p) => { defect := .nothing, position := p }
  | (defect, some p) => .pointing text defect p
  | (defect, none) => { defect }

/-- The call tree of the tokens of one statement. -/
def build (tokens : List Token) (maxDepth : Int := defaultMaxDepth) (text : Option String := none) :
    Except ParseError Call := do
  checkBalance tokens text
  match buildFrom maxDepth (.fresh []) tokens with
  | .ok call => return call
  | .error e => throw (located text e)

end CommandShell
