import CommandShell.Decider.Basic

/-!
# Signatures

A predicate takes arguments from the front of a row and turns them into values. A signature is a
row of keywords and predicates. It accepts when every part in turn is satisfied by the arguments
that the parts before it left, and no argument is left over; the leftmost part that is not
satisfied gives the reason of a denial.
-/

namespace CommandShell

/-- Why a predicate does not take its arguments. -/
inductive Refusal where
  | denied (reason : String) (help : Bool)
  | fault (f : Fault)
  /-- The predicate failed, and asking for the text of its failure raises another one. -/
  | mute (raised : Failure)
  deriving DecidableEq, Repr

/-- A refusal that is not meant as help. -/
def Refusal.because (reason : String) : Refusal := .denied reason false

/-- A named taker of arguments: how many it takes from the front, and their values. One that takes
a negative number hands arguments back to the parts behind it. -/
structure Predicate where
  description : String
  consume : List String → Except Refusal (Int × List Value)

/-- The form in which a predicate is shown. -/
def Predicate.shown (p : Predicate) : String := "Predicate(\"" ++ p.description ++ "\")"

/-- A part of a signature. -/
inductive Part where
  | keyword (text : String)
  | predicate (p : Predicate)

/-- The words that describe a part. -/
def Part.description : Part → String
  | keyword text => text
  | predicate p => p.description

/-- Keywords and predicates in a row. -/
structure Signature where
  parts : List Part

namespace Signature

/-- The arguments from an index on; a negative index counts from the end. -/
def argsFrom (args : List String) (index : Int) : List String :=
  args.drop (if index < 0 then index + args.length else index).toNat

/-- Lets the parts take their arguments in turn, from an index on; gives the values and the index
behind the last argument taken, or the decision at the first part that is not satisfied. -/
def consumeParts (args : List String) : List Part → Int → Except Decision (List Value × Int)
  | [], index => .ok ([], index)
  | .keyword text :: parts, index =>
    match argsFrom args index with
    | [] => .error (.deny ("Expected " ++ text ++ " but got: nothing") false)
    | arg :: _ =>
      if arg = text then consumeParts args parts (index + 1)
      else .error (.deny ("Expected " ++ text ++ " but got: " ++ arg) false)
  | .predicate p :: parts, index =>
    let rest := argsFrom args index
    match p.consume rest with
    | .error (.denied reason true) => .error (.deny reason true)
    | .error (.denied reason false) =>
      .error (.deny ("Expected " ++ p.description ++ " but got: " ++ reason) false)
    | .error (.fault f) => .error (.failed f)
    | .error (.mute raised) => .error (.mute raised)
    | .ok (count, values) =>
      if rest.length < count then .error (.deny "Decider advanced too far" false)
      else match consumeParts args parts (index + count) with
        | .error decision => .error decision
        | .ok (others, index) => .ok (values ++ others, index)

/-- The descriptions of the parts, in a row. -/
def description (s : Signature) : String := " ".intercalate (s.parts.map Part.description)

/-- Decides about a row of arguments. -/
def decide (s : Signature) (args : List String) : Decision :=
  match consumeParts args s.parts 0 with
  | .error decision => decision
  | .ok (values, index) =>
    if index < args.length then
      let extra := " ".intercalate (argsFrom args index)
      if s.parts.isEmpty then .deny ("Expected no arguments but got: " ++ extra) false
      else .deny ("Unexpected arguments after " ++ s.description ++ ": " ++ extra) false
    else .accept values

/-- The decider of a signature. -/
def toDecider (s : Signature) : Decider := ⟨.signature, s.description, s.decide⟩

end Signature

/-! ### What hosts give as a decider -/

/-- A part of a signature as a host gives it. -/
inductive GivenPart where
  | part (p : Part)
  | other (d : Datum)

/-- What a host gives where a decider is due. -/
inductive GivenDecider where
  /-- Nothing: the command takes no arguments. -/
  | nothing
  | decider (d : Decider)
  | predicate (p : Predicate)
  | parts (ps : List GivenPart)
  | other (d : Datum)

/-- The parts of a signature, or the reason why they are none. -/
def GivenPart.parts : List GivenPart → Except String (List Part)
  | [] => .ok []
  | .part p :: given => (p :: ·) <$> parts given
  | .other d :: _ =>
    .error ("Signature parts must be keywords or predicates, got " ++ d.shown)

/-- The signature of given parts. -/
def Signature.ofGiven (given : List GivenPart) : Except String Signature :=
  (⟨·⟩) <$> GivenPart.parts given

/-- The decider that a host means, or the reason why it is none. -/
def GivenDecider.toDecider : GivenDecider → Except String Decider
  | nothing => .ok (Signature.toDecider ⟨[]⟩)
  | decider d => .ok d
  | predicate p => .ok (Signature.toDecider ⟨[.predicate p]⟩)
  | parts ps => Signature.toDecider <$> Signature.ofGiven ps
  | other d => .error ("Cannot use " ++ d.shown ++ " as a decider")

end CommandShell
