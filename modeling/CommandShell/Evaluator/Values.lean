import CommandShell.Evaluator.Program
import CommandShell.Text.Base64

/-!
# Working with values

What handlers do with the values they are given. A value of the wrong kind, or one that is
missing, is a fault.
-/

namespace CommandShell

open Number Text

namespace Value

/-- A value without quotation marks: texts as they are, numbers of floating point by their bits,
bytes by their hexadecimal digits. -/
def plainText : Value → String
  | text s => s
  | bool b => if b then "true" else "false"
  | int n => integerText n
  | real x => x.hex
  | bytes bs => Base64.hexText bs

/-- The texts of values, the first of which is at `index`. -/
def texts (index : Nat) : List Value → Except Fault (List String)
  | [] => .ok []
  | text s :: values => (s :: ·) <$> texts (index + 1) values
  | value :: _ => .error (.noTextAt index value.kindName)

theorem texts_map_text (index : Nat) (args : List String) :
    texts index (args.map .text) = .ok args := by
  induction args generalizing index with
  | nil => rfl
  | cons arg args ih =>
    rw [List.map_cons, texts, ih]
    rfl

/-- The texts of values in a row. -/
def joined (separator : String) (values : List Value) : Except Fault String :=
  separator.intercalate <$> texts 0 values

/-- The fault of an operation between two kinds that have none. -/
def unsupported (operation left right : String) : Fault :=
  .wrongKind ("unsupported operand type(s) for " ++ operation ++ ": '" ++ left ++ "' and '"
    ++ right ++ "'")

/-- The sum of an amount and values that are numbers, taken from left to right. -/
def sum (total : Amount) : List Value → Except Fault Amount
  | [] => .ok total
  | value :: values =>
    match value.amount? with
    | none => .error (unsupported "+" total.kindName value.kindName)
    | some amount =>
      match total.add amount with
      | .ok total => sum total values
      | .error e => .error (.arithmetic e)

/-- A value with the opposite sign. -/
def negate (value : Value) : Except Fault Amount :=
  match value.amount? with
  | some amount => .ok amount.neg
  | none => .error (.wrongKind ("bad operand type for unary -: '" ++ value.kindName ++ "'"))

/-- The quotient of two values, rounded down. -/
def floorDiv (a b : Value) : Except Fault Amount :=
  match a.amount?, b.amount? with
  | some m, some n => (m.floorDiv n).mapError .arithmetic
  | _, _ => .error (unsupported "//" a.kindName b.kindName)

end Value

namespace Program

variable {Ctx : Type}

/-- Ends with a text, or with a fault. -/
def ofResult : Except Fault String → Program Ctx
  | .ok text => done text
  | .error f => fail (.fault f)

/-- Ends with the text of an amount, or with a fault. -/
def ofAmount (result : Except Fault Amount) : Program Ctx :=
  ofResult (result.bind fun amount => amount.text.mapError .arithmetic)

/-- Goes on with the value at `index`. -/
def withValue (values : List Value) (index : Nat) (next : Value → Program Ctx) : Program Ctx :=
  match values[index]? with
  | some value => next value
  | none => fail (.fault .argumentIndex)

/-- The fault of a value that has no length. -/
def lengthless (value : Value) : Fault :=
  .wrongKind ("object of type '" ++ value.kindName ++ "' has no len()")

/-- Goes on with the text of the value at `index`. -/
def withText (values : List Value) (index : Nat) (next : String → Program Ctx) : Program Ctx :=
  withValue values index fun
    | .text s => next s
    | value => fail (.fault (lengthless value))

/-- Goes on with the value at `index` as input for an evaluator. Bytes are no text, but where there
are none they pass for the empty one. -/
def withInput (ev : Nat) (values : List Value) (index : Nat) (next : String → Program Ctx) :
    Program Ctx :=
  withValue values index fun
    | .text s => next s
    | .bytes bs => if bs.isEmpty then next "" else misread ev bs.length
    | value => fail (.fault (lengthless value))

/-- Goes on with the feedback of an evaluation; a failure that it raised is passed on. -/
def withFeedback (next : Feedback → Program Ctx) : Answer → Program Ctx
  | .feedback f => next f
  | .raised failure => fail failure

/-- Ends with the outcome of a registration. -/
def afterRegistration : Except RegistrationError Unit → Program Ctx
  | .ok () => done ""
  | .error e => fail (.shell (.registration e))

end Program

end CommandShell
