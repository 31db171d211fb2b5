import CommandShell.Evaluator.Values
import CommandShell.Host.Store

/-!
# Handlers for hosts

Handlers over a store: plain functions of their values, handlers that fail in the ways a handler
can fail, and handlers that change the store, register commands or evaluate further input.
-/

namespace CommandShell.Host

open Number

/-- What a handler does with its values. -/
abbrev Action := List Value → Program Store

/-- The text of a result that is not a text by itself; nothing gives the empty text. -/
def resultText : Datum → String
  | .null => ""
  | .text s => s
  | datum => datum.shown

/-- The values in a row. -/
def join : Action := fun values => .ofResult (Value.joined " " values)

/-- The values with bars between them, whatever their kinds. -/
def display : Action := fun values => .done ("|".intercalate (values.map Value.plainText))

/-- The same result every time. -/
def result (datum : Datum) : Action := fun _ => .done (resultText datum)

/-- The sum of the values. -/
def sum : Action := fun values => .ofAmount (Value.sum (.whole 0) values)

/-- The first value with the opposite sign. -/
def negate : Action := fun values => .withValue values 0 fun value => .ofAmount value.negate

/-- The first value divided by the second, rounded down. -/
def divide : Action := fun values =>
  .withValue values 0 fun a =>
    .withValue values 1 fun b => .ofAmount (a.floorDiv b)

/-- Reports failure with the values in a row. -/
def reportFailure : Action := fun values =>
  match Value.joined " " values with
  | .ok text => .fail (.command text)
  | .error f => .fail (.fault f)

/-- Fails in a given way. -/
def failWith (failure : Failure) : Action := fun _ => .fail failure

/-! ### The store -/

/-- Sets the first value, as a key, to the second. -/
def setField : Action := fun values =>
  .withValue values 1 fun value =>
    .withValue values 0 fun key =>
      .read fun store => .write (store.insert key value.toDatum) (.done "")

/-- The datum of a key. -/
def getField : Action := fun values =>
  .withValue values 0 fun key =>
    .read fun store =>
      match store.get? key, key with
      | some datum, _ => .done (resultText datum)
      | none, .text name => .fail (.command ("unset: " ++ name))
      | none, key => .fail (.fault (.wrongKind
          ("can only concatenate str (not \"" ++ key.kindName ++ "\") to str")))

/-- One more than a datum. -/
def successor : Datum → Except Fault Amount
  | .int n => .ok (.whole (n + 1))
  | .bool b => .ok (.whole (if b then 2 else 1))
  | .real x => .ok (.real (x.add .one))
  | .text _ => .error (.wrongKind "can only concatenate str (not \"int\") to str")
  | .list _ => .error (.wrongKind "can only concatenate list (not \"int\") to list")
  | .bytes _ => .error (.wrongKind "can't concat int to bytes")
  | datum => .error (Value.unsupported "+" datum.kindName "int")

/-- An amount among the data of a host. -/
def amountDatum : Amount → Datum
  | .whole n => .int n
  | .real x => .real x

/-- Counts its calls in the field `count`. -/
def count : Action := fun _ =>
  .read fun store =>
    match successor ((store.get? (.text "count")).getD (.int 0)) with
    | .error f => .fail (.fault f)
    | .ok amount =>
      .write (store.insert (.text "count") (amountDatum amount)) (.ofAmount (.ok amount))

/-! ### Evaluation -/

/-- Evaluates its first value as a line; passes a failure on as its own. -/
def evaluateLine (number : Int) : Action := fun values =>
  .choose number fun ev =>
    .withInput ev values 0 fun line =>
      .evaluate ev (.line line) <| .withFeedback fun feedback =>
        if feedback.isOk then .done feedback.text else .fail (.command feedback.text)

/-- Evaluates its first value as a line and gives the response in angle brackets. -/
def renderLine (number : Int) : Action := fun values =>
  .choose number fun ev =>
    .withInput ev values 0 fun line =>
      .evaluate ev (.line line) <| .withFeedback fun feedback =>
        .done ("<" ++ feedback.render ++ ">")

/-- Evaluates its first value as a script and gives the response. -/
def renderScript (number : Int) : Action := fun values =>
  .choose number fun ev =>
    .withInput ev values 0 fun script =>
      .evaluate ev (.script script) <| .withFeedback fun feedback => .done feedback.render

/-- A value as the name of a command. -/
def givenName : Value → GivenName
  | .text name => .text name
  | value => .other value.toDatum

/-- Registers its first value as a command without arguments that gives its second value. -/
def define (number : Int) : Action := fun values =>
  .choose number fun ev =>
    .withValue values 0 fun name =>
      .withValue values 1 fun value =>
        .register ev (givenName name) .nothing (.function "const") (result value.toDatum)
          .afterRegistration

end CommandShell.Host
