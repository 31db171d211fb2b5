import CommandShell.Datum

/-!
# Stores

An execution context for hosts that need no more than data under keys: fields in the order in
which they were first set. Any value can be a key. Numbers are the same key if they are equal as
numbers, whatever their kinds, and a key that is set again keeps the form it was first given.
-/

namespace CommandShell

open Number

/-- Whether two values are the same key. -/
def Value.isSameKey : Value → Value → Bool
  | text a, text b => a == b
  | bytes a, bytes b => a == b
  | a, b =>
    match a.amount?, b.amount? with
    | some m, some n => m.equals n
    | _, _ => false

/-- Data under keys. -/
structure Store where
  fields : List (Value × Datum) := []

namespace Store

/-- The store of data under texts. -/
def ofTexts (fields : List (String × Datum)) : Store :=
  ⟨fields.map fun (key, datum) => (.text key, datum)⟩

/-- The datum of a key. -/
def get? (s : Store) (key : Value) : Option Datum :=
  (s.fields.find? fun field => field.1.isSameKey key).map (·.2)

/-- Replaces the datum of a key that is there. -/
def replace (key : Value) (datum : Datum) : List (Value × Datum) → List (Value × Datum)
  | [] => []
  | (k, d) :: fields =>
    if k.isSameKey key then (k, datum) :: fields else (k, d) :: replace key datum fields

/-- Sets a key; a new one goes behind the others. -/
def insert (s : Store) (key : Value) (datum : Datum) : Store :=
  if (s.get? key).isSome then ⟨replace key datum s.fields⟩ else ⟨s.fields ++ [(key, datum)]⟩

end Store

end CommandShell
