import CommandShell.Error

/-!
# Addresses

A server listens on an address: a host and a port with a colon between them. The last colon
divides the two, so the host may hold colons itself; it must not be empty. The port is an integer
text.
-/

namespace CommandShell

open Number Text

structure Address where
  host : String
  port : Int
  deriving DecidableEq, Repr

namespace Address

/-- Why a text is not an address. -/
inductive Malformed where
  /-- There is no colon, or nothing before the last one. -/
  | shape (text : String)
  | port (text : String) (e : IntegerError)
  deriving DecidableEq, Repr

def Malformed.message : Malformed → String
  | shape text => "Expected HOST:PORT, got " ++ quoted text
  | port text e => (Fault.ofIntegerError text e).text

/-- Divides characters at their last colon. -/
def divide (cs : List Char) : Option (List Char × List Char) :=
  let port := (cs.reverse.takeWhile (· ≠ ':')).reverse
  if port.length < cs.length then some (cs.take (cs.length - port.length - 1), port) else none

/-- Reads an address. -/
def read (text : String) : Except Malformed Address :=
  match divide text.toList with
  | some (host@(_ :: _), port) =>
    let port := String.ofList port
    match readInteger port with
    | .ok n => .ok ⟨String.ofList host, n⟩
    | .error e => .error (.port port e)
  | _ => .error (.shape text)

/-- Whether a server can listen on the port. -/
def isBindable (a : Address) : Bool := 0 ≤ a.port && a.port ≤ 65535

end Address

end CommandShell
