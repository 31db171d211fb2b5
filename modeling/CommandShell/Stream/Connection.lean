import CommandShell.Stream.Shell
import CommandShell.Text.Utf8

/-!
# Connections

A connection serves one client over bytes. It has an execution context of its own and its own
state of framing; the evaluator is shared. Responses are those of the shell, with two differences:
a statement that is too long ends the connection, whatever follows it, and a statement that no
newline ends is not evaluated. A failure that evaluation raises ends the connection too.

Received bytes become frames, which wait in a queue and are handled one at a time, so that other
connections can be served between two frames.
-/

namespace CommandShell

open Text

variable {Ctx : Type}

/-- What reading from a peer gives. -/
inductive Delivery where
  | data (bytes : List UInt8)
  /-- The connection is broken. -/
  | reset (reason : String)
  /-- Reading fails in a way that has nothing to do with the connection. -/
  | fault (f : Fault)
  deriving DecidableEq, Repr

namespace Delivery

/-- A bound for the number of reads that deliveries are good for. -/
def weight : List Delivery → Nat
  | [] => 0
  | data bytes :: ds => bytes.length + 1 + weight ds
  | _ :: ds => 1 + weight ds

/-- Reads up to the end of the stream, behind bytes that were read before. If reading breaks off,
they are lost. -/
def readAll (before : List UInt8) : List Delivery → Delivery × List Delivery
  | [] => (data before, [])
  | data [] :: ds => (data before, data [] :: ds)
  | data (b :: bytes) :: ds => readAll (before ++ b :: bytes) ds
  | d :: ds => (d, ds)

/-- Reads at most `size` bytes of the next delivery, or everything up to the end of the stream if
`size` is negative; what is left of a delivery stays in front. Without a delivery, or with an empty
one, the peer has ended the stream. -/
def read (size : Int) : List Delivery → Delivery × List Delivery
  | [] => (data [], [])
  | data [] :: ds => (data [], ds)
  | data (b :: bytes) :: ds =>
    if size < 0 then readAll (b :: bytes) ds
    else if bytes.length < size then (data (b :: bytes), ds)
    else (data ((b :: bytes).take size.toNat), data ((b :: bytes).drop size.toNat) :: ds)
  | d :: ds => (d, ds)

theorem weight_readAll (before : List UInt8) (ds : List Delivery) :
    weight (readAll before ds).2 ≤ weight ds := by
  induction ds generalizing before with
  | nil => exact Nat.le_refl _
  | cons d ds ih =>
    rcases d with (_ | ⟨b, bytes⟩) | reason | f
    · exact Nat.le_refl _
    · exact Nat.le_trans (ih _) (Nat.le_add_left _ _)
    · exact Nat.le_add_left _ _
    · exact Nat.le_add_left _ _

theorem weight_read {size : Int} {ds rest : List Delivery} {b : UInt8} {bytes : List UInt8}
    (h : read size ds = (data (b :: bytes), rest)) : weight rest < weight ds := by
  unfold read at h
  split at h
  · cases h
  · cases h
  · rename_i b' bytes' ds
    have hall := weight_readAll (b' :: bytes') ds
    have hdata : weight (data (b' :: bytes') :: ds) = bytes'.length + 1 + 1 + weight ds := rfl
    split at h
    · rw [h] at hall
      dsimp only at hall
      omega
    · split at h
      · cases h
        omega
      · obtain ⟨taken, rfl⟩ := Prod.mk.inj h
        have hlength := congrArg List.length (Delivery.data.inj taken)
        simp only [List.length_take, List.length_cons] at hlength
        simp only [weight, List.length_drop, List.length_cons]
        omega
  · obtain ⟨rfl, rfl⟩ := Prod.mk.inj h
    simp_all

end Delivery

/-- Why a connection was closed. -/
inductive Closing where
  /-- The peer ended the stream. -/
  | ended
  /-- A statement was too long. -/
  | overflowed
  /-- The connection broke. -/
  | lost (reason : String)
  /-- Reading failed in another way, or evaluation raised a failure. -/
  | failed (failure : Failure)
  deriving DecidableEq, Repr

/-- What a fault says about a broken connection, if it is of that kind. -/
def Fault.lossReason? (f : Fault) : Option String :=
  if ["ConnectionError", "BrokenPipeError", "ConnectionAbortedError", "ConnectionRefusedError",
      "ConnectionResetError"].contains f.name then some f.text
  else none

/-- How a connection is closed by a failure. Faults of broken connections count as a loss, wherever
they come from. -/
def Closing.ofFailure : Failure → Closing
  | .fault f =>
    match f.lossReason? with
    | some reason => .lost reason
    | none => .failed (.fault f)
  | failure => .failed failure

/-- A connection: its context, the state of decoding and framing, the frames that wait, what was
written, and why it was closed if it is. `unsent` is the number of the write that cannot be sent,
counted from one, on a connection that breaks there. -/
structure Connection (Ctx : Type) where
  peer : String
  context : Ctx
  framer : Framer
  decoder : Utf8.Decoder := {}
  queue : List StreamFrame := []
  writes : Array String := #[]
  unsent : Option Nat := none
  closing : Option Closing := none

namespace Connection

/-- The last line that a client reads whose statement is too long. -/
def overflowLine : String := "Err: Internal buffer is full, disconnecting"

/-- What a connection that breaks while writing reports. -/
def unsentReason : String := "drain failed"

/-- A connection through which nothing went yet, to be served by an evaluator. -/
def fresh (w : World Ctx) (ev : Nat) (peer : String) (context : Ctx) : Connection Ctx where
  peer
  context
  framer := { maximum := (w.limits ev).maxLength }

def isOpen (c : Connection Ctx) : Bool := c.closing.isNone

/-- Closes a connection; frames that still wait are dropped. -/
def close (c : Connection Ctx) (why : Closing) : Connection Ctx :=
  { c with closing := some why, queue := [] }

/-- Closes a connection that broke. -/
def lose (c : Connection Ctx) (reason : String) (w : World Ctx) : Connection Ctx × World Ctx :=
  (c.close (.lost reason), w.record (.connectionFailed c.peer reason))

/-- Writes a line, which may break the connection. -/
def write (c : Connection Ctx) (line : String) (w : World Ctx) : Connection Ctx × World Ctx :=
  let c := { c with writes := c.writes.push (line ++ "\n") }
  if c.unsent = some c.writes.size then c.lose unsentReason w else (c, w)

/-- Takes bytes: the frames that are complete with them wait behind the others. -/
def receive (c : Connection Ctx) (bytes : List UInt8) : Connection Ctx :=
  let (decoder, text) := c.decoder.feed bytes
  let (framer, frames) := c.framer.feed text
  { c with decoder, framer, queue := c.queue ++ frames }

/-- Closes a connection whose evaluation raised a failure. -/
def abandon (c : Connection Ctx) (failure : Failure) (w : World Ctx) :
    Connection Ctx × World Ctx :=
  match Closing.ofFailure failure with
  | .lost reason => c.lose reason w
  | why => (c.close why, w)

/-- Evaluates a statement in the context of the connection and writes the response. -/
def evaluate (c : Connection Ctx) (ev : Nat) (statement : String) (w : World Ctx) :
    Connection Ctx × World Ctx :=
  let w := w.record (.inputReceived c.peer statement)
  let (answer, w) := { w with context := c.context }.evaluate ev (.line statement)
  let c := { c with context := w.context }
  match answer with
  | .feedback f => c.write f.render w
  | .raised failure => c.abandon failure w

/-- Answers a frame. -/
def answer (c : Connection Ctx) (ev : Nat) (w : World Ctx) :
    StreamFrame → Connection Ctx × World Ctx
  | .statement text => c.evaluate ev text w
  | .error (.tooLong _) =>
    let (c, w) := c.write overflowLine (w.record (.bufferFull c.peer))
    (if c.isOpen then c.close .overflowed else c, w)
  | .error e => c.write e.feedback.render w

/-- Handles the first frame that waits, if there is one. -/
def handleNext (c : Connection Ctx) (ev : Nat) (w : World Ctx) : Connection Ctx × World Ctx :=
  match c.queue with
  | [] => (c, w)
  | frame :: queue => { c with queue }.answer ev w frame

/-- Handles frames in order as long as the connection is open. -/
def handleAll (ev : Nat) : List StreamFrame → Connection Ctx → World Ctx →
    Connection Ctx × World Ctx
  | [], c, w => ({ c with queue := [] }, w)
  | frame :: frames, c, w =>
    let (c, w) := { c with queue := frames }.answer ev w frame
    if c.isOpen then handleAll ev frames c w else (c, w)

/-- Takes bytes and handles every frame that is complete. -/
def process (c : Connection Ctx) (ev : Nat) (bytes : List UInt8) (w : World Ctx) :
    Connection Ctx × World Ctx :=
  let c := c.receive bytes
  handleAll ev c.queue c w

/-- Takes the end of the stream. -/
def finish (c : Connection Ctx) (w : World Ctx) : Connection Ctx × World Ctx :=
  (c.close .ended, w.record (.disconnected c.peer))

/-- Serves what a peer delivers, `size` bytes at a time, until the connection is closed; gives
what was not read. -/
def serveFrom (ev : Nat) (size : Int) (ds : List Delivery) (c : Connection Ctx) (w : World Ctx) :
    Connection Ctx × World Ctx × List Delivery :=
  match h : Delivery.read size ds with
  | (.data [], rest) =>
    let (c, w) := c.finish w
    (c, w, rest)
  | (.data (b :: bytes), rest) =>
    let (c, w) := c.process ev (b :: bytes) w
    have := Delivery.weight_read h
    if c.isOpen then serveFrom ev size rest c w else (c, w, rest)
  | (.reset reason, rest) =>
    let (c, w) := c.lose reason w
    (c, w, rest)
  | (.fault f, rest) => (c.close (.failed (.fault f)), w, rest)
termination_by Delivery.weight ds

/-- Serves a connection from its beginning. -/
def serve (ev : Nat) (size : Int) (ds : List Delivery) (c : Connection Ctx) (w : World Ctx) :
    Connection Ctx × World Ctx × List Delivery :=
  serveFrom ev size ds c (w.record (.connectionOpened c.peer))

/-- The failure that serving ended with, if it ended with one. -/
def failure? (c : Connection Ctx) : Option Failure :=
  match c.closing with
  | some (.failed failure) => some failure
  | _ => none

end Connection

end CommandShell
