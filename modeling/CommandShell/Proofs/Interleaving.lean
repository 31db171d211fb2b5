import CommandShell.Proofs.QuietHandlers
import CommandShell.Proofs.Session
import Mathlib.Logic.Function.Iterate

/-!
# Connections side by side

The connections of a server take turns. A turn of a connection handles one frame that waits, or
reads the next chunk if none waits, so that others have their turns between any two frames. The
world is shared. But what a connection does depends on the tables, the evaluators and its own state
only: evaluation looks neither at the record nor at the context that the world was left with, it
gives the evaluators back as they were, also when a handler fails or evaluates further inputs, and
quiet handlers keep the tables.

* `Connection.answer_alike`, `Service.turn_alike` — one turn in two worlds with the same tables and
  evaluators;
* `Traffic.service?_turn_self`, `Traffic.service?_turn_of_ne` — one turn among others, of the
  connection itself and of another one;
* `Traffic.run_alike` — turns in any order;
* `Service.exists_turns_serveFrom` — the turns of a connection on its own add up to serving it;
* `connections_do_not_interfere` — **each connection is served as if it were alone**.
-/

namespace CommandShell

variable {Ctx : Type}

/-- The same tables and the same evaluators: all that connections share. -/
structure World.SameSetup (w w' : World Ctx) : Prop where
  tables : w'.tables = w.tables
  evaluators : w'.evaluators = w.evaluators

theorem World.SameSetup.trans {w w' w'' : World Ctx} (h : w.SameSetup w') (h' : w'.SameSetup w'') :
    w.SameSetup w'' :=
  ⟨h'.tables.trans h.tables, h'.evaluators.trans h.evaluators⟩

theorem World.SameSetup.symm {w w' : World Ctx} (h : w.SameSetup w') : w'.SameSetup w :=
  ⟨h.tables.symm, h.evaluators.symm⟩

namespace Connection

/-! ### One frame -/

theorem write_alike (c : Connection Ctx) (line : String) (w w' : World Ctx) :
    (c.write line w').1 = (c.write line w).1 := by
  simp only [write]
  split <;> rfl

theorem write_sameSetup (c : Connection Ctx) (line : String) (w : World Ctx) :
    w.SameSetup (c.write line w).2 := by
  simp only [write]
  split <;> exact ⟨rfl, rfl⟩

/-- A failure closes a connection in the same way in every world. -/
theorem abandon_alike (c : Connection Ctx) (failure : Failure) (w w' : World Ctx) :
    (c.abandon failure w').1 = (c.abandon failure w).1 := by
  obtain ⟨v, hv, -⟩ := c.abandon_eq failure w
  obtain ⟨v', hv', -⟩ := c.abandon_eq failure w'
  rw [hv, hv']

theorem abandon_sameSetup (c : Connection Ctx) (failure : Failure) (w : World Ctx) :
    w.SameSetup (c.abandon failure w).2 := by
  obtain ⟨v, hv, htables, hevaluators, -⟩ := c.abandon_eq failure w
  rw [hv]
  exact ⟨htables, hevaluators⟩

theorem evaluate_alike {w w' : World Ctx} (h : w.SameSetup w') (c : Connection Ctx) (ev : Nat)
    (statement : String) : (c.evaluate ev statement w').1 = (c.evaluate ev statement w).1 := by
  have htables : ({ w'.record (.inputReceived c.peer statement) with context := c.context } :
      World Ctx).tables =
        ({ w.record (.inputReceived c.peer statement) with context := c.context } :
          World Ctx).tables := h.tables
  obtain ⟨answer, v, hw, hw'⟩ := World.evaluate_alike htables h.evaluators rfl ev (.line statement)
  simp only [evaluate, hw, hw']
  cases answer with
  | feedback f => exact write_alike _ f.render _ _
  | raised failure => exact abandon_alike _ failure _ _

theorem evaluate_sameSetup {w : World Ctx} (hquiet : AreQuiet w.tables) (c : Connection Ctx)
    (ev : Nat) (statement : String) : w.SameSetup (c.evaluate ev statement w).2 := by
  let start : World Ctx :=
    { w.record (.inputReceived c.peer statement) with context := c.context }
  have hstart : AreQuiet start.tables := hquiet
  have hafter : w.SameSetup (start.evaluate ev (.line statement)).2 :=
    ⟨start.evaluate_tables hstart ev (.line statement), start.evaluate_evaluators ev _⟩
  unfold evaluate
  rcases heval : start.evaluate ev (.line statement) with ⟨f | failure, v⟩
  · rw [heval] at hafter
    simp only [start] at heval
    simp only [heval]
    exact hafter.trans (write_sameSetup _ _ _)
  · rw [heval] at hafter
    simp only [start] at heval
    simp only [heval]
    exact hafter.trans (abandon_sameSetup _ _ _)

/-- **One frame, in two worlds.** The answer depends on the tables and the evaluators only. -/
theorem answer_alike {w w' : World Ctx} (h : w.SameSetup w') (c : Connection Ctx) (ev : Nat)
    (frame : StreamFrame) : (c.answer ev w' frame).1 = (c.answer ev w frame).1 := by
  cases frame with
  | statement text => exact evaluate_alike h c ev text
  | error e =>
    cases e with
    | unbalanced => exact write_alike c _ w w'
    | tooLong maximum =>
      simp only [answer]
      rw [write_alike c overflowLine (w.record (.bufferFull c.peer))]

/-- An answer leaves the tables and the evaluators as they are. -/
theorem answer_sameSetup {w : World Ctx} (hquiet : AreQuiet w.tables) (c : Connection Ctx)
    (ev : Nat) (frame : StreamFrame) : w.SameSetup (c.answer ev w frame).2 := by
  cases frame with
  | statement text => exact evaluate_sameSetup hquiet c ev text
  | error e =>
    cases e with
    | unbalanced => exact write_sameSetup c _ w
    | tooLong maximum =>
      have hrecord : w.SameSetup (w.record (.bufferFull c.peer)) := ⟨rfl, rfl⟩
      exact hrecord.trans (write_sameSetup c overflowLine _)

/-- The lines that a connection has written since an earlier moment, each with the context behind
it. -/
def repliesSince (before c : Connection Ctx) : List (String × Ctx) :=
  (c.writes.toList.drop before.writes.size).map fun line => (line, c.context)

theorem repliesSince_self (c : Connection Ctx) : c.repliesSince c = [] := by
  simp [repliesSince]

end Connection

/-! ### A connection alone -/

/-- A connection that is served, with what its peer still delivers, in a world. -/
structure Service (Ctx : Type) where
  connection : Connection Ctx
  deliveries : List Delivery
  world : World Ctx

namespace Service

/-- Takes what was read; a stream that ends or fails closes the connection. -/
def take (s : Service Ctx) (deliveries : List Delivery) : Delivery → Service Ctx
  | .data [] =>
    ⟨(s.connection.finish s.world).1, deliveries, (s.connection.finish s.world).2⟩
  | .data (b :: bytes) => ⟨s.connection.receive (b :: bytes), deliveries, s.world⟩
  | .reset reason =>
    ⟨(s.connection.lose reason s.world).1, deliveries, (s.connection.lose reason s.world).2⟩
  | .fault f => ⟨s.connection.close (.failed (.fault f)), deliveries, s.world⟩

/-- One turn: the first frame that waits is handled, and if none waits, the next chunk is read. A
connection that is closed does nothing more. -/
def turn (ev : Nat) (size : Int) (s : Service Ctx) : Service Ctx :=
  match s.connection.closing, s.connection.queue with
  | some _, _ => s
  | none, _ :: _ =>
    ⟨(s.connection.handleNext ev s.world).1, s.deliveries, (s.connection.handleNext ev s.world).2⟩
  | none, [] => s.take (Delivery.read size s.deliveries).2 (Delivery.read size s.deliveries).1

/-- The replies in a number of turns. -/
def replies (ev : Nat) (size : Int) : Nat → Service Ctx → List (String × Ctx)
  | 0, _ => []
  | n + 1, s =>
    s.connection.repliesSince (s.turn ev size).connection ++ replies ev size n (s.turn ev size)

theorem turn_of_closed {s : Service Ctx} {why : Closing} (h : s.connection.closing = some why)
    (ev : Nat) (size : Int) : s.turn ev size = s := by
  rw [turn, h]

theorem turn_of_waiting {s : Service Ctx} {frame : StreamFrame} {queue : List StreamFrame}
    (hopen : s.connection.closing = none) (hqueue : s.connection.queue = frame :: queue) (ev : Nat)
    (size : Int) :
    s.turn ev size =
      ⟨({ s.connection with queue }.answer ev s.world frame).1, s.deliveries,
        ({ s.connection with queue }.answer ev s.world frame).2⟩ := by
  simp only [turn, hopen, hqueue, Connection.handleNext]

theorem turn_of_idle {s : Service Ctx} (hopen : s.connection.closing = none)
    (hqueue : s.connection.queue = []) (ev : Nat) (size : Int) :
    s.turn ev size = s.take (Delivery.read size s.deliveries).2
      (Delivery.read size s.deliveries).1 := by
  simp only [turn, hopen, hqueue]

/-- The same connection with the same deliveries, in worlds with the same setup. -/
structure Alike (s s' : Service Ctx) : Prop where
  connection : s'.connection = s.connection
  deliveries : s'.deliveries = s.deliveries
  setup : s.world.SameSetup s'.world

theorem Alike.trans {s s' s'' : Service Ctx} (h : s.Alike s') (h' : s'.Alike s'') : s.Alike s'' :=
  ⟨h'.connection.trans h.connection, h'.deliveries.trans h.deliveries, h.setup.trans h'.setup⟩

theorem take_sameSetup (s : Service Ctx) (deliveries : List Delivery) (d : Delivery) :
    s.world.SameSetup (s.take deliveries d).world := by
  rcases d with (_ | ⟨b, bytes⟩) | reason | f <;> exact ⟨rfl, rfl⟩

/-- A turn leaves the tables and the evaluators as they are. -/
theorem turn_sameSetup {s : Service Ctx} (hquiet : AreQuiet s.world.tables) (ev : Nat)
    (size : Int) : s.world.SameSetup (s.turn ev size).world := by
  cases hopen : s.connection.closing with
  | some why =>
    rw [turn_of_closed hopen]
    exact ⟨rfl, rfl⟩
  | none =>
    cases hqueue : s.connection.queue with
    | nil =>
      rw [turn_of_idle hopen hqueue]
      exact s.take_sameSetup _ _
    | cons frame queue =>
      rw [turn_of_waiting hopen hqueue]
      exact Connection.answer_sameSetup hquiet _ ev frame

/-- **One turn, in two worlds.** What a connection does depends on its own state, the tables and the
evaluators only. -/
theorem turn_alike {s s' : Service Ctx} (h : s.Alike s') (hquiet : AreQuiet s.world.tables)
    (ev : Nat) (size : Int) : (s.turn ev size).Alike (s'.turn ev size) := by
  obtain ⟨c, ds, w⟩ := s
  obtain ⟨c', ds', w'⟩ := s'
  obtain ⟨rfl, rfl, hsetup⟩ := h
  have hquiet' : AreQuiet w'.tables := by
    rw [hsetup.tables]
    exact hquiet
  have hsame : (turn ev size ⟨c', ds', w'⟩).connection = (turn ev size ⟨c', ds', w⟩).connection ∧
      (turn ev size ⟨c', ds', w'⟩).deliveries = (turn ev size ⟨c', ds', w⟩).deliveries := by
    cases hopen : c'.closing with
    | some why =>
      rw [turn_of_closed hopen, turn_of_closed hopen]
      exact ⟨rfl, rfl⟩
    | none =>
      cases hqueue : c'.queue with
      | nil =>
        rw [turn_of_idle hopen hqueue, turn_of_idle hopen hqueue]
        rcases (Delivery.read size ds').1 with (_ | ⟨b, bytes⟩) | reason | f <;> exact ⟨rfl, rfl⟩
      | cons frame queue =>
        rw [turn_of_waiting hopen hqueue, turn_of_waiting hopen hqueue]
        exact ⟨Connection.answer_alike hsetup _ ev frame, rfl⟩
  have hback := (turn_sameSetup (s := ⟨c', ds', w⟩) hquiet ev size).symm
  have hforth := turn_sameSetup (s := ⟨c', ds', w'⟩) hquiet' ev size
  exact ⟨hsame.1, hsame.2, hback.trans (hsetup.trans hforth)⟩

end Service

/-! ### Turns that add up to serving -/

namespace Connection

theorem write_queue {c : Connection Ctx} {line : String} {w : World Ctx}
    (h : (c.write line w).1.closing = none) : (c.write line w).1.queue = c.queue := by
  simp only [write] at h ⊢
  split at h
  · cases h
  · rename_i hsent
    rw [if_neg hsent]

/-- An evaluation that leaves a connection open leaves the frames that wait. -/
theorem evaluate_queue {c : Connection Ctx} {ev : Nat} {statement : String} {w : World Ctx}
    (h : (c.evaluate ev statement w).1.closing = none) :
    (c.evaluate ev statement w).1.queue = c.queue := by
  unfold evaluate at h ⊢
  dsimp only at h ⊢
  split at h
  · rename_i hanswer
    exact write_queue h
  · rename_i failure hanswer
    obtain ⟨v, habandon, -⟩ := abandon_eq _ failure _
    rw [habandon] at h
    cases h

/-- An answer that leaves a connection open leaves the frames that wait. -/
theorem answer_queue {c : Connection Ctx} {ev : Nat} {w : World Ctx} {frame : StreamFrame}
    (h : (c.answer ev w frame).1.closing = none) : (c.answer ev w frame).1.queue = c.queue := by
  cases frame with
  | statement text => exact evaluate_queue h
  | error e =>
    cases e with
    | unbalanced => exact write_queue h
    | tooLong maximum =>
      simp only [answer] at h ⊢
      split at h
      · cases h
      · rename_i hclosed
        rw [isOpen, h] at hclosed
        exact absurd rfl hclosed

/-- A connection that is still open has handled all frames. -/
theorem handleAll_queue {ev : Nat} {frames : List StreamFrame} {c : Connection Ctx} {w : World Ctx}
    (h : (handleAll ev frames c w).1.closing = none) : (handleAll ev frames c w).1.queue = [] := by
  induction frames generalizing c w with
  | nil => rfl
  | cons frame frames ih =>
    simp only [handleAll] at h ⊢
    split at h
    · rename_i hopen
      rw [if_pos hopen]
      exact ih h
    · rename_i hclosed
      rw [isOpen, h] at hclosed
      exact absurd rfl hclosed

theorem serveFrom_of_reset {ev : Nat} {size : Int} {ds rest : List Delivery} {reason : String}
    (h : Delivery.read size ds = (.reset reason, rest)) (c : Connection Ctx) (w : World Ctx) :
    serveFrom ev size ds c w = ((c.lose reason w).1, (c.lose reason w).2, rest) := by
  rw [serveFrom]
  split <;> simp_all

theorem serveFrom_of_fault {ev : Nat} {size : Int} {ds rest : List Delivery} {f : Fault}
    (h : Delivery.read size ds = (.fault f, rest)) (c : Connection Ctx) (w : World Ctx) :
    serveFrom ev size ds c w = (c.close (.failed (.fault f)), w, rest) := by
  rw [serveFrom]
  split <;> simp_all

end Connection

namespace Service

/-- The frames that wait are handled one a turn. -/
theorem exists_turns_handleAll (ev : Nat) (size : Int) (deliveries : List Delivery)
    {frames : List StreamFrame} {c : Connection Ctx} {w : World Ctx} (hopen : c.closing = none)
    (hqueue : c.queue = frames) :
    ∃ n, (turn ev size)^[n] ⟨c, deliveries, w⟩ =
      ⟨(c.handleAll ev frames w).1, deliveries, (c.handleAll ev frames w).2⟩ := by
  induction frames generalizing c w with
  | nil =>
    refine ⟨0, ?_⟩
    obtain ⟨peer, context, framer, decoder, queue, writes, unsent, closing⟩ := c
    obtain rfl : queue = [] := hqueue
    rfl
  | cons frame frames ih =>
    have hfirst : turn ev size ⟨c, deliveries, w⟩ =
        ⟨(({ c with queue := frames } : Connection Ctx).answer ev w frame).1, deliveries,
          (({ c with queue := frames } : Connection Ctx).answer ev w frame).2⟩ :=
      turn_of_waiting hopen hqueue ev size
    rw [Connection.handleAll]
    cases hclosing :
      (({ c with queue := frames } : Connection Ctx).answer ev w frame).1.closing with
    | some why =>
      refine ⟨1, ?_⟩
      rw [Function.iterate_one, hfirst]
      simp [Connection.isOpen, hclosing]
    | none =>
      obtain ⟨n, hn⟩ := ih hclosing (Connection.answer_queue hclosing)
      refine ⟨n + 1, ?_⟩
      rw [Function.iterate_succ_apply, hfirst, hn]
      simp [Connection.isOpen, hclosing]

/-- **Serving in turns.** The turns of a connection alone add up to serving it to its end, and there
it stays. -/
theorem exists_turns_serveFrom (ev : Nat) (size : Int) {ds : List Delivery} {c : Connection Ctx}
    {w : World Ctx} (hopen : c.closing = none) (hqueue : c.queue = []) :
    ∃ n, ∀ m, n ≤ m → (turn ev size)^[m] ⟨c, ds, w⟩ =
      ⟨(c.serveFrom ev size ds w).1, (c.serveFrom ev size ds w).2.2,
        (c.serveFrom ev size ds w).2.1⟩ := by
  suffices hreach : ∃ n why, (turn ev size)^[n] ⟨c, ds, w⟩ =
      ⟨(c.serveFrom ev size ds w).1, (c.serveFrom ev size ds w).2.2,
        (c.serveFrom ev size ds w).2.1⟩ ∧ (c.serveFrom ev size ds w).1.closing = some why by
    obtain ⟨n, why, hn, hclosed⟩ := hreach
    refine ⟨n, fun m hm => ?_⟩
    obtain ⟨k, rfl⟩ := Nat.exists_eq_add_of_le' hm
    rw [Function.iterate_add_apply, hn]
    exact Function.iterate_fixed (turn_of_closed hclosed ev size) k
  -- every chunk that is read leaves less to be delivered
  induction hweight : Delivery.weight ds using Nat.strong_induction_on generalizing ds c w with
  | _ weight ih =>
    subst hweight
    have hfirst : turn ev size ⟨c, ds, w⟩ =
        take ⟨c, ds, w⟩ (Delivery.read size ds).2 (Delivery.read size ds).1 :=
      turn_of_idle hopen hqueue ev size
    rcases hread : Delivery.read size ds with ⟨(_ | ⟨b, bytes⟩) | reason | f, rest⟩
    · rw [hread] at hfirst
      rw [Connection.serveFrom_of_end hread]
      exact ⟨1, .ended, hfirst, rfl⟩
    · rw [hread] at hfirst
      rw [Connection.serveFrom_of_data hread]
      obtain ⟨n, hn⟩ := exists_turns_handleAll ev size rest (c := c.receive (b :: bytes)) (w := w)
        hopen rfl
      have hprocess : (turn ev size)^[n + 1] ⟨c, ds, w⟩ =
          ⟨(c.process ev (b :: bytes) w).1, rest, (c.process ev (b :: bytes) w).2⟩ := by
        rw [Function.iterate_succ_apply, hfirst]
        exact hn
      cases hclosing : (c.process ev (b :: bytes) w).1.closing with
      | some why =>
        have hclosed : (c.process ev (b :: bytes) w).1.isOpen ≠ true := by
          simp [Connection.isOpen, hclosing]
        rw [if_neg hclosed]
        exact ⟨n + 1, why, hprocess, hclosing⟩
      | none =>
        have hstill : (c.process ev (b :: bytes) w).1.isOpen = true := by
          simp [Connection.isOpen, hclosing]
        rw [if_pos hstill]
        obtain ⟨m, why, hm, hend⟩ := ih _ (Delivery.weight_read hread) hclosing
          (Connection.handleAll_queue hclosing) rfl
        refine ⟨m + (n + 1), why, ?_, hend⟩
        rw [Function.iterate_add_apply, hprocess]
        exact hm
    · rw [hread] at hfirst
      rw [Connection.serveFrom_of_reset hread]
      exact ⟨1, .lost reason, hfirst, rfl⟩
    · rw [hread] at hfirst
      rw [Connection.serveFrom_of_fault hread]
      exact ⟨1, .failed (.fault f), hfirst, rfl⟩

end Service

/-! ### Connections among others -/

namespace Server

theorem connection?_setConnection (s : Server Ctx) (client other : Nat) (c : Connection Ctx) :
    (s.setConnection client c).connection? other =
      (s.connection? other).map fun old => if other = client then c else old := by
  show (s.connections.map _).lookup other = (s.connections.lookup other).map _
  induction s.connections with
  | nil => rfl
  | cons first connections ih =>
    obtain ⟨n, old⟩ := first
    rw [List.map_cons, List.lookup_cons, List.lookup_cons]
    by_cases hn : other = n
    · subst hn
      simp
    · rw [beq_false_of_ne hn]
      exact ih

end Server

/-- A server, with what the peers of its connections still deliver. -/
structure Traffic (Ctx : Type) where
  server : Server Ctx
  deliveries : Nat → List Delivery

namespace Traffic

/-- The connection of a client, as it is served now. -/
def service? (t : Traffic Ctx) (client : Nat) : Option (Service Ctx) :=
  (t.server.connection? client).map fun c => ⟨c, t.deliveries client, t.server.world⟩

/-- What became of the connection of a client. -/
def put (t : Traffic Ctx) (client : Nat) (s : Service Ctx) : Traffic Ctx where
  server := { t.server with world := s.world }.setConnection client s.connection
  deliveries := Function.update t.deliveries client s.deliveries

/-- A turn of a client: its server handles the first frame that waits for it, and if none waits, it
receives the next chunk. -/
def turn (size : Int) (t : Traffic Ctx) (client : Nat) : Traffic Ctx :=
  match t.service? client with
  | none => t
  | some s =>
    match s.connection.closing, s.connection.queue with
    | some _, _ => t
    | none, _ :: _ => { t with server := t.server.step (.handle client) }
    | none, [] =>
      match Delivery.read size s.deliveries with
      | (.data (b :: bytes), rest) =>
        { server := t.server.step (.receive client (b :: bytes))
          deliveries := Function.update t.deliveries client rest }
      | (d, rest) => t.put client (s.take rest d)

/-- Turns of clients in any order. -/
def run (size : Int) (t : Traffic Ctx) (schedule : List Nat) : Traffic Ctx :=
  schedule.foldl (turn size) t

/-- The replies to a client in turns of clients in any order. -/
def replies (size : Int) (client : Nat) : List Nat → Traffic Ctx → List (String × Ctx)
  | [], _ => []
  | next :: schedule, t =>
    (match t.server.connection? client, (t.turn size next).server.connection? client with
      | some before, some c => before.repliesSince c
      | _, _ => []) ++ replies size client schedule (t.turn size next)

theorem service?_eq_some {t : Traffic Ctx} {client : Nat} {s : Service Ctx}
    (h : t.service? client = some s) :
    t.server.connection? client = some s.connection ∧ s.deliveries = t.deliveries client ∧
      s.world = t.server.world := by
  obtain ⟨c, hc, rfl⟩ := Option.map_eq_some_iff.1 h
  exact ⟨hc, rfl, rfl⟩

theorem turn_of_none {t : Traffic Ctx} {client : Nat} (h : t.service? client = none) (size : Int) :
    t.turn size client = t := by
  rw [turn, h]

theorem turn_of_closed {t : Traffic Ctx} {client : Nat} {s : Service Ctx} {why : Closing}
    (h : t.service? client = some s) (hclosed : s.connection.closing = some why) (size : Int) :
    t.turn size client = t := by
  rw [turn, h]
  dsimp only
  rw [hclosed]

/-- The steps of a server serve a connection as turns of its own do. -/
theorem turn_eq_put {t : Traffic Ctx} {client : Nat} {s : Service Ctx}
    (h : t.service? client = some s) (hopen : s.connection.closing = none) (size : Int) :
    t.turn size client = t.put client (s.turn t.server.evaluator size) := by
  obtain ⟨hc, hdeliveries, hworld⟩ := service?_eq_some h
  have hisOpen : s.connection.isOpen = true := by simp [Connection.isOpen, hopen]
  rw [turn, h]
  dsimp only
  cases hqueue : s.connection.queue with
  | cons frame queue =>
    simp only [hopen, Server.step, hc, put, Service.turn, hqueue, hworld, hdeliveries,
      Function.update_eq_self]
  | nil =>
    rw [Service.turn_of_idle hopen hqueue]
    simp only [hopen]
    rcases Delivery.read size s.deliveries with ⟨(_ | ⟨b, bytes⟩) | reason | f, rest⟩
    · rfl
    · simp only [Server.step, hc, hisOpen, if_true, put, Service.take, hworld]
    · rfl
    · rfl

theorem turn_evaluator (size : Int) (t : Traffic Ctx) (client : Nat) :
    (t.turn size client).server.evaluator = t.server.evaluator := by
  cases h : t.service? client with
  | none => rw [turn_of_none h]
  | some s =>
    cases hopen : s.connection.closing with
    | some why => rw [turn_of_closed h hopen]
    | none => rw [turn_eq_put h hopen]; rfl

/-- **An own turn.** The connection is served as if it were alone. -/
theorem service?_turn_self {t : Traffic Ctx} {client : Nat} {s : Service Ctx}
    (h : t.service? client = some s) (size : Int) :
    (t.turn size client).service? client = some (s.turn t.server.evaluator size) := by
  cases hopen : s.connection.closing with
  | some why => rw [turn_of_closed h hopen, Service.turn_of_closed hopen, h]
  | none =>
    have hc : ({ t.server with world := (s.turn t.server.evaluator size).world } :
        Server Ctx).connection? client = some s.connection := (service?_eq_some h).1
    rw [turn_eq_put h hopen, service?, put]
    dsimp only
    rw [Server.connection?_setConnection, hc, Function.update_self, Option.map_some, if_pos rfl]
    rfl

/-- **A turn of another client.** Of what a connection is served with, only the record and the
context that the world was left with change. -/
theorem service?_turn_of_ne {t : Traffic Ctx} {client other : Nat} {s : Service Ctx}
    (h : t.service? client = some s) (hne : client ≠ other) (hquiet : AreQuiet s.world.tables)
    (size : Int) :
    ∃ s', (t.turn size other).service? client = some s' ∧ s.Alike s' := by
  cases hother : t.service? other with
  | none =>
    rw [turn_of_none hother]
    exact ⟨s, h, rfl, rfl, rfl, rfl⟩
  | some o =>
    cases hopen : o.connection.closing with
    | some why =>
      rw [turn_of_closed hother hopen]
      exact ⟨s, h, rfl, rfl, rfl, rfl⟩
    | none =>
      obtain ⟨hc, hdeliveries, hworld⟩ := service?_eq_some h
      have hshared : o.world = s.world := (service?_eq_some hother).2.2.trans hworld.symm
      refine ⟨⟨s.connection, s.deliveries, (o.turn t.server.evaluator size).world⟩, ?_, rfl, rfl,
        ?_⟩
      · rw [turn_eq_put hother hopen, service?, put]
        dsimp only
        have hc' : ({ t.server with world := (o.turn t.server.evaluator size).world } :
            Server Ctx).connection? client = some s.connection := hc
        rw [Server.connection?_setConnection, hc', Function.update_of_ne hne, hdeliveries,
          Option.map_some, if_neg hne]
        rfl
      · rw [← hshared] at hquiet ⊢
        exact Service.turn_sameSetup hquiet t.server.evaluator size

/-- **Schedules.** Among any turns of others, the turns of a connection are what they are alone, and
they give the same replies. -/
theorem run_alike (size : Int) (schedule : List Nat) {t : Traffic Ctx} {client : Nat}
    {s s' : Service Ctx} (ht : t.service? client = some s') (h : s.Alike s')
    (hquiet : AreQuiet s.world.tables) :
    ∃ s'', (t.run size schedule).service? client = some s'' ∧
      ((Service.turn t.server.evaluator size)^[schedule.count client] s).Alike s'' ∧
      s.world.SameSetup s''.world ∧
      t.replies size client schedule =
        s.replies t.server.evaluator size (schedule.count client) := by
  induction schedule generalizing t s s' with
  | nil => exact ⟨s', ht, h, h.setup, rfl⟩
  | cons next schedule ih =>
    have hevaluator := t.turn_evaluator size next
    have hbefore := (service?_eq_some ht).1
    rw [run, List.foldl_cons, replies, hbefore]
    by_cases hnext : next = client
    · subst hnext
      have hturn := service?_turn_self ht size
      have hsame := Service.turn_alike h hquiet t.server.evaluator size
      have hkept := Service.turn_sameSetup hquiet t.server.evaluator size
      have hquiet' : AreQuiet (s.turn t.server.evaluator size).world.tables := by
        rw [hkept.tables]
        exact hquiet
      obtain ⟨s'', hrun, halike, hsetup, hreplies⟩ := ih hturn hsame hquiet'
      rw [hevaluator] at halike hreplies
      refine ⟨s'', hrun, ?_, hkept.trans hsetup, ?_⟩
      · rw [List.count_cons_self, Function.iterate_succ_apply]
        exact halike
      · rw [(service?_eq_some hturn).1, hreplies, List.count_cons_self, Service.replies,
          hsame.connection, h.connection]
    · obtain ⟨s₁, hturn, hother⟩ := service?_turn_of_ne ht (Ne.symm hnext)
        (by rw [h.setup.tables]; exact hquiet) size
      obtain ⟨s'', hrun, halike, hsetup, hreplies⟩ := ih hturn (h.trans hother) hquiet
      rw [hevaluator] at halike hreplies
      rw [List.count_cons_of_ne hnext]
      refine ⟨s'', hrun, halike, hsetup, ?_⟩
      rw [(service?_eq_some hturn).1, hreplies, hother.connection]
      dsimp only
      rw [Connection.repliesSince_self, List.nil_append]

end Traffic

/-- **Connections do not disturb each other.** Any number of connections share the evaluator of a
server whose handlers register nothing, and have their turns in any order. Then the replies to a
client, with the context of its connection behind each of them, are those to as many turns of the
connection alone, and so is all of its state at any moment; the tables and the evaluators stay as
they were. And the turns of a connection alone, if there are enough of them, are what serving it
comes to. -/
theorem connections_do_not_interfere (size : Int) (t : Traffic Ctx) (client : Nat)
    (c : Connection Ctx) (hclient : t.server.connection? client = some c)
    (hquiet : AreQuiet t.server.world.tables) (schedule : List Nat) :
    let ev := t.server.evaluator
    let alone : Service Ctx := ⟨c, t.deliveries client, t.server.world⟩
    let turns := schedule.count client
    t.replies size client schedule = alone.replies ev size turns ∧
      (t.run size schedule).server.connection? client =
        some ((Service.turn ev size)^[turns] alone).connection ∧
      t.server.world.SameSetup (t.run size schedule).server.world ∧
      (c.closing = none → c.queue = [] →
        let served := c.serveFrom ev size (t.deliveries client) t.server.world
        ∃ enough, ∀ n, enough ≤ n →
          (Service.turn ev size)^[n] alone = ⟨served.1, served.2.2, served.2.1⟩) := by
  intro ev alone turns
  have halone : t.service? client = some alone := by
    rw [Traffic.service?, hclient]
    rfl
  obtain ⟨s, hrun, halike, hsetup, hreplies⟩ :=
    Traffic.run_alike size schedule halone ⟨rfl, rfl, rfl, rfl⟩ hquiet
  obtain ⟨hconnection, -, hworld⟩ := Traffic.service?_eq_some hrun
  refine ⟨hreplies, ?_, ?_, Service.exists_turns_serveFrom ev size⟩
  · rw [hconnection, halike.connection]
  · rw [← hworld]
    exact hsetup

/-- A host whose handlers register nothing: one of them takes notes, one has its evaluator evaluate
a tree, and one fails unexpectedly. -/
def calmWorld : World (List String) where
  tables := [⟨[
    World.noting "note" fun values => .read fun notes =>
      .write (notes ++ ["noted"]) (.ofResult (Value.joined " " values)),
    World.noting "twice" fun _ => .evaluate 0 (.tree ⟨"note", [.call "note" []]⟩) <|
      .withFeedback fun feedback => .done feedback.text,
    World.noting "crash" fun _ => .fail (.fault (.raised "OSError" "gone"))]⟩]
  evaluators := World.notingWorld.evaluators
  context := []

/-- Two clients, each of which sends two statements. -/
def calmTraffic : Traffic (List String) where
  server :=
    { world := calmWorld
      context := []
      peer := "client"
      connections :=
        [(0, .fresh calmWorld 0 "client" []), (1, .fresh calmWorld 0 "client" ["own"])] }
  deliveries client :=
    [.data ((if client = 0 then "note a\ntwice\n" else "crash\nnote b\n").toList.flatMap
      String.utf8EncodeChar)]

/-- While the handler of one of them fails between two statements of the other, each has the replies
and the contexts of its own. -/
theorem connections_do_not_interfere_calm :
    calmTraffic.server.connection? 0 = some (.fresh calmWorld 0 "client" []) ∧
      AreQuiet calmTraffic.server.world.tables ∧
      calmTraffic.replies 1024 0 [0, 1, 0, 1, 0, 1, 1, 0] =
        [("a\n", ["noted"]), ("Ok\n", ["noted", "noted", "noted"])] ∧
      calmTraffic.replies 1024 1 [0, 1, 0, 1, 0, 1, 1, 0] =
        [("Err: OSError: gone\n", ["own"]), ("b\n", ["own", "noted"])] := by
  have hquiet : AreQuiet calmTraffic.server.world.tables := by
    intro table htable entry hentry values
    obtain rfl := List.mem_singleton.1 htable
    simp only [List.mem_cons, List.not_mem_nil, or_false] at hentry
    rcases hentry with rfl | rfl | rfl
    · intro notes
      show Program.IsQuiet (.ofResult (Value.joined " " values))
      rcases Value.joined " " values with f | text <;> trivial
    · intro answer
      cases answer <;> trivial
    · trivial
  have hfirst : calmTraffic.server.connection? 0 = some (.fresh calmWorld 0 "client" []) := rfl
  have hsecond : calmTraffic.server.connection? 1 =
      some (.fresh calmWorld 0 "client" ["own"]) := rfl
  refine ⟨hfirst, hquiet, ?_, ?_⟩
  · rw [(connections_do_not_interfere 1024 calmTraffic 0 _ hfirst hquiet _).1]
    decide +kernel
  · rw [(connections_do_not_interfere 1024 calmTraffic 1 _ hsecond hquiet _).1]
    decide +kernel

end CommandShell
