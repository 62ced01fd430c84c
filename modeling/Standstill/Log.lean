import Standstill.Contention.Report
import Standstill.Failure
import Standstill.Socket.Message
import Standstill.Socket.Report

/-!
# What happens in a run

A run goes through events. Most are logged, each as one line with a level;
the others stand for what the run asks of the system, so that it can be told
what a run did before it failed. `Traced` is a computation with its events.

Results:
* `events_bind_of_error`, `events_bind_of_ok`: nothing happens after a
  failure, and what happened before a step stays first.
* `of_result_bind`, `of_result_mapError`: a result goes through results of
  the steps before it.
-/
namespace Standstill

inductive Event
  -- Asked of the system.
  | interfacesAsked
  | bindAsked (at_ : Endpoint)
  | connectAsked (at_ : Endpoint)
  | pipeAsked
  | forkAsked
  | threadAsked (name : String)
  | sleepAsked (span : Span)
  -- Interfaces.
  | scanned (entries : Nat)
  | usingInterface (name : String) (ip : Ipv4)
  | usingConfigured (ip : Ipv4)
  -- Locks and workers.
  | locksMade (count : Nat)
  | workerStarted (index lock : UInt64)
  | contentionStarted (workers locks : UInt64) (cycles : UInt32) (tick : Span)
  | waitElapsed (running workers : Nat)
  | contentionFinished (acquisitions : UInt64) (finished workers : Nat)
  -- The listener.
  | listening (at_ : Endpoint)
  | awaitingConnection (at_ : Endpoint)
  | accepted (peer : Endpoint)
  | sent (message cycles : UInt32)
  | peerClosed (cycles : UInt32) (fault : IoFault)
  -- The connector.
  | delaying (span : Span)
  | connected (at_ : Endpoint)
  | received (bytes : Nat) (total : UInt64)
  | listenerClosed (reads : UInt32)
  | readFailed (reads : UInt32) (fault : IoFault)
  -- The two processes of a forked run.
  | forked (process : Nat)
  | reportReceived (process : Nat)
  | connectorFinished (report : Socket.ConnectorReport)
  | reportNotSent (failure : Failure)
  | connectorFailed (failure : Failure)
  -- The programs.
  | socketRunStarted (role : Socket.Role) (composition : Socket.Composition) (cycles : UInt32)
      (tick : Span)
  | listenerDone (report : Socket.ListenerReport)
  | connectorDone (report : Socket.ConnectorReport)
  | socketRunFailed (failure : Failure)
  | lockDone (report : Contention.LockReport)
  | contentionFailed (failure : Failure)
  -- The orchestrator.
  | orchestratorStarted
  | fixtureRun (path : String) (arguments : List String)
  /-- How long a run took is given in hundredths of a second. -/
  | fixtureEnded (run runs : Nat) (exitCode : Option Int32) (hundredths : Nat)
  | fixtureSkipped (name detail : String)
  | fixtureFailed (name detail : String)
deriving Repr, DecidableEq

inductive Level
  | debug
  | info
  | warning
  | error
deriving Repr, DecidableEq

/-- A line of a log. -/
structure LogLine where
  level : Level
  message : String
deriving Repr, DecidableEq

/-- An exit code, if there is one. -/
def exitCodeText : Option Int32 → String
  | some c => "Some(" ++ toString c.toInt ++ ")"
  | none => "None"

/-- Seconds with two places, from their hundredths. -/
def secondsText (hundredths : Nat) : String :=
  toString (hundredths / 100) ++ "." ++ toString (hundredths / 10 % 10) ++
    toString (hundredths % 10) ++ "s"

/-- The line of an event that is logged. -/
def Event.line? : Event → Option LogLine
  | .interfacesAsked | .bindAsked _ | .connectAsked _ | .pipeAsked | .forkAsked
  | .threadAsked _ | .sleepAsked _ => none
  | .scanned n => some ⟨.debug, "Scanned " ++ toString n ++ " interface entries"⟩
  | .usingInterface n ip => some ⟨.info, "Using interface " ++ n ++ " with address " ++ ip.text⟩
  | .usingConfigured ip => some ⟨.info, "Using configured address " ++ ip.text⟩
  | .locksMade n => some ⟨.debug, "Initializing " ++ toString n ++ " binary semaphores"⟩
  | .workerStarted i l =>
    some ⟨.debug, "Spawned worker " ++ toString i.toNat ++ " on lock " ++ toString l.toNat⟩
  | .contentionStarted w l c t =>
    some ⟨.info, "Starting " ++ toString w.toNat ++ " workers over " ++ toString l.toNat ++
      " locks, " ++ toString c.toNat ++ " cycles of " ++ t.text⟩
  | .waitElapsed r w =>
    some ⟨.warning, "Timed wait elapsed with " ++ toString r ++ " of " ++ toString w ++
      " workers still running"⟩
  | .contentionFinished a f w =>
    some ⟨.info, "Contention finished: " ++ toString a.toNat ++ " acquisitions, " ++
      toString f ++ "/" ++ toString w ++ " workers done"⟩
  | .listening a =>
    some ⟨.debug, "Listening on " ++ a.text ++ " (backlog " ++ toString Socket.backlog ++ ")"⟩
  | .awaitingConnection a => some ⟨.info, "Waiting for a connection on " ++ a.text⟩
  | .accepted p => some ⟨.info, "Accepted connection from " ++ p.text⟩
  | .sent k n => some ⟨.debug, "Sent message " ++ toString k.toNat ++ "/" ++ toString n.toNat⟩
  | .peerClosed n f =>
    some ⟨.info, "Peer closed the stream after " ++ toString n.toNat ++ " cycles: " ++ f.text⟩
  | .delaying s => some ⟨.debug, "Waiting " ++ s.text ++ " for the listener to come up"⟩
  | .connected a => some ⟨.info, "Connected to " ++ a.text⟩
  | .received n t =>
    some ⟨.debug, "Read " ++ toString n ++ " bytes (" ++ toString t.toNat ++ " total)"⟩
  | .listenerClosed n =>
    some ⟨.info, "Listener closed the stream after " ++ toString n.toNat ++ " reads"⟩
  | .readFailed n f =>
    some ⟨.info, "Read failed after " ++ toString n.toNat ++ " reads: " ++ f.text⟩
  | .forked p => some ⟨.info, "Forked connector process " ++ toString p⟩
  | .reportReceived p =>
    some ⟨.debug, "Connector report received from process " ++ toString p⟩
  | .connectorFinished r =>
    some ⟨.info, "Connector finished: " ++ toString r.reads.toNat ++ " reads, " ++
      toString r.bytesReceived.toNat ++ " bytes, " ++ r.endedBy.title⟩
  | .reportNotSent f =>
    some ⟨.error, "Failed to hand the connector report over: " ++ f.message⟩
  | .connectorFailed f => some ⟨.error, "Connector failed: " ++ f.message⟩
  | .socketRunStarted r c n t =>
    some ⟨.info, "Socket scenario: role " ++ r.name ++ ", " ++ c.title ++ ", " ++
      toString n.toNat ++ " cycles of " ++ t.text⟩
  | .listenerDone r =>
    some ⟨.info, "Listener sent " ++ toString r.messagesSent.toNat ++ " messages (" ++
      r.endedBy.title ++ ")"⟩
  | .connectorDone r =>
    some ⟨.info, "Connector read " ++ toString r.bytesReceived.toNat ++ " bytes in " ++
      toString r.reads.toNat ++ " reads (" ++ r.endedBy.title ++ ")"⟩
  | .socketRunFailed f => some ⟨.error, "Socket scenario failed: " ++ f.message⟩
  | .lockDone r =>
    some ⟨.info, "Lock " ++ toString r.index.toNat ++ ": " ++ toString r.acquisitions.toNat ++
      " acquisitions, peak holders " ++ toString r.peakHolders.toNat⟩
  | .contentionFailed f => some ⟨.error, "Contention scenario failed: " ++ f.message⟩
  | .orchestratorStarted => some ⟨.info, "Blocking scenario test orchestrator"⟩
  | .fixtureRun p as => some ⟨.info, "Running " ++ p ++ " " ++ " ".intercalate as⟩
  | .fixtureEnded k n c t =>
    some ⟨.info, "   run " ++ toString k ++ "/" ++ toString n ++ ": exit code " ++
      exitCodeText c ++ " after " ++ secondsText t⟩
  | .fixtureSkipped n d => some ⟨.warning, n ++ ": " ++ d⟩
  | .fixtureFailed n d => some ⟨.error, n ++ ": " ++ d⟩

def Level.name : Level → String
  | .debug => "DEBUG"
  | .info => "INFO"
  | .warning => "WARN"
  | .error => "ERROR"

/-- How far a level is from the least one. -/
def Level.rank : Level → Nat
  | .debug => 0
  | .info => 1
  | .warning => 2
  | .error => 3

def LogLine.text (l : LogLine) : String := l.level.name ++ " " ++ l.message

/-- A computation that goes through events and then has a value or an error. -/
structure Traced (ε α : Type) where
  events : List Event
  result : Except ε α
deriving Repr

namespace Traced

variable {ε ε' α β : Type}

def ok (a : α) : Traced ε α := ⟨[], .ok a⟩

def error (e : ε) : Traced ε α := ⟨[], .error e⟩

def ofExcept (r : Except ε α) : Traced ε α := ⟨[], r⟩

/-- An event. -/
def note (e : Event) : Traced ε Unit := ⟨[e], .ok ()⟩

/-- Several events. -/
def notes (es : List Event) : Traced ε Unit := ⟨es, .ok ()⟩

def bind (x : Traced ε α) (f : α → Traced ε β) : Traced ε β :=
  match x.result with
  | .ok a => ⟨x.events ++ (f a).events, (f a).result⟩
  | .error e => ⟨x.events, .error e⟩

instance : Monad (Traced ε) where
  pure := ok
  bind := bind

def mapError (g : ε → ε') (x : Traced ε α) : Traced ε' α := ⟨x.events, x.result.mapError g⟩

/-- The same events, with a failure as a value. -/
def attempt (x : Traced ε α) : Traced ε (Except ε α) := ⟨x.events, .ok x.result⟩

/-- The same result, with the events of another thread or process left out. -/
def apart (x : Traced ε α) : Traced ε α := ⟨[], x.result⟩

@[simp] theorem note_bind (e : Event) (f : Unit → Traced ε β) :
    note e >>= f = ⟨e :: (f ()).events, (f ()).result⟩ := rfl

@[simp] theorem notes_bind (es : List Event) (f : Unit → Traced ε β) :
    notes es >>= f = ⟨es ++ (f ()).events, (f ()).result⟩ := rfl

@[simp] theorem events_pure (a : α) : (pure a : Traced ε α).events = [] := rfl

@[simp] theorem events_error (e : ε) : (error e : Traced ε α).events = [] := rfl

@[simp] theorem ofExcept_ok_bind (a : α) (f : α → Traced ε β) : ofExcept (.ok a) >>= f = f a := rfl

@[simp] theorem ofExcept_error_bind (e : ε) (f : α → Traced ε β) :
    ofExcept (.error e) >>= f = error e := rfl

theorem events_bind_of_ok {x : Traced ε α} {a : α} (f : α → Traced ε β) (h : x.result = .ok a) :
    (x >>= f).events = x.events ++ (f a).events ∧ (x >>= f).result = (f a).result := by
  change (x.bind f).events = _ ∧ (x.bind f).result = _
  simp [bind, h]

theorem bind_of_ok {x : Traced ε α} {a : α} (f : α → Traced ε β) (h : x.result = .ok a) :
    x >>= f = ⟨x.events ++ (f a).events, (f a).result⟩ := by
  change x.bind f = _
  simp [bind, h]

theorem events_bind_of_error {x : Traced ε α} {e : ε} (f : α → Traced ε β)
    (h : x.result = .error e) :
    (x >>= f).events = x.events ∧ (x >>= f).result = .error e := by
  change (x.bind f).events = _ ∧ (x.bind f).result = _
  simp [bind, h]

theorem mem_events_bind {x : Traced ε α} {f : α → Traced ε β} {e : Event} :
    e ∈ (x >>= f).events ↔ e ∈ x.events ∨ ∃ a, x.result = .ok a ∧ e ∈ (f a).events := by
  cases hx : x.result with
  | ok a => simp [(events_bind_of_ok f hx).1]
  | error g => simp [(events_bind_of_error f hx).1]

/-- A result comes from a result of the first step. -/
theorem of_result_bind {x : Traced ε α} {f : α → Traced ε β} {b : β}
    (h : (x >>= f).result = .ok b) : ∃ a, x.result = .ok a ∧ (f a).result = .ok b := by
  cases hx : x.result with
  | error e =>
    rw [(events_bind_of_error f hx).2] at h
    cases h
  | ok a =>
    rw [(events_bind_of_ok f hx).2] at h
    exact ⟨a, rfl, h⟩

theorem of_result_mapError {g : ε → ε'} {x : Traced ε α} {a : α}
    (h : (x.mapError g).result = .ok a) : x.result = .ok a := by
  unfold mapError at h
  cases hx : x.result with
  | error e =>
    rw [hx] at h
    cases h
  | ok b =>
    rw [hx] at h
    cases h
    rfl

theorem mem_events_bind_left {x : Traced ε α} {e : Event} (h : e ∈ x.events)
    (f : α → Traced ε β) : e ∈ (x >>= f).events := mem_events_bind.2 (.inl h)

theorem notMem_events_bind {x : Traced ε α} {f : α → Traced ε β} {e : Event} (hx : e ∉ x.events)
    (hf : ∀ a, e ∉ (f a).events) : e ∉ (x >>= f).events := by
  rw [mem_events_bind]
  intro h
  cases h with
  | inl h => exact hx h
  | inr h =>
    obtain ⟨a, -, h⟩ := h
    exact hf a h

/-- The lines logged. -/
def log (x : Traced ε α) : List LogLine := x.events.filterMap Event.line?

end Traced

end Standstill
