import DriftSubscriber.ReadLoop

/-!
# The subscriber's coroutines on the event loop

`add_account`, `fetch`, `unsubscribe` and the reader task `_subscribe_ws` run as
coroutines of one asyncio loop.  A coroutine runs without interruption from one
await to the next, and every `async with self._lock` ends before the next real
await of its coroutine: the awaits inside one, on `account_unsubscribe` (lines
177 and 648), raise `AttributeError` before suspending, since `self.ws` only ever
holds the raw `websockets` connection of line 213.  So the lock is free whenever
a coroutine asks for it.  The model runs each coroutine from one I/O await to the
next as one step: an `Event` is a call from the application, or one suspended
coroutine resuming with the outcome of its await.  `remove_account` has no await
that suspends and is a single step.

The socket and the server are the environment: any outcome may come back from an
await, in any order.  Cancellation is delivered only to a task that `unsubscribe()`
cancelled, and `wait_for(self.task)` in `unsubscribe()` (line 639) returns, on its
timeout too, only once that task is done.  The log `wire` records the subscribe frames
that `send` accepted, which reach the server, and apart from them the calls of
`account_unsubscribe`, which raise before sending anything.
-/

namespace DriftSubscriber

/-- A call on the socket as the model records it. -/
inductive WireCall (Pubkey : Type)
  /-- a subscribe frame that `send` accepted on connection `conn`: it reaches the server -/
  | accountSubscribe (conn : Nat) (requestId : Int) (pubkey : Pubkey)
  /-- a call of `account_unsubscribe` (lines 177 and 644), which raises `AttributeError` on the
  raw connection: no frame reaches the server -/
  | unsubscribeRaised (subscriptionId : Int)
  deriving DecidableEq

/-- Where a suspended `add_account` waits: on its snapshot (line 97), or on the subscribe
frame of `requestId` on connection `conn` (line 134). -/
inductive AddAccountPc
  | fetching
  | sending (requestId : Int) (conn : Nat)
  deriving DecidableEq

/-- Where `_subscribe_ws` goes once `async with websockets.connect(...)` has closed its
socket: back to `while self._running` (line 206), out through the `break` of line 216,
or on to the `CancelledError` handler of line 491. -/
inductive AfterClose
  | loop
  | exit
  | cancel
  deriving DecidableEq

/-- Where a suspended `_subscribe_ws` waits: not yet started, on the handshake (line 210),
on a subscribe frame of the batch (line 266), on `recv` (line 279), on the close of the
socket when leaving the `async with`, on `asyncio.sleep(1)` (lines 489 and 525), or on the
close of a cancelled task (lines 497 and 533, `outer` for the latter). -/
inductive ReaderPc (Pubkey : Type)
  | start
  | connecting
  | sending (conn : Nat) (requestId : Int) (pubkey : Pubkey) (rest : List (Pubkey × String))
  | receiving (conn : Nat)
  | closing (conn : Nat) (next : AfterClose)
  | sleeping
  | closingOnCancel (outer : Bool)
  deriving DecidableEq

/-- Where a suspended `unsubscribe()` waits: on the close of line 627, on the task at index
`reader` (line 639), or on the close of line 652. -/
inductive UnsubscribePc
  | closing
  | joining (reader : Nat)
  | closingAgain
  deriving DecidableEq

/-- A coroutine of the subscriber; `cancelled` records `task.cancel()` on the reader. -/
inductive Task (Pubkey Record : Type)
  | addAccount (call : AddAccountCall Pubkey Record) (pc : AddAccountPc)
  | fetchOne (pubkey : Pubkey) (key : String)
  | fetchAll (keys : List String)
  | reader (cancelled : Bool) (pc : ReaderPc Pubkey)
  | unsubscribe (pc : UnsubscribePc)
  | finished

/-- What an await gives back. -/
inductive Outcome (Record : Type)
  /-- `get_account_data_and_slot` returned a value (possibly `None`) or raised -/
  | fetched (result : Except Unit (Option (DataAndSlot Record)))
  /-- `asyncio.gather(..., return_exceptions=True)`, one result per fetch -/
  | gathered (results : List (Except Unit (Option (DataAndSlot Record))))
  /-- `send` returned, or raised -/
  | sent (ok : Bool)
  /-- the handshake succeeded, or raised -/
  | connected (ok : Bool)
  /-- a frame; `none` when `json.loads` or `FakeMsg` raised -/
  | received (msg : Option Msg)
  /-- `recv` timed out, or raised an error the loop swallows -/
  | idle
  /-- `recv` raised `ConnectionClosed` -/
  | closedByPeer
  /-- a close, a sleep or a wait returned or timed out -/
  | completed
  /-- `CancelledError` at this await -/
  | cancelled

/-- One step of the loop: a call from the application, or a coroutine resuming. -/
inductive Event (Pubkey Record : Type)
  | addAccount (call : AddAccountCall Pubkey Record)
  | removeAccount (pubkey : Pubkey) (oracleId : Option String)
  | fetch (pubkey : Option Pubkey) (oracleId : Option String)
  | subscribe
  | unsubscribe
  | resume (task : Nat) (outcome : Outcome Record)

/-- The fields of `WebsocketMultiAccountSubscriber`: the registry, the program's account
decoder, `ws` (the connection it holds), `task` and `_running`. -/
structure Subscriber (Pubkey Record : Type) extends Registry Pubkey Record where
  programDecode : Decoder Record
  ws : Option Nat
  task : Option Nat
  running : Bool

/-- The subscriber with its suspended coroutines, the number of connections opened so
far, and the calls made on the socket. -/
structure EventLoop (Pubkey Record : Type) extends Subscriber Pubkey Record where
  tasks : List (Task Pubkey Record)
  connections : Nat
  wire : List (WireCall Pubkey)

namespace Registry

variable {Pubkey Record : Type} [DecidableEq Pubkey]

/-- Lines 608-611: each fetched value merged under its key; failed fetches are skipped. -/
def mergeGathered : Registry Pubkey Record → List String →
    List (Except Unit (Option (DataAndSlot Record))) → Registry Pubkey Record
  | reg, key :: keys, .ok data :: results => mergeGathered (reg.updateData key data) keys results
  | reg, _ :: keys, .error _ :: results => mergeGathered reg keys results
  | reg, _, _ => reg

omit [DecidableEq Pubkey] in
/-- Lines 608-611 write fetched values and nothing else. -/
theorem mergeGathered_frame (reg : Registry Pubkey Record) (keys : List String) (results : List (Except Unit (Option (DataAndSlot Record)))) :
    ∃ dataMap, reg.mergeGathered keys results = { reg with dataMap } := by
  induction keys generalizing reg results with
  | nil => exact ⟨reg.dataMap, by cases results <;> rfl⟩
  | cons key keys ih =>
      rcases results with _ | ⟨_ | data, results⟩
      · exact ⟨reg.dataMap, rfl⟩
      · exact ih reg results
      · obtain ⟨dataMap, e⟩ := ih (reg.updateData key data) results
        exact ⟨dataMap, e⟩

end Registry

namespace EventLoop

variable {Pubkey Record : Type} (codec : PubkeyCodec Pubkey)

def init (programDecode : Decoder Record) : EventLoop Pubkey Record :=
  { toRegistry := .init, programDecode, ws := none, task := none, running := false,
    tasks := [], connections := 0, wire := [] }

variable (l : EventLoop Pubkey Record)

def setRegistry (reg : Registry Pubkey Record) : EventLoop Pubkey Record :=
  { l with toRegistry := reg }

def record (call : WireCall Pubkey) : EventLoop Pubkey Record := { l with wire := l.wire ++ [call] }

@[simp] theorem setRegistry_toRegistry (reg : Registry Pubkey Record) :
    (l.setRegistry reg).toRegistry = reg := rfl

@[simp] theorem setRegistry_tasks (reg : Registry Pubkey Record) :
    (l.setRegistry reg).tasks = l.tasks := rfl

@[simp] theorem setRegistry_wire (reg : Registry Pubkey Record) :
    (l.setRegistry reg).wire = l.wire := rfl

@[simp] theorem setRegistry_programDecode (reg : Registry Pubkey Record) :
    (l.setRegistry reg).programDecode = l.programDecode := rfl

/-- `is_subscribed` (lines 613-614). -/
def isSubscribed : Bool := l.ws.isSome && l.task.isSome

/-! ## `add_account`, `remove_account` and `fetch` -/

variable [DecidableEq Pubkey]

/-- Lines 107-134: with a socket, a request recorded and its frame sent. -/
def requestSubscription (call : AddAccountCall Pubkey Record) : EventLoop Pubkey Record × Task Pubkey Record :=
  match l.ws with
  | none => (l, .finished)
  | some conn =>
      match l.toRegistry.reserveRequest call.pubkey call.oracleId with
      | none => (l, .finished)
      | some (reg, requestId) => (l.setRegistry reg, .addAccount call (.sending requestId conn))

/-- Lines 57-97 of `add_account`, up to its first await. -/
def addAccount (call : AddAccountCall Pubkey Record) : EventLoop Pubkey Record × Task Pubkey Record :=
  let key := call.key codec
  let decodeFn := call.decodeFn l.programDecode
  match l.pubkeyToSubscription.get? call.pubkey with
  | some subscriptionId =>
      (l.setRegistry (l.toRegistry.joinSubscription call key decodeFn subscriptionId), .finished)
  | none =>
      let l' := l.setRegistry (l.toRegistry.registerFresh call key decodeFn)
      if l.toRegistry.snapshotNeeded call key then (l', .addAccount call .fetching)
      else l'.requestSubscription call

/-- Lines 100-101: the snapshot written under the key. -/
def storeSnapshot (call : AddAccountCall Pubkey Record) (data : Option (DataAndSlot Record)) :
    EventLoop Pubkey Record :=
  l.setRegistry { l.toRegistry with dataMap := l.dataMap.insert (call.key codec) data }

/-- `remove_account` (lines 141-191); with a socket, line 177 calls `account_unsubscribe`,
which raises. -/
def removeAccount (P : Pubkey) (oracleId : Option String) : EventLoop Pubkey Record :=
  let (reg, subscriptionId) := l.toRegistry.removeAccount codec P oracleId
  match l.ws, subscriptionId with
  | some _, some subscriptionId => (l.setRegistry reg).record (.unsubscribeRaised subscriptionId)
  | _, _ => l.setRegistry reg

/-- Lines 586-606: the keys of `decode_map` that `fetch()` reads an address from. -/
def fetchAllKeys : List String :=
  l.decodeMap.keys.filter fun key => (pubkeyOfKey codec key).isSome

/-- `fetch` (lines 573-607) up to its await. -/
def fetch : Option Pubkey → Option String → EventLoop Pubkey Record × Task Pubkey Record
  | some P, oracleId =>
      let key := oracleId.getD (codec.str P)
      if key ∈ l.decodeMap then (l, .fetchOne P key) else (l, .finished)
  | none, _ => (l, .fetchAll (l.fetchAllKeys codec))

/-! ## `subscribe` and `unsubscribe` -/

/-- `subscribe` (lines 193-197): the reader task is created unless one is set. -/
def subscribe : EventLoop Pubkey Record × Task Pubkey Record :=
  match l.task with
  | some _ => (l, .finished)
  | none => ({ l with task := some l.tasks.length }, .reader false .start)

/-- `task.cancel()` on the task at `index`. -/
def cancelTask (index : Nat) : EventLoop Pubkey Record :=
  { l with
    tasks := l.tasks.modify
      (fun | .reader _ pc => .reader true pc | task => task) index }

/-- Lines 641-673: `task` reset, then with a socket the unsubscribe calls, which raise, and
the close of line 652, else the final clear. -/
def unsubscribeRelease : EventLoop Pubkey Record × Task Pubkey Record :=
  let l := { l with task := none }
  match l.ws with
  | some _ =>
      (l.subscriptionMap.keys.foldl (fun l sid => l.record (.unsubscribeRaised sid)) l,
        .unsubscribe .closingAgain)
  | none => (l.setRegistry .init, .finished)

/-- Lines 637-641: the wait for the reader task. -/
def unsubscribeJoin : EventLoop Pubkey Record × Task Pubkey Record :=
  match l.task with
  | some reader => (l, .unsubscribe (.joining reader))
  | none => l.unsubscribeRelease

/-- Lines 617-627 of `unsubscribe`: the loop stopped, the reader cancelled, the socket
closed. -/
def unsubscribe : EventLoop Pubkey Record × Task Pubkey Record :=
  let l := { l with running := false }
  let l := match l.task with
    | some index => l.cancelTask index
    | none => l
  match l.ws with
  | some _ => (l, .unsubscribe .closing)
  | none => l.unsubscribeJoin

/-! ## `_subscribe_ws` -/

/-- Line 206: `while self._running:` around the connection. -/
def whileRunning : EventLoop Pubkey Record × Option (ReaderPc Pubkey) :=
  if l.running then (l, some .connecting) else (l, none)

/-- Line 275: `while self._running:` around `recv`. -/
def readNext (conn : Nat) : EventLoop Pubkey Record × Option (ReaderPc Pubkey) :=
  if l.running then (l, some (.receiving conn)) else (l, some (.closing conn .loop))

/-- Lines 244-266 on the pairs left, then the read loop. -/
def sendBatch (conn : Nat) :
    List (Pubkey × String) → EventLoop Pubkey Record × Option (ReaderPc Pubkey)
  | [] => l.readNext conn
  | (P, key) :: rest =>
      let (reg, requestId) := l.toRegistry.reserveBatchRequest codec P key
      (l.setRegistry reg, some (.sending conn requestId P rest))

/-- Lines 213-271 once the handshake of a new connection succeeded. -/
def openConnection : EventLoop Pubkey Record × Option (ReaderPc Pubkey) :=
  let conn := l.connections
  let l := { l with ws := some conn, connections := conn + 1 }
  if l.running then l.sendBatch codec conn (l.toRegistry.resubscribeBatch codec)
  else (l, some (.closing conn .exit))

/-- Lines 481-490 and 511-526: `ws` reset, the connection's state cleared, then a sleep. -/
def dropConnection : EventLoop Pubkey Record × Option (ReaderPc Pubkey) :=
  ({ l with ws := none }.setRegistry l.toRegistry.clearConnection, some .sleeping)

/-- Lines 527-546: the outer `CancelledError` handler. -/
def outerCancelHandler : EventLoop Pubkey Record × Option (ReaderPc Pubkey) :=
  let l := { l with running := false }
  match l.ws with
  | some _ => (l, some (.closingOnCancel true))
  | none => ({ l with ws := none }.setRegistry l.toRegistry.clearConnection, none)

/-- Lines 491-510: the `CancelledError` handler of the connection; its `raise` goes on to
the outer handler. -/
def cancelHandler : EventLoop Pubkey Record × Option (ReaderPc Pubkey) :=
  let l := { l with running := false }
  match l.ws with
  | some _ => (l, some (.closingOnCancel false))
  | none => ({ l with ws := none }.setRegistry l.toRegistry.clearConnection).outerCancelHandler

/-- Lines 505-510 and 541-546, after the close of a cancelled task. -/
def closeAfterCancel (outer : Bool) : EventLoop Pubkey Record × Option (ReaderPc Pubkey) :=
  let l := { l with ws := none }.setRegistry l.toRegistry.clearConnection
  if outer then (l, none) else l.outerCancelHandler

/-- Where a `CancelledError` raised at each await of `_subscribe_ws` leads. -/
def cancelAt : ReaderPc Pubkey → EventLoop Pubkey Record × Option (ReaderPc Pubkey)
  | .start => (l, none)
  | .connecting => l.cancelHandler
  | .sending conn _ _ _ => (l, some (.closing conn .cancel))
  | .receiving conn => (l, some (.closing conn .cancel))
  | .closing _ _ => l.cancelHandler
  | .sleeping => l.outerCancelHandler
  | .closingOnCancel outer => if outer then (l, none) else l.outerCancelHandler

/-- `_subscribe_ws` resuming at `pc`; `none` for an outcome its await cannot give. -/
def resumeReader (cancelled : Bool) :
    ReaderPc Pubkey → Outcome Record → Option (EventLoop Pubkey Record × Option (ReaderPc Pubkey))
  | .start, .completed => some { l with running := true }.whileRunning
  | .connecting, .connected true => some (l.openConnection codec)
  | .connecting, .connected false => some l.dropConnection
  | .sending conn requestId P rest, .sent ok =>
      some ((if ok then l.record (.accountSubscribe conn requestId P)
        else l.setRegistry (l.toRegistry.retractRequest requestId)).sendBatch codec conn rest)
  | .receiving conn, .received none => some (l.readNext conn)
  | .receiving conn, .received (some msg) =>
      some (if l.running then (l.setRegistry (l.toRegistry.handleMsg codec msg)).readNext conn
        else (l, some (.closing conn .loop)))
  | .receiving conn, .idle => some (l.readNext conn)
  | .receiving conn, .closedByPeer => some (l, some (.closing conn .loop))
  | .closing _ .loop, .completed => some l.whileRunning
  | .closing _ .exit, .completed => some (l, none)
  | .closing _ .cancel, .completed => some l.cancelHandler
  | .sleeping, .completed => some l.whileRunning
  | .closingOnCancel outer, .completed => some (l.closeAfterCancel outer)
  | pc, .cancelled => if cancelled then some (l.cancelAt pc) else none
  | _, _ => none

/-- The task a resumed reader becomes: suspended at its next await, or finished. -/
def readerTask (cancelled : Bool) : Option (ReaderPc Pubkey) → Task Pubkey Record
  | some pc => .reader cancelled pc
  | none => .finished

/-- A suspended coroutine resuming with the outcome of its await. -/
def resumeTask : Task Pubkey Record → Outcome Record →
    Option (EventLoop Pubkey Record × Task Pubkey Record)
  | .addAccount _ .fetching, .fetched (.error _) => some (l, .finished)
  | .addAccount call .fetching, .fetched (.ok data) =>
      some ((l.storeSnapshot codec call data).requestSubscription call)
  | .addAccount call (.sending requestId conn), .sent true =>
      some (l.record (.accountSubscribe conn requestId call.pubkey), .finished)
  | .addAccount _ (.sending requestId _), .sent false =>
      some (l.setRegistry (l.toRegistry.retractRequest requestId), .finished)
  | .fetchOne _ key, .fetched (.ok data) =>
      some (l.setRegistry (l.toRegistry.updateData key data), .finished)
  | .fetchOne _ _, .fetched (.error _) => some (l, .finished)
  | .fetchAll keys, .gathered results =>
      if results.length = keys.length then
        some (l.setRegistry (l.toRegistry.mergeGathered keys results), .finished)
      else none
  | .reader cancelled pc, outcome =>
      (l.resumeReader codec cancelled pc outcome).map fun p => (p.1, readerTask cancelled p.2)
  | .unsubscribe .closing, .completed => some l.unsubscribeJoin
  | .unsubscribe (.joining reader), .completed =>
      match l.tasks[reader]? with
      | some .finished => some l.unsubscribeRelease
      | _ => none
  | .unsubscribe .closingAgain, .completed => some ({ l with ws := none }.setRegistry .init, .finished)
  | _, _ => none

/-! ## Steps, runs and reachable states -/

/-- A call that may suspend leaves its coroutine as the next task. -/
def spawn (p : EventLoop Pubkey Record × Task Pubkey Record) : EventLoop Pubkey Record :=
  { p.1 with tasks := p.1.tasks ++ [p.2] }

def step : Event Pubkey Record → Option (EventLoop Pubkey Record)
  | .addAccount call => some (spawn (l.addAccount codec call))
  | .removeAccount P oracleId => some (l.removeAccount codec P oracleId)
  | .fetch P oracleId => some (spawn (l.fetch codec P oracleId))
  | .subscribe => some (spawn l.subscribe)
  | .unsubscribe => some (spawn l.unsubscribe)
  | .resume index outcome =>
      match l.tasks[index]? with
      | some task => (l.resumeTask codec task outcome).map fun (l, task) =>
          { l with tasks := l.tasks.set index task }
      | none => none

def run : EventLoop Pubkey Record → List (Event Pubkey Record) → Option (EventLoop Pubkey Record)
  | l, [] => some l
  | l, e :: es => (l.step codec e).bind (run · es)

/-- The states a subscriber reaches from `__init__` by any interleaving of calls and
resumptions. -/
inductive Reachable : EventLoop Pubkey Record → Prop
  | init (programDecode : Decoder Record) : Reachable (init programDecode)
  | step {l l' : EventLoop Pubkey Record} (e : Event Pubkey Record) :
      Reachable l → l.step codec e = some l' → Reachable l'

@[simp] theorem resumeTask_fetching_error (call : AddAccountCall Pubkey Record) (e : Unit) :
    l.resumeTask codec (.addAccount call .fetching) (.fetched (.error e)) = some (l, .finished) :=
  rfl

@[simp] theorem resumeTask_fetching_ok (call : AddAccountCall Pubkey Record)
    (data : Option (DataAndSlot Record)) :
    l.resumeTask codec (.addAccount call .fetching) (.fetched (.ok data)) =
      some ((l.storeSnapshot codec call data).requestSubscription call) :=
  rfl

theorem resumeTask_fetchAll (keys : List String) (results : List (Except Unit (Option (DataAndSlot Record)))) :
    l.resumeTask codec (.fetchAll keys) (.gathered results) =
      if results.length = keys.length then
        some (l.setRegistry (l.toRegistry.mergeGathered keys results), .finished)
      else none :=
  rfl

/-- Line 639: `wait_for(self.task)` returns, or raises on its timeout, only once the task it
waits for is done. -/
theorem resumeTask_joining_eq_some {reader : Nat} {outcome : Outcome Record}
    {p : EventLoop Pubkey Record × Task Pubkey Record}
    (h : l.resumeTask codec (.unsubscribe (.joining reader)) outcome = some p) :
    outcome = .completed ∧ l.tasks[reader]? = some .finished ∧ p = l.unsubscribeRelease := by
  cases outcome <;> try cases h
  delta resumeTask at h
  dsimp only at h
  split at h
  · exact ⟨rfl, ‹_›, (Option.some.inj h).symm⟩
  · cases h

theorem resumeTask_joined {reader : Nat} (h : l.tasks[reader]? = some .finished) :
    l.resumeTask codec (.unsubscribe (.joining reader)) .completed = some l.unsubscribeRelease := by
  delta resumeTask
  dsimp only
  rw [h]

/-- Line 491 and its siblings: a `CancelledError` reaches the reader only after `cancel()`. -/
theorem resumeReader_cancelled (cancelled : Bool) (pc : ReaderPc Pubkey) :
    l.resumeReader codec cancelled pc .cancelled = if cancelled then some (l.cancelAt pc) else none := by
  cases pc <;> (try cases ‹AfterClose›) <;> rfl

theorem resumeTask_reader (cancelled : Bool) (pc : ReaderPc Pubkey) (outcome : Outcome Record) :
    l.resumeTask codec (.reader cancelled pc) outcome =
      (l.resumeReader codec cancelled pc outcome).map fun p => (p.1, readerTask cancelled p.2) :=
  rfl

/-- Only a reader waiting in `recv` takes a frame (line 279), and it handles the frame
while `_running` holds. -/
theorem resumeTask_received {task : Task Pubkey Record} {msg : Msg}
    {p : EventLoop Pubkey Record × Task Pubkey Record}
    (h : l.resumeTask codec task (.received (some msg)) = some p) :
    ∃ cancelled conn, task = .reader cancelled (.receiving conn) ∧
      p.1 = if l.running then l.setRegistry (l.toRegistry.handleMsg codec msg) else l := by
  cases task
  case reader cancelled pc =>
    cases pc <;> (try cases ‹AfterClose›) <;> try cases h
    case receiving conn =>
      refine ⟨cancelled, conn, rfl, ?_⟩
      by_cases hrun : l.running <;> simp [hrun, readNext, apply_ite Prod.fst]
  all_goals (try cases ‹AddAccountPc›) <;> (try cases ‹UnsubscribePc›) <;> cases h

theorem step_resume {index : Nat} {task : Task Pubkey Record} (htask : l.tasks[index]? = some task)
    (outcome : Outcome Record) :
    l.step codec (.resume index outcome) =
      (l.resumeTask codec task outcome).map fun p => { p.1 with tasks := p.1.tasks.set index p.2 } := by
  simp only [step, htask]

/-- A resume that goes through resumed the task at its index, which took its place. -/
theorem step_resume_eq_some {index : Nat} {outcome : Outcome Record} {l' : EventLoop Pubkey Record}
    (h : l.step codec (.resume index outcome) = some l') :
    ∃ task p, l.tasks[index]? = some task ∧ l.resumeTask codec task outcome = some p ∧
      l' = { p.1 with tasks := p.1.tasks.set index p.2 } := by
  cases htask : l.tasks[index]? with
  | none => simp only [step, htask] at h; cases h
  | some task =>
    rw [step_resume codec l htask] at h
    obtain ⟨p, hp, rfl⟩ := Option.map_eq_some'.mp h
    exact ⟨task, p, rfl, hp, rfl⟩

@[simp] theorem run_nil : l.run codec [] = some l := rfl

theorem run_cons (e : Event Pubkey Record) (events : List (Event Pubkey Record)) :
    l.run codec (e :: events) = (l.step codec e).bind (·.run codec events) := rfl

theorem run_append (events events' : List (Event Pubkey Record)) :
    l.run codec (events ++ events') = (l.run codec events).bind (·.run codec events') := by
  induction events generalizing l with
  | nil => rfl
  | cons e events ih => simp only [List.cons_append, run_cons, Option.bind_assoc, ih]

theorem Reachable.run {l l' : EventLoop Pubkey Record} (h : Reachable codec l) :
    ∀ {events}, l.run codec events = some l' → Reachable codec l'
  | [], hrun => by cases hrun; exact h
  | e :: events, hrun => by
      obtain ⟨l₁, hstep, hrest⟩ := Option.bind_eq_some.mp hrun
      exact (Reachable.step e h hstep).run hrest

/-- The run of `events` from `l` goes through and ends in a state satisfying `P`. -/
def Ends (events : List (Event Pubkey Record)) (P : EventLoop Pubkey Record → Prop) : Prop :=
  ∃ l', l.run codec events = some l' ∧ P l'

instance (events : List (Event Pubkey Record)) (P : EventLoop Pubkey Record → Prop)
    [DecidablePred P] : Decidable (l.Ends codec events P) :=
  match h : l.run codec events with
  | some l' =>
      if hp : P l' then isTrue ⟨l', h, hp⟩
      else isFalse fun ⟨_, h', hp'⟩ => hp (Option.some.inj (h.symm.trans h') ▸ hp')
  | none => isFalse fun ⟨_, h', _⟩ => by rw [h] at h'; cases h'

/-- A run from `__init__` that ends in `P` exhibits a reachable state in `P`. -/
theorem Ends.reachable (programDecode : Decoder Record) (events : List (Event Pubkey Record))
    {P : EventLoop Pubkey Record → Prop} (h : (init programDecode).Ends codec events P) :
    ∃ l, Reachable codec l ∧ P l :=
  let ⟨l, hrun, hp⟩ := h
  ⟨l, (Reachable.init programDecode).run codec hrun, hp⟩

end EventLoop

end DriftSubscriber
