import JudgingServer.Callback.Client
import JudgingServer.Go.Time
import JudgingServer.Library.Table
import Mathlib.Data.List.Sort

/-! The process-local registry that coalesces duplicate judge events, and the calls
of `Process` that share it. A locked section of the registry is one step; a call
stays in its phase while it executes, publishes or waits. -/

namespace JudgingServer.Service
open Go Library Library.Table Callback

/-- An entry of the map with its key. The address stands for the pointer the calls
hold, the channel for `done`. -/
structure TaskEntry where
  key : GoString
  address : Nat
  processing : Bool
  done : Nat
  result : Option Result
  complete : Bool
  lastUsed : Instant
deriving DecidableEq, Repr

structure TaskRegistry where
  entries : List TaskEntry
  capacity : Nat
  ttl : Duration
  /-- The next address and the next channel that `claim` allocates. -/
  allocated : Nat
  closed : List Nat
deriving DecidableEq, Repr

def newTaskRegistry (capacity : Int) (ttl : Duration) : TaskRegistry where
  entries := []
  capacity := if capacity ≤ 0 then 10000 else capacity.toNat
  ttl := if ttl ≤ 0 then hour else ttl
  allocated := 0
  closed := []

namespace TaskRegistry

variable (registry : TaskRegistry)

def expired (now : Instant) (entry : TaskEntry) : Bool :=
  entry.complete && !entry.processing && decide (registry.ttl ≤ now - entry.lastUsed)

def pruneCompleted (now : Instant) : TaskRegistry :=
  { registry with entries := delete (registry.expired now) registry.entries }

/-- The loop of `evictOldestCompleted`. The empty key stands for no entry found yet,
also when it is the key of an entry. -/
def oldestCompleted : List TaskEntry → GoString × Instant → GoString × Instant
  | [], oldest => oldest
  | entry :: rest, oldest =>
    if !entry.complete || entry.processing then oldestCompleted rest oldest
    else if oldest.1 = [] ∨ entry.lastUsed < oldest.2 then oldestCompleted rest (entry.key, entry.lastUsed)
    else oldestCompleted rest oldest

def visited (order : GoString → Nat) (entries : List TaskEntry) : List TaskEntry :=
  entries.insertionSort fun first second => order first.key ≤ order second.key

def evictOldestCompleted (order : GoString → Nat) : TaskRegistry :=
  if registry.entries.length < registry.capacity then registry
  else
    let oldestKey := (oldestCompleted (visited order registry.entries) ([], 0)).1
    if oldestKey ≠ [] then { registry with entries := delete (fun entry => entry.key == oldestKey) registry.entries }
    else registry

def find (registry : TaskRegistry) (key : GoString) : Option TaskEntry :=
  registry.entries.find? fun entry => entry.key == key

/-- The assignments a locked section makes through the pointer of an entry. -/
def write (address : Nat) (change : TaskEntry → TaskEntry) : TaskRegistry :=
  { registry with entries := update (fun entry => entry.address == address) change registry.entries }

/-- What `claim` returns. -/
inductive Claim where
  | claimed (entry : Nat) (cachedResult : Option Result)
  | wait (done : Nat)
  | completed
  | full
deriving DecidableEq, Repr

def claimExisting (entry : TaskEntry) (now : Instant) : Claim × TaskRegistry :=
  if entry.complete then (.completed, registry.write entry.address fun entry => { entry with lastUsed := now })
  else if entry.processing then (.wait entry.done, registry.write entry.address fun entry => { entry with lastUsed := now })
  else
    (.claimed entry.address entry.result,
      { registry.write entry.address (fun entry => { entry with lastUsed := now, processing := true, done := registry.allocated }) with
        allocated := registry.allocated + 1 })

variable (key : GoString)

def claimNew (now : Instant) : Claim × TaskRegistry :=
  if registry.capacity ≤ registry.entries.length then (.full, registry)
  else
    let entry : TaskEntry :=
      { key, address := registry.allocated, processing := true, done := registry.allocated, result := none,
        complete := false, lastUsed := now }
    (.claimed entry.address none, { registry with entries := entry :: registry.entries, allocated := registry.allocated + 1 })

def claim (now : Instant) (order : GoString → Nat) : Claim × TaskRegistry :=
  let pruned := registry.pruneCompleted now
  match pruned.find key with
  | some entry => pruned.claimExisting entry now
  | none => (pruned.evictOldestCompleted order).claimNew key now

/-- `registry.entries[key] == entry`. -/
def current (address : Nat) : Bool :=
  (registry.find key).any fun entry => entry.address == address

def rememberResult (address : Nat) (result : Result) : TaskRegistry :=
  if registry.current key address then registry.write address fun entry => { entry with result := some result } else registry

/-- `close(entry.done)`. -/
def closeDone : List Nat :=
  ((registry.find key).map TaskEntry.done).toList ++ registry.closed

def finishExecutionFailure (address : Nat) : TaskRegistry :=
  if registry.current key address then
    { registry with entries := delete (fun entry => entry.key == key) registry.entries, closed := registry.closeDone key }
  else registry

def finishPublish (address : Nat) (complete : Bool) (now : Instant) : TaskRegistry :=
  if registry.current key address then
    { registry.write address (fun entry => { entry with processing := false, complete, lastUsed := now }) with
      closed := registry.closeDone key }
  else registry

end TaskRegistry

/-- A failed publish: what `callback.IsPermanent` says of the error, and its text. -/
structure PublishFailure where
  permanent : Bool
  text : GoString
deriving DecidableEq, Repr

/-- `publishErr == nil || callback.IsPermanent(publishErr)`. -/
def final : Option PublishFailure → Bool
  | none => true
  | some failure => failure.permanent

inductive TaskError where
  | full
  | context (text : GoString)
  | execute (text : GoString)
  | publish (failure : PublishFailure)
deriving DecidableEq, Repr

def TaskError.text : TaskError → GoString
  | .full => lit "judge task registry is full; retry after pending callbacks drain"
  | .context text => text
  | .execute text => text
  | .publish failure => failure.text

/-- Where a call of `Process` is. -/
inductive TaskPhase where
  | claiming
  | waiting (done : Nat)
  | executing (entry : Nat)
  | failing (entry : Nat) (text : GoString)
  | remembering (entry : Nat) (result : Result)
  | publishing (entry : Nat) (result : Result)
  | finishing (entry : Nat) (failure : Option PublishFailure)
  | returned (error : Option TaskError)
deriving DecidableEq, Repr

structure TaskCall where
  key : GoString
  phase : TaskPhase
deriving DecidableEq, Repr

inductive TaskRecord where
  | executed (key : GoString) (result : Result)
  | published (key : GoString) (failure : Option PublishFailure)
  | dropped (key : GoString)
deriving DecidableEq, Repr

structure TaskSystem where
  now : Instant
  registry : TaskRegistry
  calls : Nat → Option TaskCall
  history : List TaskRecord

/-- One step of one call, with what the code outside the registry answers. -/
inductive TaskEvent where
  | elapse (duration : Nat)
  | call (caller : Nat) (key : GoString)
  | claim (caller : Nat) (order : GoString → Nat)
  | wake (caller : Nat)
  | cancel (caller : Nat) (text : GoString)
  | execute (caller : Nat) (outcome : Except GoString Result)
  | fail (caller : Nat)
  | remember (caller : Nat)
  | publish (caller : Nat) (failure : Option PublishFailure)
  | finish (caller : Nat)

def TaskEvent.caller? : TaskEvent → Option Nat
  | .elapse _ => none
  | .call caller _ | .claim caller _ | .wake caller | .cancel caller _ | .execute caller _ | .fail caller | .remember caller
  | .publish caller _ | .finish caller => some caller

namespace TaskSystem

def move (system : TaskSystem) (caller : Nat) (call : TaskCall) (phase : TaskPhase) : TaskSystem :=
  { system with calls := Function.update system.calls caller (some { call with phase }) }

def claimPhase : TaskRegistry.Claim → TaskPhase
  | .claimed entry (some result) => .publishing entry result
  | .claimed entry none => .executing entry
  | .wait done => .waiting done
  | .completed => .returned none
  | .full => .returned (some .full)

def dropped (before after : TaskRegistry) : List TaskRecord :=
  (before.entries.filter fun entry => after.entries.all fun kept => kept.address != entry.address).map
    fun entry => .dropped entry.key

/-- The step of a call in its phase; an event that does not fit the phase changes nothing. -/
def advance (system : TaskSystem) (caller : Nat) (call : TaskCall) : TaskEvent → TaskPhase → TaskSystem
  | .claim _ order, .claiming =>
    let (outcome, registry) := system.registry.claim call.key system.now order
    { system with registry, history := dropped system.registry registry ++ system.history }.move caller call (claimPhase outcome)
  | .wake _, .waiting done => if done ∈ system.registry.closed then system.move caller call .claiming else system
  | .cancel _ text, .waiting _ => system.move caller call (.returned (some (.context text)))
  | .execute _ (.ok result), .executing entry =>
    { system with history := .executed call.key result :: system.history }.move caller call (.remembering entry result)
  | .execute _ (.error text), .executing entry => system.move caller call (.failing entry text)
  | .fail _, .failing entry text =>
    { system with registry := system.registry.finishExecutionFailure call.key entry }.move caller call
      (.returned (some (.execute text)))
  | .remember _, .remembering entry result =>
    { system with registry := system.registry.rememberResult call.key entry result }.move caller call (.publishing entry result)
  | .publish _ failure, .publishing entry _ =>
    { system with history := .published call.key failure :: system.history }.move caller call (.finishing entry failure)
  | .finish _, .finishing entry failure =>
    { system with registry := system.registry.finishPublish call.key entry (final failure) system.now }.move caller call
      (.returned (failure.map .publish))
  | _, _ => system

def step (event : TaskEvent) (system : TaskSystem) : TaskSystem :=
  match event with
  | .elapse duration => { system with now := system.now + duration }
  | .call caller key =>
    match system.calls caller with
    | none => system.move caller { key, phase := .claiming } .claiming
    | some _ => system
  | event =>
    match event.caller? with
    | none => system
    | some caller =>
      match system.calls caller with
      | none => system
      | some call => system.advance caller call event call.phase

def start (capacity : Int) (ttl : Duration) (now : Instant) : TaskSystem where
  now
  registry := newTaskRegistry capacity ttl
  calls := fun _ => none
  history := []

end TaskSystem
end JudgingServer.Service
