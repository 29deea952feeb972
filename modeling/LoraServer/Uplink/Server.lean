import LoraServer.Gw

/-!
# Shutdown of the uplink server

`Server.Start` spawns two goroutines: one ranges over the uplink frames of the gateway backend
(`HandleUplinkFrames`), the other over its downlink TX acknowledgements
(`HandleDownlinkTXAcks`), and each spawns a goroutine per message. Every one of these
goroutines runs `wg.Add(1)` as its first statement and the deferred `wg.Done()` when it returns.
`Server.Stop` closes the backend, which closes both channels, and calls `wg.Wait()`.

The model is a step function over the state of all these goroutines, the wait group, the two
channels and `Stop`, and a run is a schedule of events, each one atomic step of one goroutine or
of the backend. The handling of a message is a single step: what it does is the subject of the
join downlink and of the acknowledgement handler, not of the shutdown.

The wait group is modelled as package `sync` implements it, by one state word that holds the
counter and the number of registered waiters and that atomic operations change. `Add` adds to
the counter and then checks what it read: a negative counter panics, and so does an `Add` that
raises the counter from zero while a waiter is registered. A `Done` that brings the counter to
zero while a waiter is registered then resets the word and wakes the waiter, in a step of its
own. `Wait` returns at once when the counter is zero; otherwise it registers as a waiter and
sleeps, and once woken it panics unless the word is still zero. A panic ends the program: no
goroutine takes a step after it.

The counter always equals the number of goroutines between their `Add` and their `Done`, so it
never goes negative and `Wait` returns only when no goroutine is there. A goroutine that was
spawned but has not yet run its `Add` is not counted, and `Wait` may return before it has run.
-/

namespace LoraServer.Uplink

/-- Where a goroutine of the server stands: spawned by a `go` statement and not yet past its
`wg.Add(1)`; between that `Add` and its deferred `wg.Done()`; inside a `Done` that brought the
counter to zero while `Wait` was registered, and has still to wake it; or returned. -/
inductive Phase where
  | spawned
  | added
  | releasing
  | returned
  deriving DecidableEq, Repr

/-- The two channels of the gateway backend, `RXPacketChan` and `DownlinkTXAckChan`. -/
inductive Source where
  | uplinkFrames
  | downlinkTXAcks
  deriving DecidableEq, Repr

/-- A consumer goroutine of `Start`, and the messages waiting in the channel it ranges over. -/
structure Consumer where
  phase : Phase
  buffered : Nat
  deriving DecidableEq, Repr

/-- How far `Stop` has got: not called; the backend closed and `wg.Wait()` called; `Wait`
registered as a waiter and asleep; `Wait` woken by the last `Done`; `Wait` returned and `Stop`
returned nil; `Close` failed and `Stop` returned its error. -/
inductive StopPhase where
  | notCalled
  | waiting
  | blocked
  | released
  | returned
  | failed
  deriving DecidableEq, Repr

/-- The panics of `sync.WaitGroup`. -/
inductive WaitGroupPanic where
  /-- `sync: negative WaitGroup counter` -/
  | negativeCounter
  /-- `sync: WaitGroup misuse: Add called concurrently with Wait` -/
  | addCalledConcurrentlyWithWait
  /-- `sync: WaitGroup is reused before previous Wait has returned` -/
  | reusedBeforePreviousWaitReturned
  deriving DecidableEq, Repr

/-- The goroutines of the server, the counter and the waiters of its wait group, the backend's
channels, `Stop`, and the panic that ended the program, if one did. The tasks are the
goroutines spawned for messages, in the order they were spawned. -/
structure State where
  counter : Int
  uplinkFrames : Consumer
  downlinkTXAcks : Consumer
  closed : Bool
  tasks : List Phase
  stop : StopPhase
  waiters : Nat
  panicked : Option WaitGroupPanic
  deriving DecidableEq, Repr

/-- A goroutine of the server: the consumer of a channel, or the goroutine spawned for the
`i`-th message received. -/
inductive Goroutine where
  | consumer (source : Source)
  | task (i : Nat)
  deriving DecidableEq, Repr

namespace State

/-- The consumer of a channel. -/
def consumer (st : State) : Source → Consumer
  | .uplinkFrames => st.uplinkFrames
  | .downlinkTXAcks => st.downlinkTXAcks

/-- The state with another consumer for a channel. -/
def setConsumer (st : State) : Source → Consumer → State
  | .uplinkFrames, c => { st with uplinkFrames := c }
  | .downlinkTXAcks, c => { st with downlinkTXAcks := c }

/-- The state with another phase for a task. -/
def setTask (st : State) (i : Nat) (phase : Phase) : State :=
  { st with tasks := st.tasks.set i phase }

/-- The phase of a goroutine, if there is such a goroutine. -/
def phaseOf (st : State) : Goroutine → Option Phase
  | .consumer source => some (st.consumer source).phase
  | .task i => st.tasks[i]?

/-- The state with another phase for a goroutine. -/
def setPhase (st : State) : Goroutine → Phase → State
  | .consumer source, phase => st.setConsumer source { st.consumer source with phase }
  | .task i, phase => st.setTask i phase

/-- A `go` statement for a message: a new task, not yet past its `Add`. -/
def spawn (st : State) : State := { st with tasks := st.tasks ++ [.spawned] }

/-- The atomic add to the counter of `wg.Add(delta)`; `wg.Done()` is `wg.Add(-1)`. -/
def wgAdd (st : State) (delta : Int) : State := { st with counter := st.counter + delta }

/-- The phases of all goroutines of the server: the two consumers, then the tasks. -/
def phases (st : State) : List Phase :=
  st.uplinkFrames.phase :: st.downlinkTXAcks.phase :: st.tasks

end State

/-- The checks `wg.Add(delta)` makes on the counter `v` and the waiters `w` of the state word
it has just changed: it panics, or it returns (`false`), or it has brought the counter to zero
while a waiter is registered and goes on to wake the waiters (`true`). -/
def addVerdict (v : Int) (w : Nat) (delta : Int) : Except WaitGroupPanic Bool :=
  if v < 0 then .error .negativeCounter
  else if w ≠ 0 ∧ 0 < delta ∧ v = delta then .error .addCalledConcurrentlyWithWait
  else if 0 < v ∨ w = 0 then .ok false
  else .ok true

section Verdict

variable {v : Int} {w : Nat} {delta : Int}

theorem addVerdict_eq_error {p : WaitGroupPanic} (verdict : addVerdict v w delta = .error p) :
    v < 0 ∧ p = .negativeCounter ∨
      0 ≤ v ∧ w ≠ 0 ∧ 0 < delta ∧ v = delta ∧ p = .addCalledConcurrentlyWithWait := by
  unfold addVerdict at verdict
  split_ifs at verdict with negative concurrent <;> cases verdict
  · exact .inl ⟨negative, rfl⟩
  · exact .inr ⟨by omega, concurrent.1, concurrent.2.1, concurrent.2.2, rfl⟩

theorem addVerdict_eq_ok_false (verdict : addVerdict v w delta = .ok false) : 0 < v ∨ w = 0 := by
  unfold addVerdict at verdict
  split_ifs at verdict with negative concurrent returns <;> cases verdict
  exact returns

theorem addVerdict_eq_ok_true (verdict : addVerdict v w delta = .ok true) : v = 0 ∧ w ≠ 0 := by
  unfold addVerdict at verdict
  split_ifs at verdict with negative concurrent returns <;> cases verdict
  omega

end Verdict

namespace State

/-- A goroutine runs `wg.Add(delta)`: the atomic add, then the checks on what it read. After a
panic the program is over; otherwise the goroutine goes on to `next`, or to `.releasing` when it
has to wake the waiters. -/
def add (st : State) (g : Goroutine) (delta : Int) (next : Phase) : State :=
  match addVerdict (st.counter + delta) st.waiters delta with
  | .error p => { st with panicked := some p }
  | .ok false => (st.setPhase g next).wgAdd delta
  | .ok true => (st.setPhase g .releasing).wgAdd delta

/-- The statements `wg.state.Store(0)` and `runtime_Semrelease`, once per waiter: the word is
cleared, and `Wait`, the server's only waiter, is woken if it sleeps. -/
def wake (st : State) : State :=
  { st with waiters := 0, stop := if st.stop = .blocked then .released else st.stop }

/-- The rest of a `Done` that brought the counter to zero while `Wait` was registered. It panics
if `wg.state.Load() != state`, which only an `Add` made since can cause, and an `Add` changes
only the counter; otherwise it wakes the waiters and returns. -/
def release (st : State) (g : Goroutine) : State :=
  if st.counter = 0 then (st.setPhase g .returned).wake
  else { st with panicked := some .addCalledConcurrentlyWithWait }

variable (st : State) (g : Goroutine) (source : Source) (c : Consumer) (i : Nat) (phase : Phase)
  (delta : Int)

@[simp]
theorem consumer_setConsumer (other : Source) :
    (st.setConsumer source c).consumer other = if other = source then c else st.consumer other := by
  cases source <;> cases other <;> rfl

@[simp]
theorem counter_setConsumer : (st.setConsumer source c).counter = st.counter := by
  cases source <;> rfl

@[simp]
theorem closed_setConsumer : (st.setConsumer source c).closed = st.closed := by cases source <;> rfl

@[simp]
theorem stop_setConsumer : (st.setConsumer source c).stop = st.stop := by cases source <;> rfl

@[simp]
theorem tasks_setConsumer : (st.setConsumer source c).tasks = st.tasks := by cases source <;> rfl

@[simp]
theorem waiters_setConsumer : (st.setConsumer source c).waiters = st.waiters := by
  cases source <;> rfl

@[simp]
theorem panicked_setConsumer : (st.setConsumer source c).panicked = st.panicked := by
  cases source <;> rfl

@[simp]
theorem consumer_setTask : (st.setTask i phase).consumer source = st.consumer source := by
  cases source <;> rfl

@[simp]
theorem tasks_setTask : (st.setTask i phase).tasks = st.tasks.set i phase := rfl

@[simp]
theorem consumer_spawn : st.spawn.consumer source = st.consumer source := by cases source <;> rfl

@[simp]
theorem tasks_spawn : st.spawn.tasks = st.tasks ++ [.spawned] := rfl

@[simp]
theorem counter_spawn : st.spawn.counter = st.counter := rfl

@[simp]
theorem closed_spawn : st.spawn.closed = st.closed := rfl

@[simp]
theorem stop_spawn : st.spawn.stop = st.stop := rfl

@[simp]
theorem waiters_spawn : st.spawn.waiters = st.waiters := rfl

@[simp]
theorem panicked_spawn : st.spawn.panicked = st.panicked := rfl

@[simp]
theorem consumer_wgAdd : (st.wgAdd delta).consumer source = st.consumer source := by
  cases source <;> rfl

@[simp]
theorem counter_wgAdd : (st.wgAdd delta).counter = st.counter + delta := rfl

@[simp]
theorem closed_wgAdd : (st.wgAdd delta).closed = st.closed := rfl

@[simp]
theorem stop_wgAdd : (st.wgAdd delta).stop = st.stop := rfl

@[simp]
theorem waiters_wgAdd : (st.wgAdd delta).waiters = st.waiters := rfl

@[simp]
theorem panicked_wgAdd : (st.wgAdd delta).panicked = st.panicked := rfl

@[simp]
theorem tasks_wgAdd : (st.wgAdd delta).tasks = st.tasks := rfl

@[simp]
theorem phases_spawn : st.spawn.phases = st.phases ++ [.spawned] := rfl

@[simp]
theorem phases_wgAdd : (st.wgAdd delta).phases = st.phases := rfl

@[simp]
theorem counter_setPhase : (st.setPhase g phase).counter = st.counter := by
  cases g <;> simp [setPhase, setTask]

@[simp]
theorem closed_setPhase : (st.setPhase g phase).closed = st.closed := by
  cases g <;> simp [setPhase, setTask]

@[simp]
theorem stop_setPhase : (st.setPhase g phase).stop = st.stop := by
  cases g <;> simp [setPhase, setTask]

@[simp]
theorem waiters_setPhase : (st.setPhase g phase).waiters = st.waiters := by
  cases g <;> simp [setPhase, setTask]

@[simp]
theorem panicked_setPhase : (st.setPhase g phase).panicked = st.panicked := by
  cases g <;> simp [setPhase, setTask]

@[simp]
theorem length_tasks_setPhase : (st.setPhase g phase).tasks.length = st.tasks.length := by
  cases g <;> simp [setPhase]

theorem consumer_setPhase :
    (st.setPhase g phase).consumer source =
      if g = .consumer source then { st.consumer source with phase } else st.consumer source := by
  cases g with
  | consumer other =>
    by_cases same : other = source
    · subst same
      simp [setPhase]
    · simp [setPhase, Ne.symm same, same]
  | task => simp [setPhase]

/-- How many goroutines are in a phase after a consumer changed. -/
theorem count_phases_setConsumer (p : Phase) :
    (st.setConsumer source c).phases.count p + (if (st.consumer source).phase = p then 1 else 0) =
      st.phases.count p + if c.phase = p then 1 else 0 := by
  cases source <;> simp only [phases, setConsumer, consumer, List.count_cons, beq_iff_eq] <;>
    split_ifs <;> omega

/-- How many goroutines are in a phase after a task changed. -/
theorem count_phases_setTask {old : Phase} (found : st.tasks[i]? = some old) (p : Phase) :
    (st.setTask i phase).phases.count p + (if old = p then 1 else 0) =
      st.phases.count p + if phase = p then 1 else 0 := by
  obtain ⟨lt, get⟩ := List.getElem?_eq_some.mp found
  have le := List.boole_getElem_le_count p st.tasks i lt
  simp only [phases, setTask, List.count_cons, List.count_set _ _ _ _ lt, get, beq_iff_eq] at le ⊢
  split_ifs at le ⊢ <;> omega

/-- How many goroutines are in a phase after one goroutine changed its phase. -/
theorem count_phases_setPhase {old : Phase} (found : st.phaseOf g = some old) (p : Phase) :
    (st.setPhase g phase).phases.count p + (if old = p then 1 else 0) =
      st.phases.count p + if phase = p then 1 else 0 := by
  cases g with
  | consumer source =>
    obtain rfl := Option.some.inj found
    exact st.count_phases_setConsumer source _ p
  | task i => exact st.count_phases_setTask i phase found p

/-- A goroutine that exists takes the phase it is given. -/
theorem phaseOf_setPhase {old : Phase} (found : st.phaseOf g = some old) :
    (st.setPhase g phase).phaseOf g = some phase := by
  cases g with
  | consumer source => cases source <;> rfl
  | task i =>
    obtain ⟨lt, -⟩ := List.getElem?_eq_some.mp found
    simp [phaseOf, setPhase, lt]

/-- A goroutine in a phase is one of the phases of the server. -/
theorem mem_phases_of_phaseOf {p : Phase} (found : st.phaseOf g = some p) : p ∈ st.phases := by
  cases g with
  | consumer source =>
    obtain rfl := Option.some.inj found
    cases source <;> simp [phases, consumer]
  | task i =>
    exact List.mem_cons_of_mem _ (List.mem_cons_of_mem _ (List.mem_iff_getElem?.mpr ⟨i, found⟩))

variable (next : Phase)

@[simp]
theorem closed_add : (st.add g delta next).closed = st.closed := by
  unfold add
  split <;> simp

@[simp]
theorem length_tasks_add : (st.add g delta next).tasks.length = st.tasks.length := by
  unfold add
  split <;> simp

@[simp]
theorem buffered_consumer_add :
    ((st.add g delta next).consumer source).buffered = (st.consumer source).buffered := by
  unfold add
  split
  · cases source <;> rfl
  all_goals
    rw [consumer_wgAdd, consumer_setPhase]
    split_ifs <;> rfl

@[simp]
theorem consumer_wake : st.wake.consumer source = st.consumer source := by cases source <;> rfl

@[simp]
theorem counter_wake : st.wake.counter = st.counter := rfl

@[simp]
theorem closed_wake : st.wake.closed = st.closed := rfl

@[simp]
theorem tasks_wake : st.wake.tasks = st.tasks := rfl

@[simp]
theorem phases_wake : st.wake.phases = st.phases := rfl

@[simp]
theorem panicked_wake : st.wake.panicked = st.panicked := rfl

@[simp]
theorem waiters_wake : st.wake.waiters = 0 := rfl

@[simp]
theorem stop_wake : st.wake.stop = if st.stop = .blocked then .released else st.stop := rfl

@[simp]
theorem closed_release : (st.release g).closed = st.closed := by
  unfold release
  split <;> simp

@[simp]
theorem length_tasks_release : (st.release g).tasks.length = st.tasks.length := by
  unfold release
  split <;> simp

@[simp]
theorem buffered_consumer_release :
    ((st.release g).consumer source).buffered = (st.consumer source).buffered := by
  unfold release
  split
  · rw [consumer_wake, consumer_setPhase]
    split_ifs <;> rfl
  · cases source <;> rfl

@[simp]
theorem phases_setConsumer_buffered (n : Nat) :
    (st.setConsumer source { st.consumer source with buffered := n }).phases = st.phases := by
  cases source <;> rfl

end State

/-- One atomic step of a goroutine or of the backend. -/
inductive Event where
  /-- A goroutine of `Start` runs `s.wg.Add(1)`. -/
  | consumerAdd (source : Source)
  /-- The backend puts a message on a channel. -/
  | publish (source : Source)
  /-- A `range` loop receives a message and spawns the goroutine that handles it. -/
  | receive (source : Source)
  /-- A `range` loop ends on its closed and drained channel, and the deferred `Done` runs. -/
  | consumerDone (source : Source)
  /-- The `Done` of a goroutine of `Start` wakes `Wait`. -/
  | consumerRelease (source : Source)
  /-- The goroutine of a message runs `wg.Add(1)`. -/
  | taskAdd (task : Nat)
  /-- The goroutine of a message returns, and its deferred `Done` runs. -/
  | taskDone (task : Nat)
  /-- The `Done` of the goroutine of a message wakes `Wait`. -/
  | taskRelease (task : Nat)
  /-- `Stop` calls `Close` on the backend, which fails or closes both channels. -/
  | close (failed : Bool)
  /-- `Stop`'s `wg.Wait()` finds the counter above zero, registers as a waiter and sleeps. -/
  | waitBlock
  /-- `Stop`'s `wg.Wait()` returns: it found the counter at zero, or it was woken and found the
  state word still zero. -/
  | waitReturn
  /-- `Stop`'s `wg.Wait()` was woken and finds the state word no longer zero: it panics. -/
  | waitReused
  deriving DecidableEq, Repr

section Goroutines

variable (st : State) (g : Goroutine)

/-- A goroutine that has still to run its `wg.Add(1)` runs it. -/
def addStep : Option State :=
  if st.phaseOf g = some .spawned then some (st.add g 1 .added) else none

/-- A goroutine between its `Add` and its `Done` returns, and its deferred `wg.Done()` runs. -/
def doneStep : Option State :=
  if st.phaseOf g = some .added then some (st.add g (-1) .returned) else none

/-- A goroutine whose `Done` has to wake `Wait` does so. -/
def releaseStep : Option State :=
  if st.phaseOf g = some .releasing then some (st.release g) else none

end Goroutines

/-- The step of an event, or `none` when the event cannot happen in the state; after a panic
no event can. -/
def step (st : State) (e : Event) : Option State :=
  if st.panicked = none then
    match e with
    | .consumerAdd source => addStep st (.consumer source)
    | .publish source =>
      let c := st.consumer source
      if st.closed then none else some (st.setConsumer source { c with buffered := c.buffered + 1 })
    | .receive source =>
      let c := st.consumer source
      if c.phase = .added ∧ 0 < c.buffered then
        some (st.setConsumer source { c with buffered := c.buffered - 1 }).spawn
      else none
    | .consumerDone source =>
      if st.closed ∧ (st.consumer source).buffered = 0 then doneStep st (.consumer source)
      else none
    | .consumerRelease source => releaseStep st (.consumer source)
    | .taskAdd i => addStep st (.task i)
    | .taskDone i => doneStep st (.task i)
    | .taskRelease i => releaseStep st (.task i)
    | .close failed =>
      if st.stop = .notCalled then
        some (if failed then { st with stop := .failed }
          else { st with closed := true, stop := .waiting })
      else none
    | .waitBlock =>
      if st.stop = .waiting ∧ st.counter ≠ 0 then
        some { st with waiters := st.waiters + 1, stop := .blocked }
      else none
    | .waitReturn =>
      if st.stop = .waiting ∧ st.counter = 0 ∨
          st.stop = .released ∧ st.counter = 0 ∧ st.waiters = 0 then
        some { st with stop := .returned }
      else none
    | .waitReused =>
      if st.stop = .released ∧ ¬(st.counter = 0 ∧ st.waiters = 0) then
        some { st with panicked := some .reusedBeforePreviousWaitReturned }
      else none
  else none

/-- The state after a schedule of events, or `none` when one of them cannot happen. -/
def run (st : State) : List Event → Option State
  | [] => some st
  | e :: es => (step st e).bind fun st' => run st' es

/-- The state `Start` leaves: both consumer goroutines spawned, the wait group's word zero. -/
def initial : State := ⟨0, ⟨.spawned, 0⟩, ⟨.spawned, 0⟩, false, [], .notCalled, 0, none⟩

/-- A property every step keeps holds after every schedule. -/
theorem run_preserves {P : State → Prop}
    (preserved : ∀ {st st' : State} {e : Event}, step st e = some st' → P st → P st')
    {st st' : State} {es : List Event} (ran : run st es = some st') (holds : P st) : P st' := by
  induction es generalizing st with
  | nil =>
    cases ran
    exact holds
  | cons e es ih =>
    obtain ⟨middle, stepped, rest⟩ := Option.bind_eq_some.mp ran
    exact ih rest (preserved stepped holds)

/-- The number of goroutines between their `Add` and their `Done`. -/
def State.pending (st : State) : Nat := st.phases.count .added

/-- The wait group's counter is the number of goroutines between their `Add` and their
`Done`. -/
def Counted (st : State) : Prop := st.counter = st.pending

namespace State

variable (st : State) (g : Goroutine)

@[simp]
theorem pending_wgAdd (delta : Int) : (st.wgAdd delta).pending = st.pending := rfl

@[simp]
theorem pending_spawn : st.spawn.pending = st.pending := by
  simp [pending, List.count_append]

theorem pending_setPhase {old : Phase} (phase : Phase) (found : st.phaseOf g = some old) :
    ((st.setPhase g phase).pending : Int) =
      st.pending - (if old = .added then 1 else 0) + (if phase = .added then 1 else 0) := by
  have moved := st.count_phases_setPhase g phase found .added
  unfold pending
  split_ifs at moved ⊢ <;> omega

@[simp]
theorem pending_setConsumer_buffered (source : Source) (n : Nat) :
    (st.setConsumer source { st.consumer source with buffered := n }).pending = st.pending := by
  simp [pending]

end State

variable {st st' : State} {g : Goroutine}

theorem Counted.nonneg (counted : Counted st) : 0 ≤ st.counter :=
  counted ▸ Int.ofNat_nonneg _

/-- An `Add` of a goroutine that had not run it counts the goroutine. -/
theorem Counted.add_one (counted : Counted st) (found : st.phaseOf g = some .spawned) :
    Counted (st.add g 1 .added) := by
  have moved := st.pending_setPhase g .added found
  unfold State.add
  split
  · exact counted
  · unfold Counted at counted ⊢
    rw [State.counter_wgAdd, State.pending_wgAdd, State.counter_setPhase, moved, counted]
    simp
  · rename_i verdict
    have := (addVerdict_eq_ok_true verdict).1
    have := counted.nonneg
    omega

/-- The `Done` of a goroutine between `Add` and `Done` stops counting it. -/
theorem Counted.done (counted : Counted st) (found : st.phaseOf g = some .added) :
    Counted (st.add g (-1) .returned) := by
  unfold State.add
  split
  · exact counted
  all_goals
    unfold Counted at counted ⊢
    rw [State.counter_wgAdd, State.pending_wgAdd, State.counter_setPhase,
      st.pending_setPhase g _ found, counted]
    simp only [if_true, reduceCtorEq, if_false]
    omega

/-- Waking `Wait` changes no count. -/
theorem Counted.release (counted : Counted st) (found : st.phaseOf g = some .releasing) :
    Counted (st.release g) := by
  unfold State.release
  split
  · unfold Counted at counted ⊢
    show (st.setPhase g .returned).counter = (st.setPhase g .returned).pending
    rw [State.counter_setPhase, st.pending_setPhase g .returned found, counted]
    simp
  · exact counted

/-- Every step keeps the counter equal to the number of goroutines between `Add` and `Done`. -/
theorem step_counted {e : Event} (stepped : step st e = some st') (counted : Counted st) :
    Counted st' := by
  cases e <;>
    simp only [step, addStep, doneStep, releaseStep, Option.ite_none_right_eq_some,
      Option.ite_none_left_eq_some, Option.some.injEq] at stepped
  case consumerAdd | taskAdd =>
    obtain ⟨-, found, rfl⟩ := stepped
    exact counted.add_one found
  case consumerDone =>
    obtain ⟨-, -, found, rfl⟩ := stepped
    exact counted.done found
  case taskDone =>
    obtain ⟨-, found, rfl⟩ := stepped
    exact counted.done found
  case consumerRelease | taskRelease =>
    obtain ⟨-, found, rfl⟩ := stepped
    exact counted.release found
  case publish | receive =>
    obtain ⟨-, -, rfl⟩ := stepped
    simpa [Counted] using counted
  case close failed =>
    obtain ⟨-, -, rfl⟩ := stepped
    split <;> exact counted
  all_goals obtain ⟨-, -, rfl⟩ := stepped; exact counted

theorem run_counted {es : List Event} (ran : run st es = some st') (counted : Counted st) :
    Counted st' :=
  run_preserves step_counted ran counted

/-- `Stop` can return while goroutines it should have waited for have not run. The consumer of
the uplink frames received a frame and spawned its goroutine; the backend was closed, both
consumers returned, and `Wait` found the counter at zero before the frame's goroutine ran its
`Add`. Earlier still, `Stop` can return before either goroutine of `Start` has run. -/
theorem stop_returns_before_spawned_goroutines_run :
    run initial [.consumerAdd .uplinkFrames, .consumerAdd .downlinkTXAcks, .publish .uplinkFrames,
        .receive .uplinkFrames, .close false, .consumerDone .uplinkFrames,
        .consumerDone .downlinkTXAcks, .waitReturn] =
      some ⟨0, ⟨.returned, 0⟩, ⟨.returned, 0⟩, true, [.spawned], .returned, 0, none⟩ ∧
    run initial [.close false, .waitReturn] =
      some ⟨0, ⟨.spawned, 0⟩, ⟨.spawned, 0⟩, true, [], .returned, 0, none⟩ :=
  ⟨rfl, rfl⟩

end LoraServer.Uplink
