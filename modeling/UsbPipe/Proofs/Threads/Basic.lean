/-
Threads that share one manager.

Any number of threads scan, open, close, transfer and shut down at the same time.  Two
locks order what they do.  The *scan lock* is held for the whole of a scan, an open or a
teardown, and while a thread has it the others go on with everything that does not need
it.  The *registry lock* is held for a moment only, so that what happens under it is one
step: entering or removing an open channel, and the test of a shutdown together with the
decision to wait.  A step is what a thread does between two points at which another may
come in; it runs the operations of the manager themselves.

* `Job`, `Outcome`, `Stage`: what a thread asks for, what it gets, and how far it is.
* `State`: the manager, the owner of the scan lock and the stage of every thread.
* `advance`: what the owner of the scan lock does next.
* `Checked`: what a shutdown does after it has looked at the open channels.
* `Step`, `Run`: one step of one thread, or of the world outside, with what shows of it;
  a run of steps.
-/
import UsbPipe.Proofs.Threads.Calls

namespace UsbPipe.Threads

open Usb Manager

/-! ### Stages -/

/-- What a thread needs the scan lock for. -/
inductive Job where
  | scan (filter : Filter)
  | enumerate (filter : Filter)
  | open (info : RawInterface)
  | teardown

/-- What a thread gets back. -/
inductive Outcome (δ : Type) where
  | scanned (scan : Scan δ)
  | enumerated (result : Except UsbError (List (Found δ)))
  | opened (result : Except UsbError Opened)
  | closed (result : Except UsbError Unit)
  | stopped (result : Except UsbError Unit)

/-- A job that was refused at the entry. -/
def Job.refused {δ : Type} (e : UsbError) : Job → Outcome δ
  | scan _ => .scanned ⟨[], some e⟩
  | enumerate _ => .enumerated (.error e)
  | «open» _ => .opened (.error e)
  | teardown => .stopped (.error e)

/-- The records that an outcome leaves with the user. -/
def Outcome.records {δ : Type} : Outcome δ → List (Found δ)
  | scanned scan => scan.found
  | enumerated (.ok found) => found
  | _ => []

/-- How far a thread is.  From `locked` to `leaving` and `parting` it has the scan lock. -/
inductive Stage (δ η : Type) where
  /-- Outside all operations. -/
  | idle
  /-- Before the scan lock. -/
  | entering (job : Job)
  /-- Behind it. -/
  | locked (job : Job)
  /-- On an initialised native layer, with the flag down when it was looked at. -/
  | ready (job : Job)
  /-- The record to open was found. -/
  | resolved (f : Found δ)
  /-- Its interface was claimed. -/
  | claimed (c : Claimed δ η)
  /-- The claimed interface was registered under an id. -/
  | registered (c : Claimed δ η) (id : ℕ)
  /-- The registration was refused. -/
  | refused (c : Claimed δ η) (e : UsbError)
  /-- Nothing is left to do but to give the lock back. -/
  | leaving (outcome : Outcome δ)
  /-- The same after a scan that has to be complete. -/
  | parting (scan : Scan δ)
  /-- The records of an incomplete scan are given back, without the lock. -/
  | discarding (found : List (Found δ)) (e : UsbError)
  /-- The channel is closed but still registered. -/
  | closing (id : ℕ) (info : RawInterface) (result : Except UsbError Unit)
  /-- A shutdown that waits for open channels, forever or for some time, and whether it was
  told that one was closed. -/
  | waiting (timed notified : Bool)

namespace Stage

variable {δ η : Type}

/-- Whether the thread has the scan lock. -/
def isInside : Stage δ η → Bool
  | locked _ | ready _ | resolved _ | claimed _ | registered _ _ | refused _ _ | leaving _
  | parting _ => true
  | _ => false

/-- Whether the thread is about to tear the native layer down. -/
def isStopping : Stage δ η → Bool
  | entering .teardown | locked .teardown => true
  | _ => false

/-- The native handle that is in the hands of the thread and in no channel. -/
def handles : Stage δ η → List η
  | claimed c | registered c _ | refused c _ => [c.native]
  | _ => []

/-- The stage of a thread after a channel was closed: shutdowns are told. -/
def notified : Stage δ η → Stage δ η
  | waiting timed _ => waiting timed true
  | stage => stage

/-- After one thread moved on, a thread is where that one went, or where it was. -/
lemma update_cases {stage : ℕ → Stage δ η} {t u : ℕ} {a b : Stage δ η}
    (h : Function.update stage t b u = a) : b = a ∨ stage u = a := by
  by_cases hu : u = t
  · rw [hu, Function.update_self] at h
    exact Or.inl h
  · rw [Function.update_of_ne hu] at h
    exact Or.inr h

end Stage

/-! ### The state -/

/-- A manager of a watched native layer and the threads that share it.  `records` are in the
hands of users. -/
structure State (σ δ η : Type) where
  manager : Manager (Watched σ η) δ η
  owner? : Option ℕ := none
  stage : ℕ → Stage δ η := fun _ => .idle
  records : List (Found δ) := []

namespace State

variable {σ δ η : Type}

/-- Idle threads around an untouched manager. -/
def start (layer : σ) : State σ δ η := { manager := .ofPlatform ⟨layer, []⟩ }

/-- A thread in another stage, with another manager. -/
def put (s : State σ δ η) (t : ℕ) (stage : Stage δ η) (m : Manager (Watched σ η) δ η) :
    State σ δ η :=
  { s with manager := m, stage := Function.update s.stage t stage }

/-- The calls that the native layer has got. -/
def calls (s : State σ δ η) : List (Call η) := s.manager.platform.calls

end State

/-- What shows of a step. -/
inductive Notice (δ : Type) where
  /-- An open is entered among the open channels. -/
  | registered (thread id : ℕ)
  /-- An operation returns. -/
  | returned (thread : ℕ) (outcome : Outcome δ)

/-! ### Steps -/

section Steps

variable {σ δ η : Type} [Platform σ δ η]

/-- What the owner of the scan lock does next, and the manager after it. -/
def advance (m : Manager (Watched σ η) δ η) :
    Stage δ η → Option (Stage δ η × Manager (Watched σ η) δ η)
  | .locked .teardown => some (.leaving (.stopped (.ok ())), m.teardown)
  | .locked job =>
    match m.ready with
    | (.error e, m) => some (.leaving (job.refused e), m)
    | (.ok (), m) => some (.ready job, m)
  | .ready (.scan filter) =>
    let (scan, m) := m.walk filter
    some (.leaving (.scanned scan), m)
  | .ready (.enumerate filter) =>
    let (scan, m) := m.walk filter
    some (.parting scan, m)
  | .ready (.open info) =>
    match m.resolve info with
    | (.error e, m) => some (.leaving (.opened (.error e)), m)
    | (.ok f, m) => some (.resolved f, m)
  | .resolved f =>
    match m.claimFound id f with
    | (.error e, m) => some (.leaving (.opened (.error e)), m)
    | (.ok c, m) => some (.claimed c, m)
  | .claimed c =>
    match m.register with
    | (.error e, m) => some (.refused c e, m)
    | (.ok id, m) => some (.registered c id, m)
  | .registered c id => some (.leaving (.opened (.ok ⟨id, c.info⟩)), m.establish c id)
  | .refused c e => some (.leaving (.opened (.error e)), m.abandon c)
  | _ => none

/-- What shows when a thread reaches a stage inside the scan lock. -/
def shown (t : ℕ) : Stage δ η → List (Notice δ)
  | .registered _ id => [.registered t id]
  | _ => []

/-- A shutdown without a limit notes that it waits. -/
def noteWait (m : Manager (Watched σ η) δ η) (timed : Bool) : Manager (Watched σ η) δ η :=
  if timed then m
  else m.log .debug ("Waiting for " ++ toString m.openChannels ++ " open handle(s)")

/-- What a shutdown goes on to under the registry lock: to the teardown if no channel is
open, and otherwise it waits or, if its time is limited, gives up. -/
inductive Checked (m : Manager (Watched σ η) δ η) (timed : Bool) :
    Stage δ η → Option (Outcome δ) → Manager (Watched σ η) δ η → Prop where
  | clear (h : m.registered = []) : Checked m timed (.entering .teardown) none m
  | wait (h : m.registered ≠ []) : Checked m timed (.waiting timed false) none (noteWait m timed)
  | giveUp (h : m.registered ≠ []) (ht : timed = true) :
      Checked m timed .idle (some (.stopped (.error (.handlesOutstanding m.openChannels))))
        (m.log .warn
          ("Shutdown timed out with " ++ toString m.openChannels ++ " open handle(s)"))

/-- One step of a thread or of the world outside, with what shows of it. -/
inductive Step (s : State σ δ η) : List (Notice δ) → State σ δ η → Prop where
  /-- A thread begins a scan or an open. -/
  | call (t : ℕ) (job : Job) (hstage : s.stage t = .idle) (hjob : job ≠ .teardown) :
      Step s [] (s.put t (.entering job) s.manager)
  /-- A thread takes the scan lock. -/
  | lock (t : ℕ) (job : Job) (hstage : s.stage t = .entering job) (hfree : s.owner? = none) :
      Step s [] { s.put t (.locked job) s.manager with owner? := some t }
  /-- The owner of the scan lock goes on. -/
  | work (t : ℕ) (stage : Stage δ η) (m : Manager (Watched σ η) δ η)
      (hwork : advance s.manager (s.stage t) = some (stage, m)) :
      Step s (shown t stage) (s.put t stage m)
  /-- A thread gives the scan lock back and returns. -/
  | unlock (t : ℕ) (outcome : Outcome δ) (hstage : s.stage t = .leaving outcome) :
      Step s [.returned t outcome] { s.put t .idle s.manager with
        owner? := none, records := s.records ++ outcome.records }
  /-- The same after a scan that had to be complete and is. -/
  | part (t : ℕ) (scan : Scan δ) (hstage : s.stage t = .parting scan)
      (herror : scan.error? = none) :
      Step s [.returned t (.enumerated (.ok scan.found))] { s.put t .idle s.manager with
        owner? := none, records := s.records ++ scan.found }
  /-- The same after a scan that had to be complete and is not. -/
  | partIncomplete (t : ℕ) (scan : Scan δ) (e : UsbError) (hstage : s.stage t = .parting scan)
      (herror : scan.error? = some e) :
      Step s [] { s.put t (.discarding scan.found e) s.manager with owner? := none }
  /-- The records of an incomplete scan go back. -/
  | discard (t : ℕ) (found : List (Found δ)) (e : UsbError)
      (hstage : s.stage t = .discarding found e) :
      Step s [.returned t (.enumerated (.error e))] (s.put t .idle (s.manager.discard found))
  /-- A thread closes a channel that is closed. -/
  | closeAgain (t id : ℕ) (c : Channel δ η) (m : Manager (Watched σ η) δ η)
      (hstage : s.stage t = .idle) (hc : s.manager.channel? id = some c)
      (hclose : s.manager.closeNative c = (none, m)) :
      Step s [.returned t (.closed (.ok ()))] (s.put t .idle m)
  /-- A thread closes an open channel, under the lock of the channel. -/
  | close (t id : ℕ) (c : Channel δ η) (result : Except NativeError Unit)
      (m : Manager (Watched σ η) δ η) (hstage : s.stage t = .idle)
      (hc : s.manager.channel? id = some c)
      (hclose : s.manager.closeNative c = (some result, m)) :
      Step s [] (s.put t
        (.closing c.id c.info (result.mapError (.release c.info.interface))) m)
  /-- The closed channel keeps shutdowns waiting no longer, and they are told. -/
  | deregister (t id : ℕ) (info : RawInterface) (result : Except UsbError Unit)
      (hstage : s.stage t = .closing id info result) :
      Step s [.returned t (.closed result)] { s with
        manager := (s.manager.deregister id).log .info
          ("Closed " ++ info.path ++ " interface " ++ toString info.interface.toNat)
        stage := Function.update
          (fun u => if id ∈ s.manager.registered then (s.stage u).notified else s.stage u)
          t .idle }
  /-- A closed channel goes out of use. -/
  | forget (id : ℕ) (hclosed : ∀ c ∈ s.manager.channels, c.id = id → c.isClosed = true) :
      Step s [] { s with
        manager := { s.manager with
          channels := s.manager.channels.filter (·.id != id) } }
  /-- A thread begins a shutdown. -/
  | begin (t : ℕ) (timed : Bool) (stage : Stage δ η) (outcome? : Option (Outcome δ))
      (m : Manager (Watched σ η) δ η) (hstage : s.stage t = .idle)
      (hcheck : Checked s.manager.beginShutdown timed stage outcome? m) :
      Step s (outcome?.toList.map (.returned t)) (s.put t stage m)
  /-- A shutdown that waits looks again, told or not. -/
  | wake (t : ℕ) (timed notified : Bool) (stage : Stage δ η) (outcome? : Option (Outcome δ))
      (m : Manager (Watched σ η) δ η) (hstage : s.stage t = .waiting timed notified)
      (hcheck : Checked s.manager timed stage outcome? m) :
      Step s (outcome?.toList.map (.returned t)) (s.put t stage m)
  /-- A thread writes to a channel, under the lock of the channel. -/
  | write (t id : ℕ) (data : Bytes) (hstage : s.stage t = .idle) :
      Step s [] { s with manager := (s.manager.write id data).2 }
  /-- A thread reads from a channel, under the lock of the channel. -/
  | read (t id limit : ℕ) (hstage : s.stage t = .idle) :
      Step s [] { s with manager := (s.manager.receive id limit).2 }
  /-- A thread changes a timeout of a channel. -/
  | setTimeouts (t id : ℕ) (read write : Option Duration) (hstage : s.stage t = .idle) :
      Step s [] { s with
        manager := (s.manager.setReadTimeout id read).setWriteTimeout id write }
  /-- A user gives a record back. -/
  | release (f : Found δ) (before after : List (Found δ))
      (hrecords : s.records = before ++ f :: after) :
      Step s [] { s with manager := s.manager.release f.hold, records := before ++ after }
  /-- Anything happens to the native layer from outside. -/
  | world (layer : σ) :
      Step s [] { s with
        manager := { s.manager with
          platform := { s.manager.platform with layer := layer } } }

/-- A run of steps, with what shows of them. -/
inductive Run : State σ δ η → List (Notice δ) → State σ δ η → Prop where
  | refl (s : State σ δ η) : Run s [] s
  | tail {s s' s'' : State σ δ η} {es es' : List (Notice δ)} (hrun : Run s es s')
      (hstep : Step s' es' s'') : Run s (es ++ es') s''

/-- A run that another goes on from. -/
lemma Run.trans {s s' s'' : State σ δ η} {es es' : List (Notice δ)} (h : Run s es s')
    (h' : Run s' es' s'') : Run s (es ++ es') s'' := by
  induction h' with
  | refl => rwa [List.append_nil]
  | tail _ hstep ih =>
      rw [← List.append_assoc]
      exact ih.tail hstep

end Steps

end UsbPipe.Threads
