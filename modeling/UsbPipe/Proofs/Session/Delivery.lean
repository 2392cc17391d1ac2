/-
The chunks that reads deliver.

Chunks that are pushed wait on an endpoint for reads, through any channel that is on it then, and
while none is.  What becomes of them is told by what the user of a session does and gets back: a
read under the name of an open channel either fails and takes nothing, or it comes back with what
fits of the chunk that it took, if there was one.  An exchange takes at most one chunk, for its
reply, and no other step takes or adds any but the push.

So on each endpoint the chunks that were pushed are those that were taken, in the same order, and
behind them those that wait; and a read that takes none finds none.

* `Delivery`: a chunk pushed, or a read that completes.
* `Deliveries`: pushes and reads in turn, with the chunks that wait before and after them;
  `Deliveries.conserved`.
* `Ledger.Moves`: what a step comes back with and does to the chunks; `Conveyed`: all the steps.
* `moves_step`: one step; `conveyed_run`: a run.
* `run_delivers`: the deliveries of any run, and any transfer after it.
-/
import UsbPipe.Proofs.Manager.Waiting
import UsbPipe.Proofs.Session.Claims
import UsbPipe.Proofs.Session.TransferLog

namespace UsbPipe

open Usb Manager

/-! ### Deliveries -/

/-- What happens to the chunks that wait. -/
inductive Delivery where
  /-- A chunk is put behind those that wait on an endpoint. -/
  | pushed (pipe : EndpointKey) (chunk : Bytes)
  /-- A read of at most `limit` bytes completes, with the chunk that it takes or without one. -/
  | read (pipe : EndpointKey) (limit : ℕ) (chunk? : Option Bytes)

namespace Delivery

/-- The chunk that is pushed to an endpoint, if it is this one. -/
def pushedTo (pipe : EndpointKey) : Delivery → Option Bytes
  | pushed p chunk => if p = pipe then some chunk else none
  | read .. => none

/-- The chunk that is taken from an endpoint, if it is this one. -/
def takenFrom (pipe : EndpointKey) : Delivery → Option Bytes
  | pushed .. => none
  | read p _ chunk? => if p = pipe then chunk? else none

/-- The chunks pushed to an endpoint, the first one first. -/
def pushes (pipe : EndpointKey) (ds : List Delivery) : List Bytes := ds.filterMap (pushedTo pipe)

/-- The chunks taken from an endpoint, the first one first. -/
def takes (pipe : EndpointKey) (ds : List Delivery) : List Bytes := ds.filterMap (takenFrom pipe)

/-- The chunks that wait after a delivery. -/
def after (w : EndpointKey → List Bytes) : Delivery → EndpointKey → List Bytes
  | pushed p chunk => Function.update w p (w p ++ [chunk])
  | read p _ _ => Function.update w p (w p).tail

/-- A read takes the chunk that waits first, and none only if none waits. -/
def Offered (w : EndpointKey → List Bytes) : Delivery → Prop
  | pushed .. => True
  | read p _ chunk? => chunk? = (w p).head?

/-- A delivery moves a chunk at most, from the pushed ones to those that wait, or from these to
the taken ones. -/
lemma Offered.conserved {w : EndpointKey → List Bytes} {d : Delivery} (h : d.Offered w)
    (pipe : EndpointKey) :
    w pipe ++ (d.pushedTo pipe).toList = (d.takenFrom pipe).toList ++ d.after w pipe := by
  cases d with
  | pushed p chunk =>
      rw [pushedTo, takenFrom, after]
      by_cases hp : p = pipe
      · subst hp
        simp
      · simp [hp, Function.update_of_ne (Ne.symm hp)]
  | read p limit chunk? =>
      rw [pushedTo, takenFrom, after]
      by_cases hp : p = pipe
      · subst hp
        rw [Offered] at h
        subst h
        cases w p <;> simp
      · simp [hp, Function.update_of_ne (Ne.symm hp)]

end Delivery

open Delivery

/-- Deliveries one after the other, from the chunks that wait before to those that wait after. -/
inductive Deliveries :
    (EndpointKey → List Bytes) → List Delivery → (EndpointKey → List Bytes) → Prop
  | nil (w : EndpointKey → List Bytes) : Deliveries w [] w
  | cons {w w' : EndpointKey → List Bytes} {d : Delivery} {ds : List Delivery}
      (first : d.Offered w) (later : Deliveries (d.after w) ds w') : Deliveries w (d :: ds) w'

namespace Deliveries

variable {w w' w'' : EndpointKey → List Bytes} {ds ds' : List Delivery} {d : Delivery}

lemma append (h : Deliveries w ds w') (h' : Deliveries w' ds' w'') :
    Deliveries w (ds ++ ds') w'' := by
  induction h with
  | nil w => exact h'
  | cons first _ ih => exact .cons first (ih h')

/-- What was pushed to an endpoint follows what waited there before, and both together are what
was taken from it and what waits after. -/
theorem conserved (h : Deliveries w ds w') (pipe : EndpointKey) :
    w pipe ++ pushes pipe ds = takes pipe ds ++ w' pipe := by
  induction h with
  | nil w => simp [pushes, takes]
  | @cons w w' d ds first _ ih =>
      have hpushes : pushes pipe (d :: ds) = (d.pushedTo pipe).toList ++ pushes pipe ds := by
        rw [pushes, List.filterMap_cons]
        cases d.pushedTo pipe <;> rfl
      have htakes : takes pipe (d :: ds) = (d.takenFrom pipe).toList ++ takes pipe ds := by
        rw [takes, List.filterMap_cons]
        cases d.takenFrom pipe <;> rfl
      calc w pipe ++ pushes pipe (d :: ds)
          = (w pipe ++ (d.pushedTo pipe).toList) ++ pushes pipe ds := by
            rw [hpushes, List.append_assoc]
        _ = (d.takenFrom pipe).toList ++ (d.after w pipe ++ pushes pipe ds) := by
            rw [first.conserved, List.append_assoc]
        _ = takes pipe (d :: ds) ++ w' pipe := by rw [ih, htakes, List.append_assoc]

/-- A delivery among others finds what the ones before it left. -/
lemma offered (h : Deliveries w (ds ++ d :: ds') w') :
    ∃ v, Deliveries w ds v ∧ d.Offered v := by
  induction ds generalizing w with
  | nil =>
      cases h with
      | cons first _ => exact ⟨w, .nil w, first⟩
  | cons e ds ih =>
      cases h with
      | cons first later =>
          obtain ⟨v, hv, hd⟩ := ih later
          exact ⟨v, .cons first hv, hd⟩

end Deliveries

/-! ### What steps tell and move -/

/-- What a read into `length` bytes on an open channel comes back with and takes. -/
def Held.Receives (h : Held) (length : ℕ) (reply : Reply) (ds : List Delivery) : Prop :=
  (∃ e, reply = h.got length (.error e) ∧ ds = []) ∨
    ∃ chunk? : Option Bytes, reply = h.got length (.ok ((chunk?.getD []).take length)) ∧
      ds = [.read h.info.inPipe length chunk?]

/-- What an exchange comes back with and takes. -/
def Request.Receives (r : Request) (reply : Reply) (ds : List Delivery) : Prop :=
  (ds = [] ∧ ∀ bytes out, reply = .exchanged bytes out → r.readLength = none ∧ bytes = []) ∨
    ∃ (i : RawInterface) (limit : ℕ) (chunk? : Option Bytes), r.readLength = some limit ∧
      ds = [.read i.inPipe limit chunk?] ∧
      ∀ bytes out, reply = .exchanged bytes out → bytes = (chunk?.getD []).take limit

namespace Ledger

/-- What a step comes back with, and what it does to the chunks that wait. -/
def Moves (l : Ledger) (reply : Reply) (ds : List Delivery) : Step → Prop
  | .pushRead pipe chunk => ds = [.pushed pipe chunk]
  | .read name length =>
    match l name with
    | none => reply = .missing .channel ∧ ds = []
    | some h => if h.isOpen then h.Receives length reply ds else reply = .usb .closed ∧ ds = []
  | .exchange request _ => request.Receives reply ds
  | _ => ds = []

lemma moves_of_isAside {l : Ledger} {reply : Reply} {step : Step} (h : step.isAside = true) :
    l.Moves reply [] step := by
  cases step <;> first | rfl | cases h

end Ledger

/-- The deliveries of a run, told by its steps, each with what it came back with, from a ledger
on. -/
inductive Conveyed : Ledger → List (Step × Reply) → List Delivery → Prop
  | nil (l : Ledger) : Conveyed l [] []
  | cons {l : Ledger} {step : Step} {reply : Reply} {ds ds' : List Delivery}
      {rest : List (Step × Reply)} (first : l.Moves reply ds step)
      (later : Conveyed (l.after reply step) rest ds') :
      Conveyed l ((step, reply) :: rest) (ds ++ ds')

/-! ### Channels dropped -/

namespace Session

lemma waiting_dropChannel (s : Session Bench Instance DeviceKey) (name : String) :
    (s.dropChannel name).2.manager.waiting = s.manager.waiting :=
  manager_dropChannel (P := fun m => m.waiting = s.manager.waiting)
    (fun h id => (Manager.waiting_dropChannel id).trans h) rfl name

lemma waiting_dropChannels (s : Session Bench Instance DeviceKey) (names : List String) :
    (s.dropChannels names).manager.waiting = s.manager.waiting :=
  manager_dropChannels (P := fun m => m.waiting = s.manager.waiting)
    (fun h id => (Manager.waiting_dropChannel id).trans h) rfl names

end Session

namespace BenchSession

variable {s s' : BenchSession} {step : Step} {reply : Reply}

/-! ### Steps -/

/-- A step leads from a session to another one and moves chunks as the ledger says. -/
def Conveys (s : BenchSession) (step : Step) (reply : Reply) (s' : BenchSession) : Prop :=
  ∃ ds, s.held.Moves reply ds step ∧ Deliveries s.manager.waiting ds s'.manager.waiting

namespace Conveys

/-- A step that leaves the chunks alone. -/
lemma still (hwaiting : s'.manager.waiting = s.manager.waiting)
    (hmoves : s.held.Moves reply [] step) : s.Conveys step reply s' := by
  refine ⟨[], hmoves, ?_⟩
  rw [hwaiting]
  exact .nil _

lemma onSlot {name : SlotName} {use : Found Instance → Reply × BenchSession}
    (hmoves : s.held.Moves (.missing .record) [] step)
    (huse : ∀ f, s.Conveys step (use f).1 (use f).2) :
    s.Conveys step (s.onSlot name use).1 (s.onSlot name use).2 :=
  onSlot_cases (P := fun r => s.Conveys step r.1 r.2) (still rfl hmoves) fun f _ => huse f

lemma onChannel {name : String} {use : Channel Instance DeviceKey → Reply × BenchSession}
    (hmoves : s.held name = none → s.held.Moves (.missing .channel) [] step)
    (huse : ∀ c, s.toSession.channel? name = some c → s.Conveys step (use c).1 (use c).2) :
    s.Conveys step (s.onChannel name use).1 (s.onChannel name use).2 :=
  onChannel_cases (P := fun r => s.Conveys step r.1 r.2)
    (fun hc => still rfl (hmoves (Session.held_of_missing hc))) huse

end Conveys

lemma conveys_pushRead (s : BenchSession) (pipe : EndpointKey) (chunk : Bytes) :
    s.Conveys (.pushRead pipe chunk) (s.step (.pushRead pipe chunk)).1
      (s.step (.pushRead pipe chunk)).2 := by
  refine ⟨[.pushed pipe chunk], rfl, .cons trivial ?_⟩
  have hqueue : (s.step (.pushRead pipe chunk)).2.manager.waiting =
      (Delivery.pushed pipe chunk).after s.manager.waiting :=
    Bench.queue_pushRead s.manager.platform pipe chunk
  rw [hqueue]
  exact .nil _

/-- A read that takes what waits first is a delivery. -/
lemma deliveries_read {m m' : Manager Bench Instance DeviceKey} {i : RawInterface}
    (h : m.TakesFor m' i) (limit : ℕ) :
    Deliveries m.waiting [.read i.inPipe limit (m.waiting i.inPipe).head?] m'.waiting := by
  refine .cons rfl ?_
  rw [h]
  exact .nil _

lemma conveys_read (hw : s.manager.Wired) (name : String) (length : ℕ) :
    s.Conveys (.read name length) (s.step (.read name length)).1
      (s.step (.read name length)).2 := by
  set buffer := List.replicate length (0xee : UInt8) with hbuffer
  have hlength : buffer.length = length := List.length_replicate
  refine .onChannel (fun hl => ?_) fun c hc => ?_
  · rw [Ledger.Moves, hl]
    exact ⟨rfl, rfl⟩
  · have hheld : s.held name = some (Held.ofChannel c) := by
      rw [Session.held, hc, Option.map_some]
    have hfind := (Session.channel?_eq_some hc).2
    have hmoves : ∀ reply ds, s.held.Moves reply ds (.read name length) ↔
        if (Held.ofChannel c).isOpen then (Held.ofChannel c).Receives length reply ds
        else reply = .usb .closed ∧ ds = [] := by
      intro reply ds
      rw [Ledger.Moves, hheld]
    cases hstate : c.isClosed with
    | true =>
        rw [read_error (receive_closed hfind hstate _)]
        refine .still rfl ((hmoves _ _).mpr ?_)
        have hclosed : ¬ (Held.ofChannel c).isOpen = true := by simp [Held.ofChannel, hstate]
        rw [if_neg hclosed]
        exact ⟨rfl, rfl⟩
    | false =>
        have hopen : (Held.ofChannel c).isOpen = true := by simp [Held.ofChannel, hstate]
        have hmade : ∀ {reply ds}, (Held.ofChannel c).Receives length reply ds →
            s.held.Moves reply ds (.read name length) := fun hreceives => by
          rw [hmoves, if_pos hopen]
          exact hreceives
        rcases receive_cases hfind (hw c (channel?_mem hfind).1) hstate buffer.length with
          ⟨e, m', -, hreceive, hwaiting⟩ | ⟨m', -, hreceive, htakes⟩
        · rw [read_error hreceive]
          exact .still hwaiting (hmade (Or.inl ⟨e, rfl, rfl⟩))
        · rw [read_ok hreceive]
          have hdeliveries := deliveries_read htakes buffer.length
          rw [hlength] at hdeliveries ⊢
          refine ⟨_, hmade (Or.inr ⟨_, ?_, rfl⟩), hdeliveries⟩
          rw [chunkFor, List.headD_eq_head?_getD]
          rfl

/-- The bytes that an exchange replies with are those that its command came back with. -/
lemma result_of_exchanged {ran : Ran Bench Instance DeviceKey Bytes} {bytes : Bytes} {out : String}
    (h : (s.replyRan ran .exchanged).1 = .exchanged bytes out) : ran.result = .ok bytes := by
  rw [replyRan] at h
  cases hresult : ran.result with
  | error e => rw [hresult] at h; cases h
  | ok a => rw [hresult] at h; cases h; rfl

lemma conveys_exchange (h : s.Sound) (request : Request) (limit? : Option ℕ) :
    s.Conveys (.exchange request limit?) (s.step (.exchange request limit?)).1
      (s.step (.exchange request limit?)).2 := by
  have hfetches := fetches_exchangeWith h.balanced s.meanwhile_onlyShutdown request
    { room? := limit? }
  rw [BenchSession.step]
  generalize s.manager.exchangeWith s.meanwhile request { room? := limit? } = ran at hfetches ⊢
  rcases hfetches with
    ⟨hwaiting, e, herror⟩ | ⟨i, ⟨hwaiting, hbytes⟩ | ⟨limit, hlimit, htakes, hbytes⟩⟩
  · refine .still hwaiting (Or.inl ⟨rfl, fun bytes out hexchanged => ?_⟩)
    have hok := result_of_exchanged hexchanged
    rw [herror] at hok
    cases hok
  · exact .still hwaiting (Or.inl ⟨rfl, fun bytes out hexchanged =>
      hbytes bytes (result_of_exchanged hexchanged)⟩)
  · refine ⟨_, Or.inr ⟨i, limit, _, hlimit, rfl, fun bytes out hexchanged => ?_⟩,
      deliveries_read htakes limit⟩
    rw [hbytes bytes (result_of_exchanged hexchanged), chunkFor, List.headD_eq_head?_getD]

/-- An open, by whatever step. -/
lemma Conveys.openAs (info : RawInterface) (name : String)
    (hmoves : ∀ reply, s.held.Moves reply [] step) :
    s.Conveys step (s.openAs info name).1 (s.openAs info name).2 := by
  have hopening := waiting_openWith (m := s.manager) s.meanwhile_onlyShutdown info
  rw [BenchSession.openAs]
  rcases ho : s.manager.openWith s.meanwhile info with ⟨e | o, m⟩ <;> rw [ho] at hopening
  · exact .still hopening (hmoves _)
  · have hdrop := Session.waiting_dropChannel (s.setManager m).toSession name
    exact .still (hdrop.trans hopening) (hmoves _)

lemma conveys_shutdown (s : BenchSession) (names : List String) :
    s.Conveys (.shutdown names) (s.step (.shutdown names)).1 (s.step (.shutdown names)).2 :=
  .still (keeps_shutdownDropping (P := fun s' => s'.manager.waiting = s.manager.waiting) rfl
    (fun s' names h => (Session.waiting_dropChannels s'.toSession names).trans h)
    (fun _ h => (waiting_of_bystanders bystanders_beginShutdown).trans h)
    (fun _ h => (waiting_of_bystanders bystanders_teardown).trans h) (fun _ h => h) names) rfl

/-- Every step of a sound session moves chunks as the ledger says. -/
theorem moves_step (h : s.Sound) (hw : s.manager.Wired) (step : Step) :
    s.Conveys step (s.step step).1 (s.step step).2 := by
  by_cases haside : step.isAside = true
  · exact .still (waiting_congr (aside_step s haside).traffic) (Ledger.moves_of_isAside haside)
  cases step with
  | pushRead pipe chunk => exact conveys_pushRead s pipe chunk
  | «open» info name => exact .openAs info name fun _ => rfl
  | openSlot slot change name =>
      exact .onSlot rfl fun f => .openAs (change f.info) name fun _ => rfl
  | write name data =>
      refine .onChannel (fun _ => rfl) fun c _ => ?_
      have hwrite := waiting_write (m := s.manager) c.id data
      rcases hm : s.manager.write c.id data with ⟨_ | n, m₁⟩ <;> rw [hm] at hwrite <;>
        exact .still hwrite rfl
  | watchedWrite name data =>
      exact .onChannel (fun _ => rfl) fun c _ => .still (waiting_write c.id data) rfl
  | read name length => exact conveys_read hw name length
  | setTimeouts name read? write? =>
      refine .onChannel (fun _ => rfl) fun c _ => .still ?_ rfl
      cases read? <;> cases write? <;> rfl
  | close name =>
      exact .onChannel (fun _ => rfl) fun c _ => .still (waiting_close (m := s.manager) c.id) rfl
  | dropChannel name => exact .still (Session.waiting_dropChannel s.toSession name) rfl
  | shutdown names => exact conveys_shutdown s names
  | exchange request limit? => exact conveys_exchange h request limit?
  | _ => exact absurd rfl haside

/-! ### Runs -/

/-- The deliveries of a run of a sound session. -/
theorem conveyed_run (h : s.Sound) (hw : s.manager.Wired) (steps : List Step) :
    ∃ ds, Conveyed s.held (s.transcript steps) ds ∧
      Deliveries s.manager.waiting ds (s.run steps).manager.waiting := by
  induction steps generalizing s with
  | nil => exact ⟨[], .nil _, .nil _⟩
  | cons step steps ih =>
      have hfollows := follows_step h hw step
      obtain ⟨ds, hmoves, hdeliveries⟩ := moves_step h hw step
      obtain ⟨ds', hconveyed, hlater⟩ := ih (h.step step) hfollows.wired
      rw [hfollows.held] at hconveyed
      exact ⟨ds ++ ds', .cons hmoves hconveyed, hdeliveries.append hlater⟩

/-- After any run, on each endpoint the chunks that were pushed are those that reads took, in the
same order and each one once, and behind them those that wait.  A read that completes takes the
first of the chunks that wait at that time, and none only if none waits.  And after the run, a
write on any channel leaves all chunks alone.  A read into any buffer fills its front with what
fits of the chunk that waits first, if its endpoint completes under the timeout of the channel;
else it fails, and leaves the buffer and all chunks alone. -/
theorem run_delivers (steps : List Step) :
    let s := fresh.run steps
    (∃ ds, Conveyed (fun _ => none) (fresh.transcript steps) ds ∧
      (∀ pipe, pushes pipe ds = takes pipe ds ++ s.manager.waiting pipe) ∧
      ∀ before pipe limit chunk? later, ds = before ++ .read pipe limit chunk? :: later →
        ∃ chunks, pushes pipe before = takes pipe before ++ chunks ∧ chunk? = chunks.head?) ∧
      ∀ id, (∀ data, (s.manager.write id data).2.waiting = s.manager.waiting) ∧
        ∀ buffer, s.manager.Delivers id buffer := by
  intro s
  have hwired : fresh.manager.Wired := fun c hc => absurd hc List.not_mem_nil
  obtain ⟨ds, hconveyed, hdeliveries⟩ := conveyed_run sound_fresh hwired steps
  refine ⟨⟨ds, hconveyed, hdeliveries.conserved, ?_⟩,
    fun id => ⟨waiting_write id, (wired_run sound_fresh hwired steps).delivers id⟩⟩
  rintro before pipe limit chunk? later rfl
  obtain ⟨w, hbefore, hoffered⟩ := hdeliveries.offered
  exact ⟨w pipe, hbefore.conserved pipe, hoffered⟩

/-- What does not fit of a chunk is lost with it, and the next read takes the next chunk. -/
example :
    let steps : List Step := [.attach (.raw ⟨1, 4⟩ 2 0x1209 1), .scan {} (some "all"),
      .openSlot ⟨"all", 0⟩ id "a", .pushRead (⟨1, 4⟩, 0x81) [1, 2, 3, 4],
      .pushRead (⟨1, 4⟩, 0x81) [5], .read "a" 2, .read "a" 2, .read "a" 2]
    (fresh.transcript steps).filterMap (fun e => match e.2 with
      | .read r => some r
      | _ => none) = [⟨2, [1, 2]⟩, ⟨1, [5, 0xee]⟩, ⟨0, [0xee, 0xee]⟩] := by
  decide +kernel

end BenchSession

end UsbPipe
