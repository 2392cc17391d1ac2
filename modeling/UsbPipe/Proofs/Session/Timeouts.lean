/-
The timeouts of the transfers of a session.

The timeout that a transfer is given is the one last set on its channel, as the native layer
takes it.  A bounded timeout is rounded up from its whole microseconds, so it may be short by
less than one.  And what a transfer comes back with depends on the timeout only as far as the
endpoint takes too long for it.

* `run_roundsTo`: the timeouts that transfers are given after any run.
* `write_cut_short`: a timeout that is given short.
* `reply_onTransfer`, `reply_write`, `reply_read`: what transfers come back with.
* `writeUnder`, `readUnder`: transfers under a timeout set for them.
* `writeUnder_mono`, `readUnder_mono`: the same under a longer timeout.
-/
import UsbPipe.Proofs.Manager.Timeouts
import UsbPipe.Proofs.Session.TransferLog

namespace UsbPipe

open Usb Manager

namespace BenchSession

variable {s : BenchSession} {name : String} {t t' : Option Duration}

/-- A session that can be reached is sound, and its channels are as the ledger says. -/
lemma reached (steps : List Step) :
    (fresh.run steps).Sound ∧ (fresh.run steps).manager.Wired ∧
      (fresh.run steps).held = Ledger.afterAll (fun _ => none) (fresh.transcript steps) := by
  have hwired : fresh.manager.Wired := fun c hc => absurd hc List.not_mem_nil
  exact ⟨sound_run steps, wired_run sound_fresh hwired steps,
    (logged_run sound_fresh hwired steps).2⟩

/-! ### The timeouts given -/

/-- After any run, on a channel that is open: under a bounded timeout that the native layer can
take, the next write and the next read add one entry to the transfer log, and the timeout there
is the smallest number of milliseconds, at least one, for the whole microseconds of the one
that was set.  For that one itself it is the smallest unless that is a millisecond or more, and
less than a microsecond beyond its whole milliseconds; and it is never short by a microsecond. -/
theorem run_roundsTo (steps : List Step) (name : String) (h : Held)
    (hheld : Ledger.afterAll (fun _ => none) (fresh.transcript steps) name = some h)
    (hopen : h.isOpen = true) (d : Duration)
    (hd : d.nanoseconds ≤ (Duration.ofMilliseconds maxTimeoutMs).nanoseconds) :
    let s := fresh.run steps
    (h.writeTimeout = some d → ∀ data, ∃ result,
      (s.step (.write name data)).2.manager.platform.transfers =
        s.manager.platform.transfers ++ [h.written data result] ∧
      d.RoundsTo (h.written data result).timeout) ∧
    (h.readTimeout = some d → ∀ length, ∃ result,
      (s.step (.read name length)).2.manager.platform.transfers =
        s.manager.platform.transfers ++ [h.received result] ∧
      d.RoundsTo (h.received result).timeout) := by
  intro s
  obtain ⟨hsound, hwired, hledger⟩ := reached steps
  have hh : s.held name = some h := (congrFun hledger name).trans hheld
  refine ⟨fun hwrite data => ?_, fun hread length => ?_⟩
  · obtain ⟨entries, hlog, haccounts⟩ := (follows_step hsound hwired (.write name data)).log
    obtain ⟨result, rfl, -⟩ := (Ledger.calls_open hh hopen).mp haccounts
    refine ⟨result, hlog, ?_⟩
    rw [Held.written, hwrite]
    exact roundsTo_nativeTimeout hd
  · obtain ⟨entries, hlog, haccounts⟩ := (follows_step hsound hwired (.read name length)).log
    obtain ⟨result, rfl, -⟩ := (Ledger.calls_open hh hopen).mp haccounts
    refine ⟨result.map List.length, hlog, ?_⟩
    rw [Held.received, hread]
    exact roundsTo_nativeTimeout hd

/-- A device that was found and opened. -/
def openSteps : List Step :=
  [.attach (.raw ⟨1, 4⟩ 2 0x1209 1), .enumerate {} (some "r"), .openSlot ⟨"r", 0⟩ id "h"]

/-- A write timeout of a millisecond and a half, and one of no time at all for reads: a write is
given two milliseconds, and a read one. -/
theorem run_roundsTo_up :
    let steps := openSteps ++ [.setTimeouts "h" (some (some ⟨0⟩)) (some (some ⟨1500000⟩))]
    let s := fresh.run steps
    ∃ h : Held, h.writeTimeout = some ⟨1500000⟩ ∧ h.readTimeout = some ⟨0⟩ ∧
      (∃ result, (s.step (.write "h" [1])).2.manager.platform.transfers =
          s.manager.platform.transfers ++ [h.written [1] result] ∧
        (h.written [1] result).timeout = .ofMilliseconds 2) ∧
      ∃ result, (s.step (.read "h" 8)).2.manager.platform.transfers =
          s.manager.platform.transfers ++ [h.received result] ∧
        (h.received result).timeout = .ofMilliseconds 1 := by
  intro steps s
  obtain ⟨h, hheld, hopen, hwrite, hread⟩ :
      ∃ h : Held, Ledger.afterAll (fun _ => none) (fresh.transcript steps) "h" = some h ∧
        h.isOpen = true ∧ h.writeTimeout = some ⟨1500000⟩ ∧ h.readTimeout = some ⟨0⟩ :=
    ⟨_, rfl, rfl, rfl, rfl⟩
  obtain ⟨hwritten, -⟩ := run_roundsTo steps "h" h hheld hopen ⟨1500000⟩ (by decide)
  obtain ⟨-, hreceived⟩ := run_roundsTo steps "h" h hheld hopen ⟨0⟩ (by decide)
  obtain ⟨result, hlog, ms, htimeout, -, hneeds, -⟩ := hwritten hwrite [1]
  obtain ⟨result', hlog', ms', htimeout', -, hneeds', -⟩ := hreceived hread 8
  obtain rfl := Duration.needs_iff.mp (hneeds.mpr (by unfold Duration.Overhangs; decide))
  obtain rfl := Duration.needs_iff.mp (hneeds'.mpr (by unfold Duration.Overhangs; decide))
  exact ⟨h, hwrite, hread, ⟨result, hlog, htimeout⟩, result', hlog', htimeout'⟩

/-- A timeout of a millisecond and a nanosecond: a write under it is given a millisecond, and two
were needed. -/
theorem write_cut_short :
    let asked : Duration := ⟨1000001⟩
    let steps := openSteps ++ [.setTimeouts "h" none (some (some asked)), .write "h" [1]]
    (fresh.run steps).manager.platform.transfers.map TransferRecord.timeout =
        [.ofMilliseconds 1] ∧
      (Duration.ofMilliseconds 1).nanoseconds < asked.nanoseconds ∧ asked.Needs 2 ∧
      ¬ asked.Needs 1 := by
  refine ⟨by decide, by decide, Duration.needs_iff.mpr (by decide), fun h => ?_⟩
  exact absurd (Duration.needs_iff.mp h) (by decide)

/-! ### The timeouts asked for -/

/-- What a transfer under a name comes back with, from what it does on a channel that is closed
and on one that is open. -/
lemma reply_onTransfer {use : Channel Instance DeviceKey → Reply × BenchSession}
    {made : Held → Reply} (hw : s.manager.Wired)
    (hclosed : ∀ c, s.manager.channel? c.id = some c → c.isClosed = true →
      (use c).1 = .usb .closed)
    (hopen : ∀ c, s.manager.channel? c.id = some c → c.Wired → c.isClosed = false →
      (use c).1 = made (Held.ofChannel c)) :
    (s.onChannel name use).1 = (s.held name).elim (.missing .channel) fun h =>
      if h.isOpen then made h else .usb .closed := by
  rw [onChannel, Session.held]
  cases hc : s.toSession.channel? name with
  | none => rfl
  | some c =>
      have hfind := (Session.channel?_eq_some hc).2
      rw [Option.map_some, Option.elim_some]
      cases hstate : c.isClosed with
      | true =>
          have hshut : ¬ (Held.ofChannel c).isOpen = true := by simp [Held.ofChannel, hstate]
          rw [if_neg hshut]
          exact hclosed c hfind hstate
      | false =>
          have hup : (Held.ofChannel c).isOpen = true := by simp [Held.ofChannel, hstate]
          rw [if_pos hup]
          exact hopen c hfind (hw c (channel?_mem hfind).1) hstate

/-- What a write under a name comes back with: on an open channel, the outcome of its endpoint
under the timeout of the channel. -/
lemma reply_write (hw : s.manager.Wired) (name : String) (data : Bytes) :
    (s.step (.write name data)).1 = (s.held name).elim (.missing .channel) fun h =>
      if h.isOpen then
        h.wrote (((s.manager.platform.behaviour (h.info.key, h.info.writer.address)).outcome
          (nativeTimeout h.writeTimeout)).map fun () => data.length)
      else .usb .closed := by
  refine reply_onTransfer hw (fun c hc hclosed => ?_) fun c hc hwired hopen => ?_
  · rw [write_closed hc hclosed]
  · obtain ⟨result, hout, htold⟩ : ∃ result, _ = result ∧ _ = Except.mapError _ result :=
      ⟨_, rfl, write_told hc hwired hopen data⟩
    refine Eq.trans ?_ (congrArg (Held.ofChannel c).wrote hout.symm)
    rcases hm : s.manager.write c.id data with ⟨r, m⟩
    rw [hm] at htold
    cases htold
    cases result <;> rfl

/-- What a read under a name comes back with: on an open channel, the outcome of its endpoint
under the timeout of the channel, and the chunk that waits there. -/
lemma reply_read (hw : s.manager.Wired) (name : String) (length : ℕ) :
    (s.step (.read name length)).1 = (s.held name).elim (.missing .channel) fun h =>
      if h.isOpen then
        h.got length (((s.manager.platform.behaviour (h.info.key, h.info.reader.address)).outcome
          (nativeTimeout h.readTimeout)).map fun () =>
            ((s.manager.platform.queue (h.info.key, h.info.reader.address)).headD []).take length)
      else .usb .closed := by
  refine reply_onTransfer hw (fun c hc hclosed => ?_) fun c hc hwired hopen => ?_
  · rw [read_error (receive_closed hc hclosed _)]
  · obtain ⟨result, hout, htold⟩ : ∃ result, _ = result ∧ _ = Except.mapError _ result :=
      ⟨_, rfl, receive_told hc hwired hopen length⟩
    refine Eq.trans ?_ (congrArg ((Held.ofChannel c).got length) hout.symm)
    rw [Manager.read, List.length_replicate]
    rcases hm : s.manager.receive c.id length with ⟨r, m⟩
    rw [hm] at htold
    cases htold
    cases result <;> rfl

/-- Timeouts set on a channel leave the bench alone, and everything else on the channel. -/
lemma setTimeouts_frame (h : s.Sound) (hw : s.manager.Wired) (name : String)
    (read? write? : Option (Option Duration)) :
    let s' := (s.step (.setTimeouts name read? write?)).2
    s'.manager.Wired ∧ s'.manager.platform = s.manager.platform ∧
      s'.held name = (s.held name).map fun h =>
        { h with
          readTimeout := read?.getD h.readTimeout
          writeTimeout := write?.getD h.writeTimeout } := by
  intro s'
  have hfollows := follows_setTimeouts h hw name read? write?
  refine ⟨hfollows.wired, ?_, (congrFun hfollows.held name).trans (Function.update_self ..)⟩
  show (s.onChannel name _).2.manager.platform = _
  rw [onChannel]
  cases s.toSession.channel? name with
  | none => rfl
  | some c => cases read? <;> cases write? <;> rfl

/-- What a write comes back with once a timeout is set for it. -/
def writeUnder (s : BenchSession) (name : String) (data : Bytes) (t : Option Duration) : Reply :=
  ((s.step (.setTimeouts name none (some t))).2.step (.write name data)).1

/-- What a read comes back with once a timeout is set for it. -/
def readUnder (s : BenchSession) (name : String) (length : ℕ) (t : Option Duration) : Reply :=
  ((s.step (.setTimeouts name (some t) none)).2.step (.read name length)).1

lemma writeUnder_eq (h : s.Sound) (hw : s.manager.Wired) (name : String) (data : Bytes)
    (t : Option Duration) :
    s.writeUnder name data t = (s.held name).elim (.missing .channel) fun h =>
      if h.isOpen then
        { h with writeTimeout := t }.wrote
          (((s.manager.platform.behaviour (h.info.key, h.info.writer.address)).outcome
            (nativeTimeout t)).map fun () => data.length)
      else .usb .closed := by
  obtain ⟨hwired, hplatform, hheld⟩ := setTimeouts_frame h hw name none (some t)
  rw [writeUnder, reply_write hwired, hplatform, hheld]
  cases s.held name <;> rfl

lemma readUnder_eq (h : s.Sound) (hw : s.manager.Wired) (name : String) (length : ℕ)
    (t : Option Duration) :
    s.readUnder name length t = (s.held name).elim (.missing .channel) fun h =>
      if h.isOpen then
        { h with readTimeout := t }.got length
          (((s.manager.platform.behaviour (h.info.key, h.info.reader.address)).outcome
            (nativeTimeout t)).map fun () =>
              ((s.manager.platform.queue (h.info.key, h.info.reader.address)).headD []).take length)
      else .usb .closed := by
  obtain ⟨hwired, hplatform, hheld⟩ := setTimeouts_frame h hw name (some t) none
  rw [readUnder, reply_read hwired, hplatform, hheld]
  cases s.held name <;> rfl

/-- On an endpoint that answers after a delay, a write completes if the native layer waits for
that long. -/
lemma writeUnder_delayed (hs : s.Sound) (hw : s.manager.Wired) {h : Held} {span : Duration}
    (hheld : s.held name = some h) (hopen : h.isOpen = true)
    (hspan : s.manager.platform.behaviour (h.info.key, h.info.writer.address) = .delay span)
    (data : Bytes) (t : Option Duration) :
    s.writeUnder name data t = .written data.length ↔
      (span.nanoseconds : ℕ∞) ≤ (nativeTimeout t).patience := by
  rw [writeUnder_eq hs hw, hheld, Option.elim_some, if_pos hopen, hspan, ← Behaviour.outcome_delay]
  cases (Behaviour.delay span).outcome (nativeTimeout t) <;> simp [Held.wrote, Except.map]

/-- The same for a read, which then takes the chunk that waits, or nothing. -/
lemma readUnder_delayed (hs : s.Sound) (hw : s.manager.Wired) {h : Held} {span : Duration}
    (hheld : s.held name = some h) (hopen : h.isOpen = true)
    (hspan : s.manager.platform.behaviour (h.info.key, h.info.reader.address) = .delay span)
    (length : ℕ) (t : Option Duration) :
    (∃ r, s.readUnder name length t = .read r) ↔
      (span.nanoseconds : ℕ∞) ≤ (nativeTimeout t).patience := by
  rw [readUnder_eq hs hw, hheld, Option.elim_some, if_pos hopen, hspan, ← Behaviour.outcome_delay]
  cases (Behaviour.delay span).outcome (nativeTimeout t) <;> simp [Held.got, Except.map]

/-- A write that completes under a timeout completes under a longer one, and writes as much. -/
theorem writeUnder_mono (hs : s.Sound) (hw : s.manager.Wired) (ht : allowance t ≤ allowance t')
    {data : Bytes} {n : ℕ} (hdone : s.writeUnder name data t = .written n) :
    s.writeUnder name data t' = .written n := by
  rw [writeUnder_eq hs hw] at hdone ⊢
  cases hheld : s.held name with
  | none => simp [hheld] at hdone
  | some h =>
      simp only [hheld, Option.elim_some] at hdone ⊢
      split_ifs at hdone ⊢ with hopen
      set b := s.manager.platform.behaviour (h.info.key, h.info.writer.address)
      cases hout : b.outcome (nativeTimeout t) with
      | error e => simp [hout, Held.wrote, Except.map] at hdone
      | ok _ =>
          rw [Behaviour.outcome_mono (patience_nativeTimeout_mono ht) b hout]
          rwa [hout] at hdone

/-- A read that completes under a timeout completes under a longer one, and reads the same. -/
theorem readUnder_mono (hs : s.Sound) (hw : s.manager.Wired) (ht : allowance t ≤ allowance t')
    {length : ℕ} {r : ReadResult} (hdone : s.readUnder name length t = .read r) :
    s.readUnder name length t' = .read r := by
  rw [readUnder_eq hs hw] at hdone ⊢
  cases hheld : s.held name with
  | none => simp [hheld] at hdone
  | some h =>
      simp only [hheld, Option.elim_some] at hdone ⊢
      split_ifs at hdone ⊢ with hopen
      set b := s.manager.platform.behaviour (h.info.key, h.info.reader.address)
      cases hout : b.outcome (nativeTimeout t) with
      | error e => simp [hout, Held.got, Except.map] at hdone
      | ok _ =>
          rw [Behaviour.outcome_mono (patience_nativeTimeout_mono ht) b hout]
          rwa [hout] at hdone

end BenchSession

end UsbPipe
