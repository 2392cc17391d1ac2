/-
The timeouts that a run of the program gives.

The configuration tells timeouts in milliseconds, of which zero is none.  The transfers of a
run are made under these, as far as the native layer can wait that long.

* `Program.configured`: what the native layer is given for a configured timeout.
* `Program.AsConfigured`: a transfer of a run under the timeout that is configured for it.
* `transfers_run`: the transfers of a run of the program.
* `run_timeouts`: the order of timeouts, from what is asked for to what comes back.
-/
import UsbPipe.Proofs.Program.Ending
import UsbPipe.Proofs.Session.Timeouts

namespace UsbPipe

open Usb Manager

namespace Program

variable {m : Manager Bench Instance DeviceKey} {s : Surroundings} {words : List String}

/-! ### Configured timeouts -/

/-- What the native layer is given for a configured number of milliseconds. -/
def configured (ms : UInt64) : Duration :=
  if ms = 0 then .zero else .ofMilliseconds (min ms.toNat maxTimeoutMs)

/-- The milliseconds that are configured for a direction. -/
def configuredMs (c : Config) : Direction → UInt64
  | .output => c.timeouts.writeMs
  | .input => c.timeouts.readMs

/-- A transfer that was made under the timeout that is configured for its direction. -/
def AsConfigured (s : Surroundings) (words : List String) (e : TransferRecord) : Prop :=
  ∃ a c, Arguments.parse words = .ok a ∧ configFor s a.config? = .ok c ∧
    e.timeout = configured (configuredMs c e.direction)

lemma nativeTimeout_setting (ms : UInt64) :
    nativeTimeout (TimeoutSettings.timeout ms) = configured ms := by
  rw [TimeoutSettings.timeout, configured]
  split_ifs with hzero
  · rfl
  · have hpos : 1 ≤ ms.toNat := by
      rw [Nat.one_le_iff_ne_zero]
      exact fun h => hzero (UInt64.toNat_inj.mp h)
    rw [nativeTimeout, timeoutMs_ofMilliseconds, max_eq_left hpos]

/-! ### Transfers of a run -/

/-- An exchange that words start has the configured timeouts. -/
lemma timeouts_of_task? {r : Request} (h : task? s words = some (.exchange r)) :
    ∃ a c, Arguments.parse words = .ok a ∧ configFor s a.config? = .ok c ∧
      r.readTimeout = c.timeouts.read ∧ r.writeTimeout = c.timeouts.write := by
  rw [task?] at h
  cases hparse : Arguments.parse words with
  | error n => simp [hparse] at h
  | ok a =>
      simp only [hparse] at h
      split_ifs at h
      rcases hp : prepare s a with _ | ⟨c, _ | ⟨_ | _, configured⟩⟩ <;> rw [hp] at h
      · cases h
      · cases h
      · cases h
      · rename_i ids port interface payload readLength?
        simp only at h
        cases hpayload : Hex.parseBytes payload with
        | error e => simp [hpayload] at h
        | ok bytes =>
            rw [hpayload] at h
            cases h
            exact ⟨a, c, rfl, (prepare_eq_ok hp).1, rfl, rfl⟩

/-- What is exchanged on a channel with the configured timeouts is transferred as configured. -/
lemma asConfigured_exchanged {a : Arguments} {c : Config} {x : Held} {payload : Bytes}
    {entries : List TransferRecord} (hparse : Arguments.parse words = .ok a)
    (hconfig : configFor s a.config? = .ok c) (hread : x.readTimeout = c.timeouts.read)
    (hwrite : x.writeTimeout = c.timeouts.write) (h : Exchanged x payload entries) :
    ∀ r ∈ entries, AsConfigured s words r := by
  have hsent : ∀ result, AsConfigured s words (x.written payload result) := fun result =>
    ⟨a, c, hparse, hconfig, (congrArg nativeTimeout hwrite).trans (nativeTimeout_setting _)⟩
  have hgot : ∀ result, AsConfigured s words (x.received result) := fun result =>
    ⟨a, c, hparse, hconfig, (congrArg nativeTimeout hread).trans (nativeTimeout_setting _)⟩
  rcases h with rfl | ⟨result, rfl⟩ | ⟨n, result, rfl⟩
  · simp
  · simpa using hsent result
  · simpa using ⟨hsent (.ok n), hgot result⟩

/-- The shutdown behind a command adds nothing to the transfer log. -/
lemma transfers_finish {α : Type} {ran : Ran Bench Instance DeviceKey α}
    {e : Ended Bench Instance DeviceKey} (h : finish s ran = some e) :
    e.manager.platform.transfers = ran.manager.platform.transfers := by
  rw [finish] at h
  split_ifs at h
  · cases h
    rfl
  · obtain ⟨m', hm', rfl⟩ := Option.map_eq_some_iff.mp h
    rw [shutdown?] at hm'
    split_ifs at hm'
    cases hm'
    exact transfers_of_bystanders (bystanders_teardown.trans bystanders_beginShutdown)

/-- A run of the program adds to the transfer log what it transfers as it is configured. -/
theorem transfers_run {H : List (Hold Instance)} {k : ℕ} (hm : m.Balanced H k)
    {e : Ended Bench Instance DeviceKey} (h : run s m words = some e) :
    ∃ entries, e.manager.platform.transfers = m.platform.transfers ++ entries ∧
      ∀ r ∈ entries, AsConfigured s words r := by
  have hnone : e.manager.platform.transfers = m.platform.transfers →
      ∃ entries, e.manager.platform.transfers = m.platform.transfers ++ entries ∧
        ∀ r ∈ entries, AsConfigured s words r := fun heq =>
    ⟨[], by rw [heq, List.append_nil], by simp⟩
  have hrun := run_eq s m words
  cases htask : task? s words with
  | none =>
      rw [htask] at hrun
      obtain ⟨e', he', hmanager⟩ := hrun
      obtain rfl : e = e' := Option.some.inj (h.symm.trans he')
      exact hnone (by rw [hmanager])
  | some task =>
      rw [htask] at hrun
      have hfinish := transfers_finish (hrun.symm.trans h)
      cases task with
      | list filter json =>
          exact hnone (hfinish.trans (transfers_listInterfaces filter json {}))
      | exchange r =>
          obtain ⟨a, c, hparse, hconfig, hread, hwrite⟩ := timeouts_of_task? htask
          have hidle : OnlyShutdown (id : Manager Bench Instance DeviceKey → _) :=
            fun _ => Or.inl rfl
          obtain ⟨entries, hlog, hentries⟩ := transfers_exchangeWith hm hidle r {}
          refine ⟨entries, hfinish.trans hlog, ?_⟩
          rcases hentries with rfl | ⟨x, hread', hwrite', hexchanged⟩
          · simp
          · refine asConfigured_exchanged hparse hconfig ?_ ?_ hexchanged
            · rw [hread', hread]
            · rw [hwrite', hwrite]

/-! ### The order of timeouts -/

/-- Timeouts keep their order, with no timeout as the longest, from the user down to what comes
back.  Only a missing timeout is zero for the native layer, which waits forever then; any other
is a whole number of milliseconds between one and the longest, a longer timeout is no shorter
there, and whole milliseconds in that range are left as they are.  So the transfers of a run of
the program, on the manager of any reachable session, are made under what is configured for
their direction, or under the longest timeout if that is shorter, and without one for zero.
And on the channels of such a session, a transfer on an endpoint that answers after a delay
completes just if the native layer waits that long; whatever the endpoint does, a write or a
read that completes under a timeout does the same under a longer one. -/
theorem run_timeouts (steps : List Step) :
    let s := BenchSession.fresh.run steps
    ((∀ t, nativeTimeout t = .zero ↔ t = none) ∧
      (∀ d, ∃ ms, 1 ≤ ms ∧ ms ≤ maxTimeoutMs ∧ nativeTimeout (some d) = .ofMilliseconds ms) ∧
      (∀ t t', allowance t ≤ allowance t' →
        (nativeTimeout t).patience ≤ (nativeTimeout t').patience) ∧
      ∀ ms, 1 ≤ ms → ms ≤ maxTimeoutMs →
        nativeTimeout (some (.ofMilliseconds ms)) = .ofMilliseconds ms) ∧
    (∀ surroundings words e, run surroundings s.manager words = some e →
      ∃ entries, e.manager.platform.transfers = s.manager.platform.transfers ++ entries ∧
        ∀ r ∈ entries, AsConfigured surroundings words r) ∧
    (∀ name h span, s.held name = some h → h.isOpen = true →
      (s.manager.platform.behaviour (h.info.key, h.info.writer.address) = .delay span →
        ∀ data t, s.writeUnder name data t = .written data.length ↔
          (span.nanoseconds : ℕ∞) ≤ (nativeTimeout t).patience) ∧
      (s.manager.platform.behaviour (h.info.key, h.info.reader.address) = .delay span →
        ∀ length t, (∃ r, s.readUnder name length t = .read r) ↔
          (span.nanoseconds : ℕ∞) ≤ (nativeTimeout t).patience)) ∧
    ∀ name t t', allowance t ≤ allowance t' →
      (∀ data n, s.writeUnder name data t = .written n →
        s.writeUnder name data t' = .written n) ∧
      ∀ length r, s.readUnder name length t = .read r → s.readUnder name length t' = .read r := by
  intro s
  obtain ⟨hsound, hwired, -⟩ := BenchSession.reached steps
  refine ⟨⟨nativeTimeout_eq_zero_iff, fun d => ?_, fun t t' => patience_nativeTimeout_mono,
    fun ms hpos hmax => ?_⟩, fun surroundings words e he => transfers_run hsound.balanced he,
    fun name h span hheld hopen => ⟨fun hspan data t => ?_, fun hspan length t => ?_⟩,
    fun name t t' ht => ⟨fun data n hdone => ?_, fun length r hdone => ?_⟩⟩
  · obtain ⟨hpos, hmax⟩ := timeoutMs_bounds d
    exact ⟨timeoutMs d, hpos, hmax, rfl⟩
  · rw [nativeTimeout, timeoutMs_ofMilliseconds, max_eq_left hpos, min_eq_left hmax]
  · exact BenchSession.writeUnder_delayed hsound hwired hheld hopen hspan data t
  · exact BenchSession.readUnder_delayed hsound hwired hheld hopen hspan length t
  · exact BenchSession.writeUnder_mono hsound hwired ht hdone
  · exact BenchSession.readUnder_mono hsound hwired ht hdone

/-- Surroundings with a configuration of five million seconds for reads and seven milliseconds
for writes. -/
def patient : Surroundings :=
  let s : Surroundings := { configDirectory? := some "/c" }
  ((s.save { timeouts := { readMs := 5000000000, writeMs := 7 } } s.defaultPath).toOption).getD {}

/-- An OUT endpoint answers after five milliseconds: a write under four of them fails, and one
under five completes, so it does without a timeout.  And a run of the program that is configured
so writes under seven milliseconds, and reads under the longest timeout. -/
theorem run_timeouts_slow :
    (let s := BenchSession.fresh.run
      (BenchSession.openSteps ++ [.script (⟨1, 4⟩, 0x01) (.delay (.ofMilliseconds 5))])
    s.writeUnder "h" [1] (some (.ofMilliseconds 4)) ≠ .written 1 ∧
      s.writeUnder "h" [1] (some (.ofMilliseconds 5)) = .written 1 ∧
      s.writeUnder "h" [1] none = .written 1) ∧
    let m := (BenchSession.fresh.run [.attach (.raw ⟨1, 4⟩ 2 0x1209 1)]).manager
    let words := ["transfer", "--port", "2", "--write", "01", "--read", "4"]
    ∃ e entries, run patient m words = some e ∧
      e.manager.platform.transfers = m.platform.transfers ++ entries ∧
      (∀ r ∈ entries, AsConfigured patient words r) ∧
      entries.map TransferRecord.timeout = [.ofMilliseconds 7, .ofMilliseconds maxTimeoutMs] := by
  constructor
  · intro s
    obtain ⟨-, -, hdelayed, hmono⟩ := run_timeouts
      (BenchSession.openSteps ++ [.script (⟨1, 4⟩, 0x01) (.delay (.ofMilliseconds 5))])
    obtain ⟨h, hheld, hopen, hspan⟩ : ∃ h : Held, s.held "h" = some h ∧ h.isOpen = true ∧
        s.manager.platform.behaviour (h.info.key, h.info.writer.address) =
          .delay (.ofMilliseconds 5) := ⟨_, rfl, rfl, by decide⟩
    have hwaits := (hdelayed "h" h _ hheld hopen).1 hspan [1]
    have hfive : s.writeUnder "h" [1] (some (.ofMilliseconds 5)) = .written 1 :=
      (hwaits _).mpr (by rw [patience_nativeTimeout_some, Nat.cast_le]; decide)
    refine ⟨fun hfour => ?_, hfive, (hmono "h" _ none le_top).1 [1] 1 hfive⟩
    have hlong := (hwaits _).mp hfour
    rw [patience_nativeTimeout_some, Nat.cast_le] at hlong
    exact absurd hlong (by decide)
  · intro m words
    obtain ⟨-, hrun, -⟩ := run_timeouts [.attach (.raw ⟨1, 4⟩ 2 0x1209 1)]
    have hmap : (run patient m words).map
        (fun e => e.manager.platform.transfers.map TransferRecord.timeout) =
          some [.ofMilliseconds 7, .ofMilliseconds maxTimeoutMs] := by decide +kernel
    obtain ⟨e, he, hlog⟩ := Option.map_eq_some_iff.mp hmap
    obtain ⟨entries, hentries, hconfigured⟩ := hrun patient words e he
    refine ⟨e, entries, he, hentries, hconfigured, ?_⟩
    rw [← hlog, hentries]
    rfl

end Program

end UsbPipe
