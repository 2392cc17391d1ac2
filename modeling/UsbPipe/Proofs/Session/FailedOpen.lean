/-
An open that fails leaves no trace.

Whatever a session did before, whatever failures were asked for, and also if a shutdown
begins while the interface is being claimed: after an open that fails, references,
handles, channels, records and transfers are as they were.

* `openWith_error_traceless`: what a failed open leaves as it was.
* `openWith_error_refused`: an open that is refused after its claim.
-/
import UsbPipe.Proofs.Session.Balance

namespace UsbPipe

open Usb Manager

namespace BenchSession

variable {meanwhile : Manager Bench Instance DeviceKey → Manager Bench Instance DeviceKey}

/-- After a failed open on the manager of any reachable session, the pool and the native
references count what they counted before, each handle that was opened was closed, the
channels and those that keep a shutdown waiting are the same, the kept records find what
they hold, and no transfer was made.  The claims are the same as well, if the interface
that was resolved had not been claimed before. -/
theorem openWith_error_traceless (steps : List Step) (hm : OnlyShutdown meanwhile)
    {info : RawInterface} {e : UsbError} {m' : Manager Bench Instance DeviceKey}
    (h : (fresh.run steps).manager.openWith meanwhile info = (.error e, m')) :
    let s := fresh.run steps
    let m := s.manager
    (m'.pool.size = m.pool.size ∧ m'.pool.outstanding = m.pool.outstanding ∧
      ∀ key, m'.pool.refs key = m.pool.refs key) ∧
    (∀ key, m'.platform.liveRefs key = m.platform.liveRefs key) ∧
    (∃ n ≤ 1, m'.platform.calls.opens = m.platform.calls.opens + n ∧
      m'.platform.calls.closes = m.platform.calls.closes + n) ∧
    (m'.registered = m.registered ∧ m'.channels = m.channels) ∧
    (∀ f ∈ s.records, (m.pool.find? f.hold.id).isSome = true ∧
      m'.pool.find? f.hold.id = m.pool.find? f.hold.id) ∧
    m'.platform.transfers = m.platform.transfers ∧
    ((∀ f, m.target? info = some f →
        m.platform.isClaimed f.info.key f.info.interface = false) →
      m'.platform.claimed = m.platform.claimed) := by
  intro s m
  have hs : s.toSession.Sound [] [] := sound_run steps
  have hb : m.Balanced (s.records.map Found.hold) 0 := hs.balanced
  have hb' : m'.Balanced (s.records.map Found.hold) 0 := by
    have hopen := hb.openWith hm.accounts_eq info
    rwa [h] at hopen
  have hby := bystanders_openWith_error hm h
  have hchannels : m'.channels = m.channels := by
    rcases hby with ⟨n, -, heq⟩ | ⟨f, -, heq⟩ <;> exact congrArg (·.channels) heq
  -- the pools back the same holds, so their records are the same
  have hholds : m'.channelHolds = m.channelHolds := by rw [channelHolds, hchannels]; rfl
  have hbacks := hb.stocked.backs
  have hbacks' := hb'.stocked.backs
  rw [hholds] at hbacks'
  have hperm : m'.pool.records.Perm m.pool.records := hbacks'.records_perm hbacks
  refine ⟨⟨hperm.length_eq, ?_, fun key => ?_⟩, fun key => ?_, ?_, ⟨?_, hchannels⟩, ?_, ?_, ?_⟩
  · rw [hbacks'.outstanding_eq, hbacks.outstanding_eq]
  · rw [hbacks'.refs_eq_countP, hbacks.refs_eq_countP]
  · rw [hb'.liveRefs_eq, hb.liveRefs_eq, hperm.countP_eq]
  · rcases hby with ⟨n, hn, heq⟩ | ⟨f, -, heq⟩
    · exact ⟨n, hn, congrArg (·.platform.calls.opens) heq, congrArg (·.platform.calls.closes) heq⟩
    · exact ⟨1, Nat.le_refl _, congrArg (·.platform.calls.opens) heq,
        congrArg (·.platform.calls.closes) heq⟩
  · rcases hby with ⟨n, -, heq⟩ | ⟨f, -, heq⟩ <;> exact congrArg (·.registered) heq
  · intro f hf
    have hmem : f.hold ∈ s.records.map Found.hold ++ m.channelHolds :=
      List.mem_append_left _ (List.mem_map_of_mem hf)
    obtain ⟨r, hr, hid, -⟩ := hbacks.held f.hold hmem
    refine ⟨?_, hbacks'.find?_eq hbacks f.hold.id⟩
    rw [← hid, hbacks.find?_id hr]
    rfl
  · rcases hby with ⟨n, -, heq⟩ | ⟨f, -, heq⟩ <;> exact congrArg (·.platform.transfers) heq
  · intro hfree
    rcases hby with ⟨n, -, heq⟩ | ⟨f, hf, heq⟩
    · exact congrArg (·.platform.claimed) heq
    · -- the interface was claimed and released again
      have hnot : ((claimOf f).native, (claimOf f).info.interface) ∉ m.platform.claimed := by
        have hkey : f.hold.device.spec.key = f.info.key := hb.key_of_target? hf
        have hclaimed := hfree f hf
        rw [Bench.isClaimed, ← hkey] at hclaimed
        simpa [claimOf] using hclaimed
      rw [returned_granted hnot] at heq
      exact congrArg (·.platform.claimed) heq

/-- A shutdown that begins during the claim makes the open of a kept record fail.  The record
is the only hold again after it, the one handle is closed and the interface free. -/
theorem openWith_error_refused :
    let s := fresh.run [.attach (.raw ⟨1, 4⟩ 2 0x1209 0x0001), .scan {} (some "kept")]
    ∃ info m', info ∈ s.records.map Found.info ∧
      s.manager.openWith beginShutdown info = (.error .shuttingDown, m') ∧
      m'.pool.outstanding = s.manager.pool.outstanding ∧ s.manager.pool.outstanding = 1 ∧
      m'.platform.calls.closes = 1 ∧ m'.platform.claimed = s.manager.platform.claimed := by
  intro s
  have hm : OnlyShutdown beginShutdown := fun _ => Or.inr (Or.inl rfl)
  have hkept : s.records.map Found.info ≠ [] := by decide
  set info := (s.records.map Found.info).head hkept with hinfo
  have hopen : s.manager.openWith beginShutdown info =
      (.error .shuttingDown, (s.manager.openWith beginShutdown info).2) :=
    Prod.ext (by rw [hinfo]; rfl) rfl
  obtain ⟨⟨-, hout, -⟩, -, -, -, -, -, hclaims⟩ := openWith_error_traceless _ hm hopen
  refine ⟨info, _, List.head_mem hkept, hopen, hout, by decide, by rw [hinfo]; rfl, hclaims ?_⟩
  intro f _
  rfl

end BenchSession

end UsbPipe
