/-
Opens of a session, step by step.

Whatever a session did before, an open goes up the ladder of its steps: it reports the first of
them that fails and makes no call of a later one, and if none fails it adds one open channel on
the first record in the place.

* `openWith_ladder`: what an open reports, calls and leaves behind.
* `openWith_ladder_claim`: an open that fails at its claim.
-/
import UsbPipe.Proofs.Manager.Claims
import UsbPipe.Proofs.Manager.Ladder
import UsbPipe.Proofs.Session.Provenance

namespace UsbPipe

open Usb Manager

namespace Manager

variable {m m' : Manager Bench Instance DeviceKey} {H : List (Hold Instance)} {k : ℕ}
variable {meanwhile : Manager Bench Instance DeviceKey → Manager Bench Instance DeviceKey}
variable {info : RawInterface} {o : Opened}

/-- What an open that succeeds leaves behind: a channel on its target, one hold more, and the
claim. -/
lemma Balanced.openWith_figures (h : m.Balanced H k) (hm : OnlyShutdown meanwhile)
    (ho : m.openWith meanwhile info = (.ok o, m')) :
    o.id = m.lastId + 1 ∧
      (∃ c, m'.channels = m.channels ++ [c] ∧ c.id = o.id ∧ c.info = o.info ∧
        c.isClosed = false ∧ c.readTimeout = none ∧ c.writeTimeout = none) ∧
      m'.pool.outstanding = m.pool.outstanding + 1 ∧
      m'.openChannels = m.openChannels + 1 ∧
      m'.platform.isClaimed o.info.key o.info.interface = true := by
  have hroster := roster_openWith (m := m) hm.roster_eq info
  have hafter := h.openWith hm.accounts_eq info
  rw [ho] at hroster hafter
  obtain ⟨hid, c, hcid, hcinfo, hopen, hread, hwrite, hleft⟩ := hroster
  obtain ⟨f, hf, hinfo, hchannels⟩ := channel_openWith hm ho
  have hclaimed := claimed_openWith_ok h hm hf ho
  refine ⟨hid, ⟨c, congrArg Roster.channels hleft, hcid, hcinfo, hopen, hread, hwrite⟩, ?_, ?_, ?_⟩
  · have hholds : m'.channelHolds = m.channelHolds ++ [f.hold] := by
      simp [channelHolds, hchannels]
    rw [hafter.stocked.backs.outstanding_eq, h.stocked.backs.outstanding_eq, hholds]
    simp only [List.length_append, List.length_singleton]
    omega
  · have hregistered : m'.registered = m.registered ++ [o.id] := congrArg Roster.registered hleft
    rw [openChannels, openChannels, hregistered, List.length_append, List.length_singleton]
  · rw [isClaimed_iff, hclaimed, hinfo]
    exact List.mem_insert_self

/-- An open that succeeds is on the record for `info`. -/
lemma recordFor?_of_openWith (ho : m.openWith meanwhile info = (.ok o, m')) :
    m.platform.recordFor? info = some o.info := by
  obtain ⟨⟨infos, hwalked, hfind⟩, -⟩ := openWith_ok ho
  have hrescan : m.platform.rescan info = (infos, none) := hwalked
  rw [Bench.recordFor?_eq, hrescan]
  exact hfind

end Manager

namespace BenchSession

variable {meanwhile : Manager Bench Instance DeviceKey → Manager Bench Instance DeviceKey}

/-- An open on the manager of any reachable session goes up its rungs in order.  If one of them
fails, the open reports the error of the first that does; the calls it makes are those of the
rungs up to there, and those that take them back.  If none fails, it is on the first record of
its rescan in the place of `info`: there is one channel more, open and without timeouts, one
hold more, and the interface is claimed. -/
theorem openWith_ladder (steps : List Step) (hm : OnlyShutdown meanwhile) (info : RawInterface) :
    let m := (fresh.run steps).manager
    let opened := m.openWith meanwhile info
    let noted := (m.watched []).openWith (aside meanwhile) info
    let rungs := m.openRungs info opened.2.shuttingDown
    unwatch noted = opened ∧ noted.2.platform.calls = (climb rungs).2 ∧
    (∀ begins, (∀ m, (meanwhile m).shuttingDown = (m.shuttingDown || begins)) →
      climb rungs = climb (m.openRungs info begins)) ∧
    match opened with
    | (.error e, _) => (climb rungs).1 = some e
    | (.ok o, m') => (climb rungs).1 = none ∧
        m.platform.recordFor? info = some o.info ∧ o.id = m.lastId + 1 ∧
        (∃ c, m'.channels = m.channels ++ [c] ∧ c.id = o.id ∧ c.info = o.info ∧
          c.isClosed = false ∧ c.readTimeout = none ∧ c.writeTimeout = none) ∧
        m'.pool.outstanding = m.pool.outstanding + 1 ∧
        m'.openChannels = m.openChannels + 1 ∧
        m'.platform.isClaimed o.info.key o.info.interface = true := by
  intro m opened noted rungs
  have hident : (m.watched []).unwatched.Identified := identified_run steps
  have hbalanced : m.Balanced ((fresh.run steps).records.map Found.hold) 0 :=
    (sound_run steps).balanced
  have hsame : unwatch noted = opened := unwatch_openWith info
  obtain ⟨herror, hcalls⟩ : Climbs rungs (m.watched []) noted := climbs_openWith hident hm info
  refine ⟨hsame, hcalls, fun begins hb => climb_openRungs (m := m.watched []) hb hident info, ?_⟩
  have hresult : noted.1 = opened.1 := congrArg Prod.fst hsame
  rw [hresult] at herror
  rcases ho : opened with ⟨e | o, m'⟩ <;> rw [ho] at herror
  · exact herror.symm
  · exact ⟨herror.symm, recordFor?_of_openWith ho, hbalanced.openWith_figures hm ho⟩

/-- Drivers cannot be detached, which is tolerated; the claim is refused, and a shutdown that
begins meanwhile is not what the open reports.  The handle is closed again, and nothing is
released. -/
theorem openWith_ladder_claim :
    let steps : List Step := [.attach (.raw ⟨1, 4⟩ 2 0x1209 1), .enumerate {} (some "r"),
      .fail (.autoDetach (some .notSupported)), .fail (.detach (some .notFound)),
      .fail (.claim ⟨1, 4⟩ .busy)]
    let s := fresh.run steps
    ∃ info ∈ s.records.map Found.info, ∃ m',
      s.manager.openWith beginShutdown info = (.error (.claim 0 .busy), m') ∧
      m'.shuttingDown = true ∧
      ((s.manager.watched []).openWith (aside beginShutdown) info).2.platform.calls =
        [.listing, .openDevice (some ⟨1, 4⟩), .autoDetach ⟨1, 4⟩, .detach ⟨1, 4⟩ 0,
          .claim ⟨1, 4⟩ 0, .closeHandle ⟨1, 4⟩] := by
  intro steps s
  have hm : OnlyShutdown beginShutdown := fun _ => Or.inr (Or.inl rfl)
  have hbegun : ∀ m : Manager Bench Instance DeviceKey,
      (beginShutdown m).shuttingDown = (m.shuttingDown || true) := by
    intro m
    rw [beginShutdown, Bool.or_true]
    split_ifs with hdown
    · exact hdown
    · rfl
  obtain ⟨info, hmem, hclimb, hdown⟩ : ∃ info ∈ s.records.map Found.info,
      climb (s.manager.openRungs info true) = (some (.claim 0 .busy),
        [.listing, .openDevice (some ⟨1, 4⟩), .autoDetach ⟨1, 4⟩, .detach ⟨1, 4⟩ 0,
          .claim ⟨1, 4⟩ 0, .closeHandle ⟨1, 4⟩]) ∧
      (s.manager.openWith beginShutdown info).2.shuttingDown = true := by decide +kernel
  obtain ⟨-, hcalls, hbegins, hresult⟩ := openWith_ladder steps hm info
  rw [(hbegins true hbegun).trans hclimb] at hcalls hresult
  rcases ho : s.manager.openWith beginShutdown info with ⟨e | o, m'⟩ <;> rw [ho] at hresult hdown
  · cases hresult
    exact ⟨info, hmem, m', ho, hdown, hcalls⟩
  · cases hresult.1

end BenchSession

end UsbPipe
