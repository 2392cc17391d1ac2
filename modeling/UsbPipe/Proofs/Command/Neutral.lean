/-
Commands leave no resources behind.

A command holds records while it works, and an exchange opens a channel.  Wherever it ends,
whether it succeeds or fails, it has given the records back and dropped the channel.  On any
native layer the channels and the registry are then as they were before; on the bench so are
the pool, the references and the handles.

* `roster_listInterfaces`, `roster_exchangeWith`: channels and registry, on any native layer.
* `SameResources`: two managers that hold the same; `Balanced.sameResources`.
* `Balanced.listInterfaces_same`, `Balanced.exchangeWith_same`: what commands hold, on the
  bench.
-/
import UsbPipe.Proofs.Command.Balance
import UsbPipe.Proofs.Manager.Roster

namespace UsbPipe

open Usb

namespace Manager

/-! ### Channels and registry -/

section AnyLayer

variable {σ δ η : Type} [Platform σ δ η] {m : Manager σ δ η} {t : Roster δ η}

/-- A listing leaves the roster alone. -/
@[simp] lemma roster_listInterfaces (filter : Filter) (json : Bool) (out : Sink) :
    (m.listInterfaces filter json out).manager.roster = m.roster :=
  (roster_opening m.roster).listInterfaces (roster_enumerate filter) json out

/-- Payload out, reply in and the close leave all channels alone but their own. -/
lemma joined_converse {c : Opened} (h : t.Joined c.id m.roster) (r : Request) (out : Sink) :
    t.Joined c.id (m.converse c r out).manager.roster :=
  Frame.converse (P := fun m => t.Joined c.id m.roster) ⟨fun _ _ _ h => h⟩
    (h.congr (roster_write c.id r.payload)) (fun _ limit h => h.congr (roster_receive c.id limit))
    (fun _ h => h.close) out

/-- The channel that an open adds joins the others. -/
lemma joined_openWith {meanwhile : Manager σ δ η → Manager σ δ η} {info : RawInterface}
    {c : Opened} {m' : Manager σ δ η} (hm : ∀ m, (meanwhile m).roster = m.roster)
    (hd : m.roster.Dated) (h : m.openWith meanwhile info = (.ok c, m')) :
    m.roster.Joined c.id m'.roster := by
  have hopen := roster_openWith (m := m) hm info
  rw [h] at hopen
  obtain ⟨hid, d, hdid, -, hopened, -, -, hroster⟩ := hopen
  refine ⟨fun e he => ?_, fun hreg => ?_, d, congrArg Roster.channels hroster, hdid, ?_⟩
  · have hle : e.id ≤ m.lastId := hd.channels e he
    omega
  · have hle : c.id ≤ m.lastId := hd.registered c.id hreg
    omega
  · rw [hopened]
    exact congrArg Roster.registered hroster

/-- An exchange leaves the table of channels and the registry as they were, wherever it ends. -/
theorem roster_exchangeWith {meanwhile : Manager σ δ η → Manager σ δ η}
    (hm : ∀ m, (meanwhile m).roster = m.roster) (hd : m.roster.Dated) (r : Request) (out : Sink) :
    (m.exchangeWith meanwhile r out).manager.channels = m.channels ∧
      (m.exchangeWith meanwhile r out).manager.registered = m.registered := by
  have hsame : ∀ {m' : Manager σ δ η}, m'.roster = m.roster →
      m'.channels = m.channels ∧ m'.registered = m.registered := fun h =>
    ⟨congrArg Roster.channels h, congrArg Roster.registered h⟩
  have henum := roster_enumerate (m := m) r.filter
  rw [Manager.exchangeWith]
  rcases he : m.enumerate r.filter with ⟨_ | found, m₁⟩ <;> rw [he] at henum
  · exact hsame henum
  · simp only
    cases found.find? r.wants with
    | none => exact hsame ((roster_discard found).trans henum)
    | some target =>
        have hopen := roster_openWith (m := m₁) hm target.info
        simp only
        rcases ho : m₁.openWith meanwhile target.info with ⟨_ | c, m₂⟩ <;> rw [ho] at hopen
        · exact hsame ((roster_discard found).trans (hopen.trans henum))
        · have hd₁ : m₁.roster.Dated := by
            have hroster : m₁.roster = m.roster := henum
            rwa [hroster]
          have hjoined := (joined_openWith hm hd₁ ho).congr (roster_discard found)
          have hset := (hjoined.update (f := fun c => { c with readTimeout := r.readTimeout })
            (fun _ => rfl) fun _ => rfl).update
              (f := fun c => { c with writeTimeout := r.writeTimeout }) (fun _ => rfl) fun _ => rfl
          obtain ⟨hchannels, hregistered⟩ := (joined_converse hset r out).dropChannel
          exact ⟨hchannels.trans (congrArg Roster.channels henum),
            hregistered.trans (congrArg Roster.registered henum)⟩

end AnyLayer

/-! ### Everything else, on the bench -/

variable {m m' : Manager Bench Instance DeviceKey} {H : List (Hold Instance)} {k : ℕ}

/-- Two managers hold the same: channels, native handles, holds and native references. -/
structure SameResources (m m' : Manager Bench Instance DeviceKey) : Prop where
  channels : m'.channels = m.channels
  openChannels : m'.openChannels = m.openChannels
  nativeOpen : m'.platform.calls.opens - m'.platform.calls.closes =
    m.platform.calls.opens - m.platform.calls.closes
  size : m'.pool.size = m.pool.size
  outstanding : m'.pool.outstanding = m.pool.outstanding
  refs : ∀ key, m'.pool.refs key = m.pool.refs key
  totalLiveRefs : m'.platform.totalLiveRefs = m.platform.totalLiveRefs
  liveRefs : ∀ key, m'.platform.liveRefs key = m.platform.liveRefs key

/-- What is balanced for the same holds in the user's hands and has the same channels holds
the same. -/
lemma Balanced.sameResources (h : m.Balanced H k) (h' : m'.Balanced H k)
    (hchannels : m'.channels = m.channels) : SameResources m m' := by
  have hholds : m'.channelHolds = m.channelHolds := by rw [channelHolds, hchannels]; rfl
  have hopened : m'.opened = m.opened := by rw [opened, hchannels]; rfl
  have hregistered : m'.registered = m.registered := by
    rw [h'.registered_eq, h.registered_eq, hopened]
  have hbacks := h.stocked.backs
  have hbacks' := h'.stocked.backs
  rw [hholds] at hbacks'
  have hperm : m'.pool.records.Perm m.pool.records := hbacks'.records_perm hbacks
  have hlive : ∀ key, m'.platform.liveRefs key = m.platform.liveRefs key := by
    intro key
    rw [h'.liveRefs_eq, h.liveRefs_eq, hperm.countP_eq]
  refine ⟨hchannels, congrArg List.length hregistered, ?_, hperm.length_eq, ?_, fun key => ?_, ?_,
    hlive⟩
  · have hopens := h.opens_eq
    have hopens' := h'.opens_eq
    rw [hregistered] at hopens'
    omega
  · rw [hbacks'.outstanding_eq, hbacks.outstanding_eq]
  · rw [hbacks'.refs_eq_countP, hbacks.refs_eq_countP]
  · rw [h'.totalLiveRefs_eq, h.totalLiveRefs_eq]
    exact hperm.length_eq

/-- The ids in balanced books are those that were given out. -/
lemma Balanced.dated (h : m.Balanced H k) : m.roster.Dated where
  channels := fun c hc => h.id_le c.id (List.mem_map_of_mem hc)
  registered := by
    intro id hid
    have hreg : id ∈ m.registered := hid
    rw [h.registered_eq] at hreg
    obtain ⟨c, hc, rfl⟩ := List.mem_map.mp hreg
    exact h.id_le c.id (List.mem_map_of_mem (List.mem_filter.mp hc).1)

/-- A shutdown that begins meanwhile leaves the roster alone. -/
lemma OnlyShutdown.roster_eq
    {meanwhile : Manager Bench Instance DeviceKey → Manager Bench Instance DeviceKey}
    (hm : OnlyShutdown meanwhile) (m : Manager Bench Instance DeviceKey) :
    (meanwhile m).roster = m.roster := by
  rcases hm m with h | h | h <;> rw [h]
  · exact roster_beginShutdown
  · exact roster_shutdownNow

/-- A listing holds nothing when it ends. -/
theorem Balanced.listInterfaces_same (h : m.Balanced H k) (filter : Filter) (json : Bool)
    (out : Sink) : SameResources m (m.listInterfaces filter json out).manager :=
  h.sameResources (h.listInterfaces filter json out)
    (congrArg Roster.channels (roster_listInterfaces filter json out))

/-- Nor does an exchange. -/
theorem Balanced.exchangeWith_same (h : m.Balanced H k)
    {meanwhile : Manager Bench Instance DeviceKey → Manager Bench Instance DeviceKey}
    (hm : OnlyShutdown meanwhile) (r : Request) (out : Sink) :
    SameResources m (m.exchangeWith meanwhile r out).manager :=
  h.sameResources (h.exchangeWith hm r out).1
    (roster_exchangeWith hm.roster_eq h.dated r out).1

end Manager

end UsbPipe
