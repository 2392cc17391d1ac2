/-
The transfer log of the bench.

The bench logs every native transfer.  A write or a read on an open channel adds one entry,
which says what the user of the channel knows of it, and comes back with the native result as
the log has it; on a closed channel it adds none.  Nothing else adds to the log but an
exchange, which writes, and then may read, on a channel of its own.

* `Held`: what a user knows of a channel; `Held.written`, `Held.received`: the entries of a
  write and of a read on it.
* `told`: the error that a caller gets for a native one.
* `write_open`, `receive_open`: transfers.
* `Undisturbed`: all that a transfer does besides is to note events and take a chunk.
* `traffic_opening`, `traffic_closing`: opens and closes leave the log alone;
  `transfers_openWith`, `transfers_dropChannel` and the like.
* `transfers_exchangeWith`: what an exchange adds to it.
-/
import UsbPipe.Proofs.Command.Neutral
import UsbPipe.Proofs.Manager.Target

namespace UsbPipe

open Usb

/-! ### What a user knows of a channel -/

/-- A channel as its user knows it: its interface, whether it is open, and the timeouts last
set. -/
structure Held where
  info : RawInterface
  isOpen : Bool := true
  readTimeout : Option Duration := none
  writeTimeout : Option Duration := none

/-- The error that a caller gets for a native one: an expired timeout is told apart, with the
timeout that the native layer was given. -/
def told (endpoint : EndpointInfo) (timeout : Option Duration) : NativeError → UsbError
  | .timeout => .timeout endpoint.address (nativeTimeout timeout)
  | e => .transfer endpoint.address e

namespace Held

/-- What there is to know of a channel. -/
def ofChannel (c : Channel Instance DeviceKey) : Held :=
  ⟨c.info, !c.isClosed, c.readTimeout, c.writeTimeout⟩

/-- The entry of a write. -/
def written (h : Held) (data : Bytes) (result : Except NativeError ℕ) : TransferRecord :=
  ⟨h.info.key, h.info.writer.address, h.info.writer.transferType, .output, data,
    nativeTimeout h.writeTimeout, result⟩

/-- The entry of a read. -/
def received (h : Held) (result : Except NativeError ℕ) : TransferRecord :=
  ⟨h.info.key, h.info.reader.address, h.info.reader.transferType, .input, [],
    nativeTimeout h.readTimeout, result⟩

/-- The error of a write. -/
def writeError (h : Held) : NativeError → UsbError := told h.info.writer h.writeTimeout

/-- The error of a read. -/
def readError (h : Held) : NativeError → UsbError := told h.info.reader h.readTimeout

end Held

/-- The transfer log of a bench, and the chunks that wait there. -/
def Bench.traffic (b : Bench) : List TransferRecord × List (EndpointKey × List Bytes) :=
  (b.transfers, b.queues)

namespace Manager

variable {m m' : Manager Bench Instance DeviceKey} {c : Channel Instance DeviceKey}
  {H : List (Hold Instance)} {k : ℕ}

/-! ### Transfers -/

/-- A native result is told as it is, or as an error with the endpoint. -/
lemma finish_fst {α : Type} (endpoint : EndpointInfo) (timeout : Option Duration)
    (count : α → ℕ) (result : Except NativeError α) :
    (m.finish endpoint timeout count result).1 = result.mapError (told endpoint timeout) := by
  cases result with
  | ok a => rfl
  | error e => cases e <;> rfl

/-- Telling a native result does nothing to the native layer. -/
lemma platform_finish {α : Type} (endpoint : EndpointInfo) (timeout : Option Duration)
    (count : α → ℕ) (result : Except NativeError α) :
    (m.finish endpoint timeout count result).2.platform = m.platform :=
  Frame.finish (P := fun m' => m'.platform = m.platform) ⟨fun _ _ _ h => h⟩ rfl ..

/-- A transfer on an open channel is made with the kind of its endpoint and the timeout as the
native layer takes it, and its result is told. -/
lemma transfer_open {α : Type} (hopen : c.native? = some c.info.key) (direction : Direction)
    (endpoint : EndpointInfo) (timeout : Option Duration) (count : α → ℕ)
    (call : DeviceKey → RawKind → Duration → Bench → Except NativeError α × Bench)
    {kind : RawKind} (hkind : endpoint.transferType.raw? = some kind) :
    (m.transfer c direction endpoint timeout count call).1 =
        (call c.info.key kind (nativeTimeout timeout) m.platform).1.mapError
          (told endpoint timeout) ∧
      (m.transfer c direction endpoint timeout count call).2.platform.transfers =
        (call c.info.key kind (nativeTimeout timeout) m.platform).2.transfers := by
  rw [transfer, hopen]
  simp only [hkind, native_eq]
  exact ⟨finish_fst .., congrArg Bench.transfers (platform_finish ..)⟩

/-- The handle of an open channel is on its device. -/
lemma native_of_open (hw : c.Wired) (hopen : c.isClosed = false) :
    c.native? = some c.info.key := by
  cases hn : c.native? with
  | none => simp [Channel.isClosed, hn] at hopen
  | some handle => rw [hw.native handle hn]

/-- A write on an open channel adds its entry to the log, and tells the result of that. -/
lemma write_open {id : ℕ} (hc : m.channel? id = some c) (hw : c.Wired)
    (hopen : c.isClosed = false) (data : Bytes) :
    ∃ result, (m.write id data).1 = result.mapError (Held.ofChannel c).writeError ∧
      (m.write id data).2.platform.transfers =
        m.platform.transfers ++ [(Held.ofChannel c).written data result] := by
  obtain ⟨kind, hkind⟩ := Option.isSome_iff_exists.mp hw.writer
  obtain ⟨hresult, hlog⟩ := transfer_open (m := m) (native_of_open hw hopen) .output c.info.writer
    c.writeTimeout (fun n => n)
    (fun handle kind t => Platform.write handle kind c.info.writer.address data t) hkind
  rw [write, hc]
  refine ⟨_, hresult, hlog.trans ?_⟩
  simp only [Platform.write, Bench.write, Held.written, Held.ofChannel,
    TransferType.raw?_eq_some.mp hkind]

/-- A read on an open channel adds its entry to the log, and tells the result of that. -/
lemma receive_open {id : ℕ} (hc : m.channel? id = some c) (hw : c.Wired)
    (hopen : c.isClosed = false) (limit : ℕ) :
    ∃ result : Except NativeError Bytes,
      (m.receive id limit).1 = result.mapError (Held.ofChannel c).readError ∧
      (m.receive id limit).2.platform.transfers =
        m.platform.transfers ++ [(Held.ofChannel c).received (result.map List.length)] := by
  obtain ⟨kind, hkind⟩ := Option.isSome_iff_exists.mp hw.reader
  obtain ⟨hresult, hlog⟩ := transfer_open (m := m) (native_of_open hw hopen) .input c.info.reader
    c.readTimeout List.length
    (fun handle kind t => Platform.read handle kind c.info.reader.address limit t) hkind
  rw [receive, hc]
  refine ⟨_, hresult, hlog.trans ?_⟩
  simp only [Platform.read, Bench.read, Held.received, Held.ofChannel,
    TransferType.raw?_eq_some.mp hkind]
  congr 1
  cases (m.platform.behaviour (c.info.key, c.info.reader.address)).outcome
    (nativeTimeout c.readTimeout) with
  | error e => rfl
  | ok _ => cases m.platform.queue (c.info.key, c.info.reader.address) <;> rfl

/-! ### What a transfer leaves alone -/

/-- The manager `m'` is `m` but for the transfer log, the chunks that wait, and the events. -/
def Undisturbed (m m' : Manager Bench Instance DeviceKey) : Prop :=
  ∃ log queues events, m' =
    { m with
      events := events
      platform := { m.platform with transfers := log, queues := queues } }

namespace Undisturbed

lemma refl (m : Manager Bench Instance DeviceKey) : m.Undisturbed m := ⟨_, _, _, rfl⟩

lemma frame (m : Manager Bench Instance DeviceKey) : Frame m.Undisturbed := by
  refine ⟨?_⟩
  rintro _ level text ⟨log, queues, events, rfl⟩
  exact ⟨log, queues, _, rfl⟩

end Undisturbed

lemma undisturbed_write (id : ℕ) (data : Bytes) : m.Undisturbed (m.write id data).2 :=
  (Undisturbed.frame m).write (.refl m) (fun _ _ _ _ => ⟨_, m.platform.queues, m.events, rfl⟩) id

lemma undisturbed_receive (id limit : ℕ) : m.Undisturbed (m.receive id limit).2 := by
  refine (Undisturbed.frame m).receive (.refl m) (fun handle kind endpoint t => ?_) id
  obtain ⟨log, queues, hread⟩ := native_read m handle kind endpoint limit t
  exact ⟨log, queues, m.events, hread⟩

/-! ### What leaves the log alone -/

lemma transfers_of_bystanders (h : m'.bystanders = m.bystanders) :
    m'.platform.transfers = m.platform.transfers := congrArg (·.platform.transfers) h

/-- Opens make no transfer, and take no chunk. -/
lemma traffic_opening (t : List TransferRecord × List (EndpointKey × List Bytes)) :
    Frame.Opening fun m : Manager Bench Instance DeviceKey => m.platform.traffic = t where
  log _ _ _ ht := ht
  release _ x ht := Eq.trans (congrArg (·.platform.traffic) (settled_release x)) ht
  ready _ ht := Eq.trans (congrArg (·.platform.traffic) bystanders_ready) ht
  walk _ filter ht := Eq.trans (congrArg (·.platform.traffic) (settled_walk filter)) ht
  autoDetach _ _ ht := ht
  detach _ _ _ ht := ht
  claim m handle interface ht := by
    obtain ⟨claimed, hclaim⟩ := native_claim m handle interface
    rw [hclaim]
    exact ht
  yield _ _ _ ht := ht
  closeHandle _ _ ht := ht
  openDevice m i ht := by
    rcases native_openDevice (m := m) i with ⟨e, ho⟩ | ho <;> rw [ho] <;> exact ht

/-- Nor do closes. -/
lemma traffic_closing (t : List TransferRecord × List (EndpointKey × List Bytes)) :
    Frame.Closing fun m : Manager Bench Instance DeviceKey => m.platform.traffic = t where
  toYielding := (traffic_opening t).toYielding
  empty _ _ ht := ht
  deregister _ _ ht := ht
  forget _ _ ht := ht

section Meanwhile

variable {meanwhile : Manager Bench Instance DeviceKey → Manager Bench Instance DeviceKey}

lemma traffic_openWith (hm : OnlyShutdown meanwhile) (info : RawInterface) :
    (m.openWith meanwhile info).2.platform.traffic = m.platform.traffic :=
  (traffic_opening m.platform.traffic).openWith
    (fun m₁ ht => Eq.trans (congrArg (·.platform.traffic) (hm.bystanders_eq m₁)) ht)
    (fun _ _ ht => ht) rfl info

lemma transfers_openWith (hm : OnlyShutdown meanwhile) (info : RawInterface) :
    (m.openWith meanwhile info).2.platform.transfers = m.platform.transfers :=
  congrArg Prod.fst (traffic_openWith hm info)

end Meanwhile

lemma traffic_close (id : ℕ) : (m.close id).2.platform.traffic = m.platform.traffic :=
  (traffic_closing m.platform.traffic).close rfl id

lemma traffic_dropChannel (id : ℕ) : (m.dropChannel id).platform.traffic = m.platform.traffic :=
  (traffic_closing m.platform.traffic).dropChannel rfl id

@[simp] lemma transfers_close (id : ℕ) :
    (m.close id).2.platform.transfers = m.platform.transfers :=
  congrArg Prod.fst (traffic_close id)

@[simp] lemma transfers_dropChannel (id : ℕ) :
    (m.dropChannel id).platform.transfers = m.platform.transfers :=
  congrArg Prod.fst (traffic_dropChannel id)

@[simp] lemma transfers_listInterfaces (filter : Filter) (json : Bool) (out : Sink) :
    (m.listInterfaces filter json out).manager.platform.transfers = m.platform.transfers :=
  transfers_of_bystanders (bystanders_listInterfaces filter json out)

/-! ### What an exchange adds -/

/-- What an exchange on a channel adds to the log: nothing, or the write of its payload, or
that and, behind a write that succeeded, the read of its reply. -/
def Exchanged (h : Held) (payload : Bytes) (entries : List TransferRecord) : Prop :=
  entries = [] ∨ (∃ result, entries = [h.written payload result]) ∨
    ∃ n result, entries = [h.written payload (.ok n), h.received result]

/-- Taking a reply adds at most the entry of a read. -/
lemma transfers_takeReply {o : Opened} (hc : m.channel? o.id = some c) (hw : c.Wired)
    (hopen : c.isClosed = false) (r : Request) (out : Sink) :
    ∃ entries, (m.takeReply o r out).manager.platform.transfers =
        m.platform.transfers ++ entries ∧
      (entries = [] ∨ ∃ result, entries = [(Held.ofChannel c).received result]) := by
  rw [takeReply]
  cases r.readLength with
  | none => exact ⟨[], (List.append_nil _).symm, Or.inl rfl⟩
  | some limit =>
      simp only
      cases replyRefusal? r.room limit with
      | some e => exact ⟨[], (List.append_nil _).symm, Or.inl rfl⟩
      | none =>
          obtain ⟨result, -, hlog⟩ := receive_open hc hw hopen limit
          simp only
          rcases hm : m.receive o.id limit with ⟨_ | reply, m₁⟩ <;> rw [hm] at hlog <;>
            exact ⟨_, hlog, Or.inr ⟨_, rfl⟩⟩

/-- Payload out, reply in and the close, on a channel that is open: the payload is written. -/
lemma transfers_converse {o : Opened} (hc : m.channel? o.id = some c) (hw : c.Wired)
    (hopen : c.isClosed = false) (r : Request) (out : Sink) :
    ∃ entries, (m.converse o r out).manager.platform.transfers = m.platform.transfers ++ entries ∧
      Exchanged (Held.ofChannel c) r.payload entries ∧ entries ≠ [] := by
  obtain ⟨result, hresult, hlog⟩ := write_open hc hw hopen r.payload
  have hroster := roster_write (m := m) o.id r.payload
  rw [converse]
  rcases hm : m.write o.id r.payload with ⟨_ | n, m₁⟩ <;> rw [hm] at hresult hlog hroster
  · exact ⟨_, hlog, Or.inr (Or.inl ⟨result, rfl⟩), List.cons_ne_nil _ _⟩
  · obtain rfl : result = .ok n := by
      cases result with
      | ok a => cases hresult; rfl
      | error e => cases hresult
    simp only
    rcases out.write _ with ⟨_ | _, out₁⟩
    · exact ⟨_, hlog, Or.inr (Or.inl ⟨.ok n, rfl⟩), List.cons_ne_nil _ _⟩
    · have hc₁ : m₁.channel? o.id = some c := by
        have hchannels : m₁.channels = m.channels := congrArg Roster.channels hroster
        rw [channel?, hchannels]
        exact hc
      obtain ⟨entries, htake, hentries⟩ := transfers_takeReply hc₁ hw hopen r out₁
      simp only at hlog
      rw [hlog, List.append_assoc] at htake
      have hall : Exchanged (Held.ofChannel c) r.payload
          ([(Held.ofChannel c).written r.payload (.ok n)] ++ entries) := by
        rcases hentries with rfl | ⟨received, rfl⟩
        · exact Or.inr (Or.inl ⟨.ok n, rfl⟩)
        · exact Or.inr (Or.inr ⟨n, received, rfl⟩)
      simp only
      rcases hr : m₁.takeReply o r out₁ with ⟨_ | reply, out₂, m₂⟩ <;> rw [hr] at htake
      · exact ⟨_, htake, hall, List.cons_ne_nil _ _⟩
      · have hclose := (transfers_close (m := m₂) o.id).trans htake
        simp only
        rcases hk : m₂.close o.id with ⟨_ | ⟨⟩, m₃⟩ <;> rw [hk] at hclose <;>
          exact ⟨_, hclose, hall, List.cons_ne_nil _ _⟩

/-- The channel of an exchange, once it has the timeouts that are asked for. -/
lemma channel?_configured {l : List (Channel Instance DeviceKey)} {o : Opened}
    (hl : m.channels = l ++ [c]) (hid : c.id = o.id) (hne : ∀ d ∈ l, d.id ≠ o.id) (r : Request) :
    ((m.setReadTimeout o.id r.readTimeout).setWriteTimeout o.id r.writeTimeout).channel? o.id =
      some { c with readTimeout := r.readTimeout, writeTimeout := r.writeTimeout } := by
  have hread := updateChannel_last hl hid hne fun c => { c with readTimeout := r.readTimeout }
  have hwrite := updateChannel_last hread hid hne fun c => { c with writeTimeout := r.writeTimeout }
  exact channel?_last hwrite hid hne

/-- An exchange that has opened its interface has an open channel there, with the timeouts that
it is asked for. -/
lemma channel?_opened (h : m.Balanced H k)
    {meanwhile : Manager Bench Instance DeviceKey → Manager Bench Instance DeviceKey}
    (hm : OnlyShutdown meanwhile) {info : RawInterface} {o : Opened}
    (ho : m.openWith meanwhile info = (.ok o, m')) (found : List (Found Instance)) (r : Request) :
    ∃ c, (((m'.discard found).setReadTimeout o.id r.readTimeout).setWriteTimeout o.id
        r.writeTimeout).channel? o.id = some c ∧ c.Wired ∧ c.isClosed = false ∧
      Held.ofChannel c = ⟨o.info, true, r.readTimeout, r.writeTimeout⟩ := by
  obtain ⟨d, hd, hid, hinfo, hopen, -, -, hw⟩ := h.wired_openWith hm ho
  have hnew := (joined_openWith hm.roster_eq h.dated ho).new
  have hd' : (m'.discard found).channels = m.channels ++ [d] :=
    (congrArg Roster.channels (roster_discard (m := m') found)).trans hd
  refine ⟨_, channel?_configured hd' hid hnew r, ⟨hw.native, hw.reader, hw.writer⟩, hopen, ?_⟩
  have hisOpen : (!d.isClosed) = true := by rw [hopen]; rfl
  rw [← hinfo, ← hisOpen]
  rfl

/-- An exchange adds to the log what it sends and receives on its own channel, with the
timeouts that it is asked for. -/
lemma transfers_exchangeWith (h : m.Balanced H k)
    {meanwhile : Manager Bench Instance DeviceKey → Manager Bench Instance DeviceKey}
    (hm : OnlyShutdown meanwhile) (r : Request) (out : Sink) :
    ∃ entries, (m.exchangeWith meanwhile r out).manager.platform.transfers =
        m.platform.transfers ++ entries ∧
      (entries = [] ∨ ∃ x : Held, x.readTimeout = r.readTimeout ∧
        x.writeTimeout = r.writeTimeout ∧ Exchanged x r.payload entries) := by
  have hnone : ∀ {m' : Manager Bench Instance DeviceKey},
      m'.platform.transfers = m.platform.transfers →
      ∃ entries, m'.platform.transfers = m.platform.transfers ++ entries ∧
        (entries = [] ∨ ∃ x : Held, x.readTimeout = r.readTimeout ∧
          x.writeTimeout = r.writeTimeout ∧ Exchanged x r.payload entries) := fun heq =>
    ⟨[], by rw [heq, List.append_nil], Or.inl rfl⟩
  have henum := bystanders_enumerate (m := m) r.filter
  have hbal := h.enumerate r.filter
  rw [exchangeWith]
  rcases he : m.enumerate r.filter with ⟨_ | found, m₁⟩ <;> rw [he] at henum hbal
  · exact hnone (transfers_of_bystanders henum)
  · simp only
    cases found.find? r.wants with
    | none =>
        exact hnone ((transfers_of_bystanders (bystanders_discard found)).trans
          (transfers_of_bystanders henum))
    | some target =>
        have hlog : (m₁.openWith meanwhile target.info).2.platform.transfers =
            m.platform.transfers :=
          (transfers_openWith hm target.info).trans (transfers_of_bystanders henum)
        simp only
        rcases ho : m₁.openWith meanwhile target.info with ⟨_ | o, m₂⟩ <;> rw [ho] at hlog
        · exact hnone ((transfers_of_bystanders (bystanders_discard found)).trans hlog)
        · obtain ⟨c, hc, hw, hopen, hheld⟩ := channel?_opened hbal hm ho found r
          obtain ⟨entries, hconv, hentries, -⟩ := transfers_converse hc hw hopen r out
          rw [hheld] at hentries
          have hlog₁ : (m₂.discard found).platform.transfers = m.platform.transfers :=
            (transfers_of_bystanders (bystanders_discard found)).trans hlog
          refine ⟨entries, (transfers_dropChannel o.id).trans (hconv.trans ?_),
            Or.inr ⟨_, rfl, rfl, hentries⟩⟩
          exact congrArg (· ++ entries) hlog₁

end Manager

end UsbPipe
