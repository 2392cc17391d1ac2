/-
The chunks that wait for reads.

Chunks wait on the IN endpoints of devices, not on channels: opens, closes and scans leave them
alone, and so do writes.  A read that completes takes the chunk that waits first on the IN
endpoint of its channel, if one does, and no other.  It fills the front of the buffer with what
fits of that chunk.  A read that does not complete takes nothing.

* `Manager.waiting`: the chunks that wait, by endpoint.
* `waiting_openWith`, `waiting_close` and the like: what leaves them alone.
* `Bench.queue_pushRead`, `Bench.queue_read`: what adds and what takes a chunk.
* `Manager.readOutcome`, `receive_cases`: when a read on an open channel completes, and what it
  takes and comes back with.
* `Manager.Filled`: what a read into a buffer that succeeds made of the buffer.
* `Manager.Delivers`: what becomes of a read; `Wired.delivers`: every read.
* `Manager.Fetches`: what the reply of an exchange takes; `fetches_exchangeWith`.
-/
import Mathlib.Logic.Function.Basic
import UsbPipe.Proofs.Command.Balance
import UsbPipe.Proofs.Manager.Timeouts

namespace UsbPipe

open Usb

/-- The IN endpoint of an interface on its device. -/
def Usb.RawInterface.inPipe (i : RawInterface) : EndpointKey := (i.key, i.reader.address)

/-! ### Queues of the bench -/

namespace Bench

/-- Other chunks on one endpoint leave the other endpoints alone. -/
lemma queue_setQueue (b : Bench) (pipe : EndpointKey) (chunks : List Bytes) :
    (b.setQueue pipe chunks).queue = Function.update b.queue pipe chunks := by
  funext other
  rw [queue, setQueue]
  by_cases hother : other = pipe
  · subst hother
    rw [Function.update_self, List.lookup_cons_self]
    rfl
  · rw [Function.update_of_ne hother, List.lookup_cons, beq_false_of_ne hother]
    exact congrArg (·.getD []) (lookup_filter_of_ne (Ne.symm hother) b.queues)

/-- A chunk for later waits behind the others. -/
lemma queue_pushRead (b : Bench) (pipe : EndpointKey) (chunk : Bytes) :
    (b.pushRead pipe chunk).queue =
      Function.update b.queue pipe (b.queue pipe ++ [chunk]) :=
  queue_setQueue b pipe _

/-- An IN transfer that completes takes the first chunk that waits on its endpoint. -/
lemma queue_read (handle : DeviceKey) (kind : RawKind) (endpoint : UInt8) (limit : ℕ)
    (timeout : Duration) (b : Bench) :
    (b.read handle kind endpoint limit timeout).2.queue =
      match (b.behaviour (handle, endpoint)).outcome timeout with
      | .error _ => b.queue
      | .ok () =>
        Function.update b.queue (handle, endpoint) (b.queue (handle, endpoint)).tail := by
  simp only [Bench.read]
  cases (b.behaviour (handle, endpoint)).outcome timeout with
  | error e => rfl
  | ok _ =>
      cases hqueue : b.queue (handle, endpoint) with
      | nil =>
          show b.queue = Function.update b.queue (handle, endpoint) []
          rw [← hqueue, Function.update_eq_self]
      | cons chunk chunks => exact queue_setQueue b (handle, endpoint) chunks

end Bench

namespace Manager

variable {m m' : Manager Bench Instance DeviceKey} {c : Channel Instance DeviceKey} {id : ℕ}

/-- The chunks that wait on each endpoint. -/
def waiting (m : Manager Bench Instance DeviceKey) : EndpointKey → List Bytes := m.platform.queue

/-- The chunk that waits first on the IN endpoint of an interface, which is blank if none does. -/
def chunkFor (m : Manager Bench Instance DeviceKey) (i : RawInterface) : Bytes :=
  (m.waiting i.inPipe).headD []

/-- The chunk that waits first on the IN endpoint of an interface is taken, if one does. -/
def TakesFor (m m' : Manager Bench Instance DeviceKey) (i : RawInterface) : Prop :=
  m'.waiting = Function.update m.waiting i.inPipe (m.waiting i.inPipe).tail

/-! ### What leaves them alone -/

lemma waiting_congr (h : m'.platform.traffic = m.platform.traffic) : m'.waiting = m.waiting :=
  funext fun pipe => congrArg (fun t => (t.2.lookup pipe).getD []) h

lemma waiting_of_bystanders (h : m'.bystanders = m.bystanders) : m'.waiting = m.waiting :=
  waiting_congr (congrArg (·.platform.traffic) h)

lemma waiting_openWith
    {meanwhile : Manager Bench Instance DeviceKey → Manager Bench Instance DeviceKey}
    (hm : OnlyShutdown meanwhile) (info : RawInterface) :
    (m.openWith meanwhile info).2.waiting = m.waiting :=
  waiting_congr (traffic_openWith hm info)

@[simp] lemma waiting_close (id : ℕ) : (m.close id).2.waiting = m.waiting :=
  waiting_congr (traffic_close id)

@[simp] lemma waiting_dropChannel (id : ℕ) : (m.dropChannel id).waiting = m.waiting :=
  waiting_congr (traffic_dropChannel id)

/-! ### Transfers -/

/-- A write leaves the chunks alone. -/
lemma waiting_write (id : ℕ) (data : Bytes) : (m.write id data).2.waiting = m.waiting :=
  Frame.write (P := fun m' => m'.waiting = m.waiting) ⟨fun _ _ _ h => h⟩ rfl (fun _ _ _ _ => rfl) id

/-- What reads on a channel come to: what its IN endpoint does, under the timeout of the channel. -/
def readOutcome (m : Manager Bench Instance DeviceKey) (c : Channel Instance DeviceKey) :
    Except NativeError Unit :=
  (m.platform.behaviour c.info.inPipe).outcome (nativeTimeout c.readTimeout)

/-- A read on an open channel fails and takes nothing, or it comes back with what fits of the
chunk that it takes. -/
lemma receive_cases (hc : m.channel? id = some c) (hw : c.Wired) (hopen : c.isClosed = false)
    (limit : ℕ) :
    (∃ e m', m.readOutcome c = .error e ∧
        m.receive id limit = (.error ((Held.ofChannel c).readError e), m') ∧
        m'.waiting = m.waiting) ∨
      ∃ m', m.readOutcome c = .ok () ∧
        m.receive id limit = (.ok ((m.chunkFor c.info).take limit), m') ∧
        m.TakesFor m' c.info := by
  obtain ⟨kind, hkind⟩ := Option.isSome_iff_exists.mp hw.reader
  have htold := receive_told hc hw hopen limit
  have hwaiting : (m.receive id limit).2.waiting =
      (m.platform.read c.info.key kind c.info.reader.address limit
        (nativeTimeout c.readTimeout)).2.queue := by
    rw [receive, hc]
    simp only [transfer, native_of_open hw hopen, hkind]
    exact congrArg Bench.queue (platform_finish _ _ _ _)
  rw [Bench.queue_read] at hwaiting
  rcases hreceive : m.receive id limit with ⟨result, m'⟩
  rw [hreceive] at htold hwaiting
  rcases houtcome : (m.platform.behaviour (c.info.key, c.info.reader.address)).outcome
    (nativeTimeout c.readTimeout) with e | ⟨⟩ <;> rw [houtcome] at htold hwaiting
  · exact Or.inl ⟨e, m', houtcome, Prod.ext htold rfl, hwaiting⟩
  · exact Or.inr ⟨m', houtcome, Prod.ext htold rfl, hwaiting⟩

/-! ### Reads into a buffer -/

/-- A read of `n` bytes on a channel made `after` of the buffer `before`, and the manager `m'`
of `m`. -/
structure Filled (m m' : Manager Bench Instance DeviceKey) (c : Channel Instance DeviceKey)
    (n : ℕ) (before after : Bytes) : Prop where
  count : n = min (m.chunkFor c.info).length before.length
  front : after.take n = (m.chunkFor c.info).take n
  rest : after.drop n = before.drop n
  takes : m.TakesFor m' c.info

namespace Filled

variable {n : ℕ} {before after : Bytes} (h : m.Filled m' c n before after)

include h in
/-- Where no chunk waits nothing is read, and none waits afterwards. -/
lemma eq_zero_of_empty (hempty : m.waiting c.info.inPipe = []) :
    n = 0 ∧ after = before ∧ m'.waiting = m.waiting := by
  obtain rfl : n = 0 := by
    rw [h.count, chunkFor, hempty]
    exact Nat.zero_min _
  have hwaiting := h.takes
  rw [TakesFor, hempty, List.tail_nil, ← hempty, Function.update_eq_self] at hwaiting
  exact ⟨rfl, h.rest, hwaiting⟩

include h in
/-- The chunks on other endpoints are the same. -/
lemma waiting_of_ne {pipe : EndpointKey} (hpipe : pipe ≠ c.info.inPipe) :
    m'.waiting pipe = m.waiting pipe := by
  rw [h.takes, Function.update_of_ne hpipe]

end Filled

/-- What fits of a chunk fills the front of a buffer. -/
lemma filled_ofChunk (chunk before : Bytes) :
    let r := ReadResult.ofChunk before (chunk.take before.length)
    r.count = min chunk.length before.length ∧ r.buffer.take r.count = chunk.take r.count ∧
      r.buffer.drop r.count = before.drop r.count := by
  intro r
  have hcount : r.count = (chunk.take before.length).length := rfl
  have hbuffer : r.buffer = chunk.take before.length ++ before.drop r.count := rfl
  refine ⟨?_, ?_, ?_⟩
  · rw [hcount, List.length_take, Nat.min_comm]
  · rw [hbuffer, hcount, List.take_left' rfl, List.length_take]
    exact List.take_eq_take_iff.mpr (by omega)
  · rw [hbuffer, hcount, List.drop_left' rfl]

/-- What becomes of a read into a buffer.  On an open channel it succeeds if its endpoint does,
under the timeout of the channel.  One that fails leaves the buffer and all chunks alone.  One
that succeeds is on an open channel, of which it takes the chunk that waits first; where none
waits it reads nothing, and the chunks on other endpoints stay in any case. -/
structure Delivers (m : Manager Bench Instance DeviceKey) (id : ℕ) (buffer : Bytes) : Prop where
  outcome : ∀ c, m.channel? id = some c → c.isClosed = false →
    ((∃ n, (m.read id buffer).1 = .ok n) ↔ m.readOutcome c = .ok ())
  failed : ∀ e, (m.read id buffer).1 = .error e →
    (m.read id buffer).2.1 = buffer ∧ (m.read id buffer).2.2.waiting = m.waiting
  succeeded : ∀ n, (m.read id buffer).1 = .ok n →
    ∃ c, m.channel? id = some c ∧ c.isClosed = false ∧
      m.Filled (m.read id buffer).2.2 c n buffer (m.read id buffer).2.1 ∧
      (m.waiting c.info.inPipe = [] →
        n = 0 ∧ (m.read id buffer).2.1 = buffer ∧ (m.read id buffer).2.2.waiting = m.waiting) ∧
      ∀ pipe, pipe ≠ c.info.inPipe → (m.read id buffer).2.2.waiting pipe = m.waiting pipe

namespace Delivers

variable {buffer : Bytes}

/-- A read that fails. -/
lemma of_error {e : UsbError} (h : m.receive id buffer.length = (.error e, m'))
    (hwaiting : m'.waiting = m.waiting)
    (hout : ∀ c, m.channel? id = some c → c.isClosed = false → m.readOutcome c ≠ .ok ()) :
    m.Delivers id buffer := by
  have hread := read_error h
  constructor
  · intro c hc hopen
    rw [hread]
    constructor
    · rintro ⟨n, hn⟩
      cases hn
    · exact fun hok => absurd hok (hout c hc hopen)
  · rw [hread]
    exact fun _ _ => ⟨rfl, hwaiting⟩
  · rw [hread]
    exact fun n hn => by cases hn

/-- A read that succeeds. -/
lemma of_ok (hc : m.channel? id = some c) (hopen : c.isClosed = false)
    (hout : m.readOutcome c = .ok ())
    (h : m.receive id buffer.length = (.ok ((m.chunkFor c.info).take buffer.length), m'))
    (htakes : m.TakesFor m' c.info) : m.Delivers id buffer := by
  have hread := read_ok h
  obtain ⟨hcount, hfront, hrest⟩ := filled_ofChunk (m.chunkFor c.info) buffer
  constructor
  · intro d hd _
    obtain rfl : c = d := Option.some.inj (hc.symm.trans hd)
    rw [hread]
    exact ⟨fun _ => hout, fun _ => ⟨_, rfl⟩⟩
  · rw [hread]
    exact fun e he => by cases he
  · rw [hread]
    rintro n ⟨⟩
    have hfilled : m.Filled m' c _ buffer _ := ⟨hcount, hfront, hrest, htakes⟩
    exact ⟨c, hc, hopen, hfilled, hfilled.eq_zero_of_empty, fun pipe => hfilled.waiting_of_ne⟩

end Delivers

/-- Every read, on a channel that is open or not, or on none. -/
theorem Wired.delivers (hw : m.Wired) (id : ℕ) (buffer : Bytes) : m.Delivers id buffer := by
  cases hc : m.channel? id with
  | none =>
      have hreceive : m.receive id buffer.length = (.error .closed, m) := by rw [receive, hc]
      refine .of_error hreceive rfl fun d hd => ?_
      rw [hc] at hd
      cases hd
  | some c =>
      have hthis : ∀ d, m.channel? id = some d → d = c := fun d hd =>
        Option.some.inj (hd.symm.trans hc)
      cases hopen : c.isClosed with
      | true =>
          refine .of_error (receive_closed hc hopen _) rfl fun d hd hd' => ?_
          rw [hthis d hd, hopen] at hd'
          cases hd'
      | false =>
          have hwired := hw c (channel?_mem hc).1
          rcases receive_cases hc hwired hopen buffer.length with
            ⟨e, m', hout, hreceive, hwaiting⟩ | ⟨m', hout, hreceive, htakes⟩
          · refine .of_error hreceive hwaiting fun d hd _ => ?_
            rw [hthis d hd, hout]
            intro herror
            cases herror
          · exact .of_ok hc hopen hout hreceive htakes

/-! ### Replies of an exchange -/

/-- What the fetching of a reply through an interface takes and comes back with: nothing is read,
or the reply is what fits of the chunk that is taken. -/
def Fetches (m m' : Manager Bench Instance DeviceKey) (i : RawInterface) (r : Request)
    (result : Except CommandError Bytes) : Prop :=
  (m'.waiting = m.waiting ∧ ∀ reply, result = .ok reply → r.readLength = none ∧ reply = []) ∨
    ∃ limit, r.readLength = some limit ∧ m.TakesFor m' i ∧
      ∀ reply, result = .ok reply → reply = (m.chunkFor i).take limit

namespace Fetches

variable {m₁ m₂ : Manager Bench Instance DeviceKey} {i : RawInterface} {r : Request}
  {result result' : Except CommandError Bytes}

/-- A failure that takes nothing. -/
lemma of_error {e : CommandError} (h : m'.waiting = m.waiting) : m.Fetches m' i r (.error e) :=
  Or.inl ⟨h, fun _ hreply => by cases hreply⟩

/-- What leaves the chunks alone before and after, and loses a reply at most. -/
lemma frame (h : m₁.Fetches m₂ i r result) (hbefore : m₁.waiting = m.waiting)
    (hafter : m'.waiting = m₂.waiting)
    (hresult : ∀ reply, result' = .ok reply → result = .ok reply) :
    m.Fetches m' i r result' := by
  rw [Fetches, TakesFor, chunkFor, hbefore, ← hafter] at h
  rcases h with ⟨hwaiting, hreply⟩ | ⟨limit, hlimit, htakes, hreply⟩
  · exact Or.inl ⟨hwaiting, fun reply h => hreply reply (hresult reply h)⟩
  · exact Or.inr ⟨limit, hlimit, htakes, fun reply h => hreply reply (hresult reply h)⟩

end Fetches

variable {o : Opened}

/-- Taking a reply is one read on the channel. -/
lemma fetches_takeReply (hc : m.channel? o.id = some c) (hw : c.Wired)
    (hopen : c.isClosed = false) (r : Request) (out : Sink) :
    m.Fetches (m.takeReply o r out).manager c.info r (m.takeReply o r out).result := by
  rw [takeReply]
  cases hlimit : r.readLength with
  | none => exact Or.inl ⟨rfl, fun reply hreply => ⟨hlimit, (Except.ok.inj hreply).symm⟩⟩
  | some limit =>
      simp only
      cases replyRefusal? r.room limit with
      | some e => exact .of_error rfl
      | none =>
          simp only
          rcases receive_cases hc hw hopen limit with
            ⟨e, m', -, hreceive, hwaiting⟩ | ⟨m', -, hreceive, htakes⟩ <;> rw [hreceive]
          · exact .of_error hwaiting
          · refine Or.inr ⟨limit, hlimit, htakes, fun reply hreply => ?_⟩
            simp only at hreply
            split_ifs at hreply
            exact (Except.ok.inj hreply).symm

/-- Payload out, reply in and the close, on a channel that is open: the reply alone takes a
chunk. -/
lemma fetches_converse (hc : m.channel? o.id = some c) (hw : c.Wired)
    (hopen : c.isClosed = false) (r : Request) (out : Sink) :
    m.Fetches (m.converse o r out).manager c.info r (m.converse o r out).result := by
  have hwaiting := waiting_write (m := m) o.id r.payload
  have hroster := roster_write (m := m) o.id r.payload
  rw [converse]
  rcases hm : m.write o.id r.payload with ⟨e | n, m₁⟩ <;> rw [hm] at hwaiting hroster
  · exact .of_error hwaiting
  · simp only
    rcases out.write _ with ⟨_ | _, out₁⟩
    · exact .of_error hwaiting
    · have hc₁ : m₁.channel? o.id = some c := by
        have hchannels : m₁.channels = m.channels := congrArg Roster.channels hroster
        rw [channel?, hchannels]
        exact hc
      have htake := fetches_takeReply hc₁ hw hopen r out₁
      simp only
      rcases ht : m₁.takeReply o r out₁ with ⟨e | reply, out₂, m₂⟩ <;> rw [ht] at htake
      · exact htake.frame hwaiting rfl fun _ h => h
      · have hclose := waiting_close (m := m₂) o.id
        simp only
        rcases hk : m₂.close o.id with ⟨e | ⟨⟩, m₃⟩ <;> rw [hk] at hclose
        · exact htake.frame hwaiting hclose fun _ h => by cases h
        · exact htake.frame hwaiting hclose fun _ h => h

/-- An exchange opens no interface, fails and takes nothing; or it takes a chunk for its reply
through the interface that it opened, and nothing else. -/
lemma fetches_exchangeWith {H : List (Hold Instance)} {k : ℕ} (h : m.Balanced H k)
    {meanwhile : Manager Bench Instance DeviceKey → Manager Bench Instance DeviceKey}
    (hm : OnlyShutdown meanwhile) (r : Request) (out : Sink) :
    ((m.exchangeWith meanwhile r out).manager.waiting = m.waiting ∧
        ∃ e, (m.exchangeWith meanwhile r out).result = .error e) ∨
      ∃ i, m.Fetches (m.exchangeWith meanwhile r out).manager i r
        (m.exchangeWith meanwhile r out).result := by
  have hdiscard : ∀ (m : Manager Bench Instance DeviceKey) found,
      (m.discard found).waiting = m.waiting := fun m found =>
    waiting_of_bystanders (bystanders_discard found)
  have henum := waiting_of_bystanders (bystanders_enumerate (m := m) r.filter)
  have hbal := h.enumerate r.filter
  rw [exchangeWith]
  rcases he : m.enumerate r.filter with ⟨e | found, m₁⟩ <;> rw [he] at henum hbal
  · exact Or.inl ⟨henum, _, rfl⟩
  · simp only
    cases found.find? r.wants with
    | none => exact Or.inl ⟨(hdiscard m₁ found).trans henum, _, rfl⟩
    | some target =>
        have hopening := (waiting_openWith (m := m₁) hm target.info).trans henum
        simp only
        rcases ho : m₁.openWith meanwhile target.info with ⟨e | o, m₂⟩ <;> rw [ho] at hopening
        · exact Or.inl ⟨(hdiscard m₂ found).trans hopening, _, rfl⟩
        · obtain ⟨c, hc, hw, hopen, -⟩ := channel?_opened hbal hm ho found r
          have hconverse := fetches_converse hc hw hopen r out
          exact Or.inr ⟨c.info, hconverse.frame ((hdiscard m₂ found).trans hopening)
            (waiting_dropChannel o.id) fun _ h => h⟩

end Manager

end UsbPipe
