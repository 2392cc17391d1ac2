/-
The interface that an exchange is on.

An exchange selects twice: it takes the first record of its own scan that it wants, and the
open takes the first record in that place of a rescan, limited to the ids of the first one.
Ids of zero limit nothing, and devices may share a port, ids and even bus and address; all the
same the two selections agree while nothing is plugged in or out.  So the payload goes to the
OUT endpoint of the record that was selected first, and the reply comes from its IN endpoint.

* `Identified.enumerate_sources`: what a complete scan finds, with the devices.
* `Identified.target_of_enumerate`: what the open of a record that was just found is on.
* `UsbError.isFinding`: the failures to find an interface again; `isFinding_openWith`.
* `Request.replyFrom`, `converse_reply`: the reply of an exchange, read off the chunks that
  wait on an endpoint.
* `exchangeWith_selected`: an exchange and the record that it selected.
-/
import UsbPipe.Proofs.Manager.Waiting
import UsbPipe.Proofs.Scan.Sources
import UsbPipe.Proofs.Session.Provenance

namespace UsbPipe

open Usb Manager

/-- Whether an interface was not found again. -/
def UsbError.isFinding : UsbError → Bool
  | discovery _ _ | notFound _ _ _ _ => true
  | _ => false

/-- The reply to a request from an endpoint where chunks wait. -/
def Request.replyFrom (r : Request) (chunks : List Bytes) : Bytes :=
  match r.readLength with
  | none => []
  | some limit => (chunks.headD []).take limit

namespace Manager

variable {m m' m₁ : Manager Bench Instance DeviceKey} {found : List (Found Instance)}
  {t : Found Instance} {info : RawInterface} {filter : Filter} {r : Request} {o : Opened}
  {c : Channel Instance DeviceKey}
variable {meanwhile : Manager Bench Instance DeviceKey → Manager Bench Instance DeviceKey}

/-! ### Two selections -/

/-- Scans of benches with the same devices and the same failures have the same items. -/
lemma sourceItems_congr (h : m'.bystanders = m.bystanders) (filter : Filter) :
    Platform.sourceItems m'.platform filter = Platform.sourceItems m.platform filter := by
  have hatt : m'.platform.attached = m.platform.attached := congrArg (·.platform.attached) h
  have hfail : m'.platform.failures = m.platform.failures := congrArg (·.platform.failures) h
  have hlist : (Platform.devices m'.platform).1 = (Platform.devices m.platform).1 := by
    simp only [Platform.devices, Bench.devices, hatt, hfail]
    cases m.platform.failures.listing <;> rfl
  rw [Platform.sourceItems, Platform.sourceItems, hlist, readings_congr hfail]

/-- What a complete scan finds, with the devices. -/
lemma Identified.enumerate_sources (h : m.Identified)
    (he : m.enumerate filter = (.ok found, m')) :
    walked (Platform.sourceItems m.platform filter) = (found.map Found.source, none) := by
  have hready := Within.ready m
  have hsame := bystanders_ready (m := m)
  rw [Manager.enumerate, Manager.scan] at he
  rcases hr : m.ready with ⟨e | ⟨⟩, m₁⟩ <;> rw [hr] at he hready hsame
  · cases he
  · have hwalk := (h.within hready).walk_sources filter
    rw [sourceItems_congr hsame] at hwalk
    simp only at he
    rcases hw : m₁.walk filter with ⟨⟨found', _ | e⟩, m₂⟩ <;> rw [hw] at he hwalk
    · cases he
      exact hwalk.symm
    · cases he

/-- After a complete scan opens are let in. -/
lemma ready_of_enumerate (he : m.enumerate filter = (.ok found, m')) :
    m'.ready = (.ok (), m') := by
  rw [enumerate, scan] at he
  rcases hr : m.ready with ⟨e | ⟨⟩, m₁⟩ <;> rw [hr] at he
  · cases he
  · obtain ⟨hdown, hinit⟩ := ready_ok hr
    have hsettled : (complete (m₁.walk filter)).2.settled = m₁.settled :=
      (settled_complete _).trans (settled_walk filter)
    simp only at he
    rw [he] at hsettled
    have hdown' : m'.shuttingDown = false := (congrArg (·.shuttingDown) hsettled).trans hdown
    have hinit' : m'.initialized = true := (congrArg (·.initialized) hsettled).trans hinit
    simp [ready, hdown', hinit']

/-- The open of the first wanted record of a complete scan is on that record, and on the device
that it was read off. -/
theorem Identified.target_of_enumerate (h : m.Identified)
    (he : m.enumerate r.filter = (.ok found, m')) (ht : found.find? r.wants = some t) :
    ∃ f, m'.target? t.info = some f ∧ f.source = t.source := by
  have hsources := h.enumerate_sources he
  have hwithin : m'.Within m := by
    have henum := Within.enumerate m r.filter
    rwa [he] at henum
  have hsame : m'.bystanders = m.bystanders := by
    have henum := bystanders_enumerate (m := m) r.filter
    rwa [he] at henum
  -- to be wanted is to be in the place of the record
  have hwants := List.find?_some ht
  rw [Request.wants, Bool.and_eq_true, beq_iff_eq, beq_iff_eq] at hwants
  have hplace : (·.1.samePlace t.info) ∘ Found.source = r.wants (δ := Instance) := by
    funext f
    rw [Request.wants, Function.comp_apply, Found.source, RawInterface.samePlace, hwants.1,
      hwants.2]
  have hfirst : (found.map Found.source).find? (·.1.samePlace t.info) = some t.source := by
    rw [List.find?_map, hplace, ht]
    rfl
  have hkeeps : r.filter.keeps t.info = true := by
    refine keeps_of_mem_walked (b := m.platform) ?_
    rw [← walked_sourceItems, hsources]
    exact List.mem_map.mpr ⟨t.source, List.mem_of_find?_eq_some hfirst, rfl⟩
  have hresolved : Platform.resolved m.platform t.info = .ok t.source :=
    resolved_of_first (t := t.source) hsources hfirst hkeeps
  have hres := (h.within hwithin).resolve_sources t.info
  rw [Platform.resolved, sourceItems_congr hsame, ← Platform.resolved, hresolved] at hres
  rw [target?, ready_of_enumerate he]
  simp only
  rcases hf : (m'.resolve t.info).1 with e | f <;> rw [hf] at hres
  · cases hres
  · exact ⟨f, rfl, Except.ok.inj hres⟩

/-! ### Opens of a target -/

lemma isFinding_prepare {handle : DeviceKey} {interface : UInt8} {e : UsbError}
    (h : (m.prepare meanwhile handle interface).1 = .error e) : e.isFinding = false := by
  rw [prepare] at h
  rcases h₁ : m.enableAutoDetach handle with ⟨e' | ⟨⟩, m₁⟩ <;> rw [h₁] at h
  · cases h
    obtain ⟨n, rfl, -⟩ := error_of_enableAutoDetach (congrArg Prod.fst h₁)
    rfl
  · simp only at h
    rcases h₂ : m₁.detachDriver handle interface with ⟨e' | ⟨⟩, m₂⟩ <;> rw [h₂] at h
    · cases h
      obtain ⟨n, rfl, -⟩ := error_of_detachDriver (congrArg Prod.fst h₂)
      rfl
    · obtain ⟨n, rfl, -⟩ := error_of_claimInterface h
      rfl

/-- An interface that was found again is not missed later. -/
lemma isFinding_claimFound {f : Found Instance} {e : UsbError}
    (h : (m.claimFound meanwhile f).1 = .error e) : e.isFinding = false := by
  rw [claimFound] at h
  rcases ho : m.native (Platform.openDevice f.hold.device) with ⟨e' | handle, m₁⟩ <;> rw [ho] at h
  · cases h
    rfl
  · simp only at h
    generalize Manager.log _ _ _ = m₂ at h
    rcases hp : m₂.prepare meanwhile handle f.info.interface with ⟨e' | ⟨⟩, m₃⟩ <;> rw [hp] at h
    · cases h
      exact isFinding_prepare (congrArg Prod.fst hp)
    · cases h

lemma isFinding_openWith {f : Found Instance} (hf : m.target? info = some f) {e : UsbError}
    (h : (m.openWith meanwhile info).1 = .error e) : e.isFinding = false := by
  rw [openWith, acquire_of_target hf] at h
  rcases hc : (m.ready.2.resolve info).2.claimFound meanwhile f with ⟨e' | d, m₁⟩ <;>
    rw [hc] at h
  · cases h
    exact isFinding_claimFound (congrArg Prod.fst hc)
  · simp only [enroll, register] at h
    split_ifs at h
    cases h
    rfl

/-! ### Replies -/

/-- The reply that comes back from an open channel was waiting on its IN endpoint. -/
lemma converse_reply (hc : m.channel? o.id = some c) (hw : c.Wired) (hopen : c.isClosed = false)
    {out : Sink} {reply : Bytes} (h : (m.converse o r out).result = .ok reply) :
    reply = r.replyFrom (m.platform.queue (c.info.key, c.info.reader.address)) := by
  rw [Request.replyFrom]
  rcases fetches_converse hc hw hopen r out with ⟨-, hreply⟩ | ⟨limit, hlimit, -, hreply⟩
  · obtain ⟨hnone, rfl⟩ := hreply reply h
    rw [hnone]
  · rw [hlimit]
    exact hreply reply h

/-! ### Exchanges -/

/-- An exchange whose open fails. -/
lemma exchangeWith_error (he : m.enumerate r.filter = (.ok found, m₁))
    (ht : found.find? r.wants = some t) {e : UsbError}
    (ho : m₁.openWith meanwhile t.info = (.error e, m')) (out : Sink) :
    m.exchangeWith meanwhile r out =
      ⟨.error (.openChannel t.info.path e), out, m'.discard found⟩ := by
  rw [exchangeWith, he]
  simp only [ht, ho]

/-- An exchange whose open succeeds. -/
lemma exchangeWith_opened (he : m.enumerate r.filter = (.ok found, m₁))
    (ht : found.find? r.wants = some t) (ho : m₁.openWith meanwhile t.info = (.ok o, m'))
    (out : Sink) :
    let ran := (((m'.discard found).setReadTimeout o.id r.readTimeout).setWriteTimeout o.id
      r.writeTimeout).converse o r out
    m.exchangeWith meanwhile r out = { ran with manager := ran.manager.dropChannel o.id } := by
  rw [exchangeWith, he]
  simp only [ht, ho]

end Manager

namespace BenchSession

variable {meanwhile : Manager Bench Instance DeviceKey → Manager Bench Instance DeviceKey}

/-- An exchange after any run, with the devices as they are, and the first record `t` of its
scan that it wants.  Its open is on `t` and on the device that `t` was read off, and fails
neither in the rescan nor for want of the interface.  If it fails, nothing is transferred; if
not, the channel is on that device, the payload and then the request for a reply are on the
endpoints of `t`, and the reply is what waited on its IN endpoint. -/
theorem exchangeWith_selected (steps : List Step) (hm : OnlyShutdown meanwhile) (r : Request)
    (out : Sink) {found : List (Found Instance)} {m₁ : Manager Bench Instance DeviceKey}
    {t : Found Instance}
    (he : (fresh.run steps).manager.enumerate r.filter = (.ok found, m₁))
    (ht : found.find? r.wants = some t) :
    let m := (fresh.run steps).manager
    let ran := m.exchangeWith meanwhile r out
    (∃ f, m₁.target? t.info = some f ∧ f.info = t.info ∧ f.hold.device = t.hold.device) ∧
    match m₁.openWith meanwhile t.info with
    | (.error e, _) => e.isFinding = false ∧
        ran.result = .error (.openChannel t.info.path e) ∧
        ran.manager.platform.transfers = m.platform.transfers
    | (.ok o, m₂) => o.info = t.info ∧
        (∃ c, m₂.channel? o.id = some c ∧ c.info = t.info ∧
          c.native? = some t.hold.device.spec.key ∧
          c.hold?.map Hold.device = some t.hold.device) ∧
        (∃ entries, ran.manager.platform.transfers = m.platform.transfers ++ entries ∧
          entries ≠ [] ∧
          Exchanged ⟨t.info, true, r.readTimeout, r.writeTimeout⟩ r.payload entries) ∧
        ∀ reply, ran.result = .ok reply →
          reply = r.replyFrom (m.platform.queue (t.info.key, t.info.reader.address)) := by
  intro m ran
  have hid : m.Identified := identified_run steps
  have hb : m.Balanced ((fresh.run steps).records.map Found.hold) 0 := (sound_run steps).balanced
  have hb₁ := hb.enumerate r.filter
  have hby : m₁.bystanders = m.bystanders := by
    have henum := bystanders_enumerate (m := m) r.filter
    rwa [he] at henum
  rw [he] at hb₁
  obtain ⟨f, hf, hsource⟩ := hid.target_of_enumerate he ht
  obtain ⟨hinfo, hdevice⟩ : f.info = t.info ∧ f.hold.device = t.hold.device :=
    Prod.mk.inj hsource
  refine ⟨⟨f, hf, hinfo, hdevice⟩, ?_⟩
  have htraffic := traffic_openWith (m := m₁) hm t.info
  have htraffic₁ : m₁.platform.traffic = m.platform.traffic :=
    congrArg (·.platform.traffic) hby
  rw [htraffic₁] at htraffic
  have hdiscard : ∀ m₂ : Manager Bench Instance DeviceKey,
      (m₂.discard found).platform.traffic = m₂.platform.traffic := fun m₂ =>
    congrArg (·.platform.traffic) (bystanders_discard (m := m₂) found)
  rcases ho : m₁.openWith meanwhile t.info with ⟨e | o, m₂⟩ <;> rw [ho] at htraffic
  · have hran : ran = _ := exchangeWith_error he ht ho out
    refine ⟨isFinding_openWith hf (congrArg Prod.fst ho), by rw [hran], ?_⟩
    rw [hran]
    exact congrArg Prod.fst ((hdiscard m₂).trans htraffic)
  · obtain ⟨g, hg, hoinfo, hchannels⟩ := channel_openWith hm ho
    obtain rfl : f = g := Option.some.inj (hf.symm.trans hg)
    have hran := exchangeWith_opened he ht ho out
    obtain ⟨c, hc, hw, hopen, hheld⟩ := channel?_opened hb₁ hm ho found r
    have hcinfo : c.info = t.info := (congrArg Held.info hheld).trans (hoinfo.trans hinfo)
    obtain ⟨entries, hconv, hentries, hne⟩ := transfers_converse hc hw hopen r out
    rw [hheld, hoinfo, hinfo] at hentries
    refine ⟨hoinfo.trans hinfo, ⟨_, channel?_last hchannels rfl ?_, hinfo, ?_, ?_⟩,
      ⟨entries, ?_, hne, hentries⟩, fun reply hreply => ?_⟩
    · exact (joined_openWith hm.roster_eq hb₁.dated ho).new
    · rw [hdevice]
    · exact congrArg some hdevice
    · have hlog := congrArg Prod.fst ((hdiscard m₂).trans htraffic)
      show (m.exchangeWith meanwhile r out).manager.platform.transfers = _
      rw [hran]
      exact (transfers_dropChannel o.id).trans (hconv.trans (congrArg (· ++ entries) hlog))
    · have hqueues : (m₂.discard found).platform.queues = m.platform.queues :=
        congrArg Prod.snd ((hdiscard m₂).trans htraffic)
      have hran' : ran = _ := hran
      rw [hran'] at hreply
      have hback := converse_reply hc hw hopen hreply
      rw [hcinfo] at hback
      rw [hback, Bench.queue, Bench.queue, ← hqueues]
      rfl

/-- Two devices on the same interface number, of which the second has the vendor id zero, so
that the rescan for it finds both: payload and reply are on the second all the same. -/
theorem exchangeWith_selected_zero_id :
    let steps : List Step := [.attach (.raw ⟨1, 4⟩ 2 0x1209 2), .attach (.raw ⟨1, 5⟩ 3 0 2),
      .pushRead (⟨1, 5⟩, 0x81) [7, 8, 9]]
    let r : Request :=
      { filter := { productId := some 2 }
        port := 3
        interface := 0
        payload := [1, 2]
        readLength := some 2 }
    let m := (fresh.run steps).manager
    let ran := m.exchangeWith id r {}
    ran.result = .ok [7, 8] ∧
      ∃ t : RawInterface, t.vendorId = 0 ∧ t.key = ⟨1, 5⟩ ∧
        ∃ entries, ran.manager.platform.transfers = m.platform.transfers ++ entries ∧
          entries ≠ [] ∧ Exchanged ⟨t, true, none, none⟩ r.payload entries := by
  intro steps r m ran
  have hresult : ran.result = .ok [7, 8] := by decide +kernel
  have hfirst : ((m.enumerate r.filter).1.toOption.bind (·.find? r.wants)).map
      (fun t => (t.info.vendorId, t.info.key)) = some (0, ⟨1, 5⟩) := by decide +kernel
  obtain ⟨t, hfind, hids⟩ := Option.map_eq_some_iff.mp hfirst
  obtain ⟨found, hfound, ht⟩ := Option.bind_eq_some_iff.mp hfind
  obtain ⟨hvendor, hkey⟩ := Prod.mk.inj hids
  rcases he : m.enumerate r.filter with ⟨e | found', m₁⟩ <;> rw [he] at hfound <;> cases hfound
  have hm : OnlyShutdown (id : Manager Bench Instance DeviceKey → _) := fun _ => Or.inl rfl
  obtain ⟨-, hopen⟩ := exchangeWith_selected steps hm r {} he ht
  refine ⟨hresult, t.info, hvendor, hkey, ?_⟩
  rcases ho : m₁.openWith id t.info with ⟨e | o, m₂⟩ <;> rw [ho] at hopen
  · obtain ⟨-, herror, -⟩ := hopen
    have hfails : ran.result = .error (.openChannel t.info.path e) := herror
    rw [hresult] at hfails
    cases hfails
  · obtain ⟨-, -, ⟨entries, hlog, hne, hentries⟩, -⟩ := hopen
    refine ⟨entries, ?_, hne, hentries⟩
    simp only [ran, m]
    exact hlog

end BenchSession

end UsbPipe
