/-
Claims, and the channels that they are for.

The bench keeps its claims as a set of sites, a site being an interface of a device.  An open
that succeeds claims the site of its target, and a close gives up the site of its channel.  A
site can be claimed again while a channel is open there; both channels then have the one claim,
and it goes with the first of them that is closed.  It goes as well with an open that is given
up after its claim.

* `RawInterface.site`, `Manager.openAt`: the site of a record, and the channels open on a site.
* `Manager.Eases`: nothing but closes happened on a site; `eases_closeChannel`,
  `eases_dropChannel`.
* `Manager.Tries`: what an open does on the site of its target; `openWith_site`,
  `exchangeWith_site`.
* `Manager.Backed`: a claim has a channel; `Manager.Exclusive`: and a channel a claim of its own.
* `isClaimed_closeChannel`, `isClaimed_openWith_error`: which claims a close and a failed open
  end.
-/
import UsbPipe.Proofs.Manager.TransferLog

namespace UsbPipe

open Usb

/-- The site of a record: its device, and the number of its interface there. -/
def Usb.RawInterface.site (i : RawInterface) : DeviceKey × UInt8 := (i.key, i.interface)

namespace Manager

variable {m m' m'' : Manager Bench Instance DeviceKey} {p : DeviceKey × UInt8}
  {c : Channel Instance DeviceKey} {H : List (Hold Instance)} {k : ℕ}

/-! ### Channels on a site -/

/-- The channels that are open on a site. -/
def openAt (m : Manager Bench Instance DeviceKey) (p : DeviceKey × UInt8) :
    List (Channel Instance DeviceKey) :=
  m.channels.filter fun c => !c.isClosed && c.info.site == p

lemma mem_openAt : c ∈ m.openAt p ↔ c ∈ m.channels ∧ c.isClosed = false ∧ c.info.site = p := by
  simp [openAt]

lemma openAt_congr (h : m'.channels = m.channels) : m'.openAt p = m.openAt p := by
  rw [openAt, openAt, h]

lemma isClaimed_iff {key : DeviceKey} {interface : UInt8} :
    m.platform.isClaimed key interface = true ↔ (key, interface) ∈ m.platform.claimed := by
  simp [Bench.isClaimed]

/-! ### Closes -/

/-- Nothing but closes happened on a site.  Either none was needed, or there are fewer channels
and the site is free. -/
inductive Eases (p : DeviceKey × UInt8) (m m' : Manager Bench Instance DeviceKey) : Prop
  | same (count : (m'.openAt p).length = (m.openAt p).length)
      (claim : p ∈ m'.platform.claimed ↔ p ∈ m.platform.claimed)
  | fewer (count : (m'.openAt p).length < (m.openAt p).length)
      (free : p ∉ m'.platform.claimed)

namespace Eases

/-- Channels and claims are as they were. -/
lemma of_frame (hchannels : m'.channels = m.channels)
    (hclaimed : m'.platform.claimed = m.platform.claimed) : m.Eases p m' :=
  same (by rw [openAt_congr hchannels]) (by rw [hclaimed])

lemma refl (m : Manager Bench Instance DeviceKey) : m.Eases p m := of_frame rfl rfl

lemma trans (h : m.Eases p m') (h' : m'.Eases p m'') : m.Eases p m'' := by
  cases h' with
  | fewer count' free' =>
      refine fewer ?_ free'
      cases h with
      | same count claim => omega
      | fewer count free => omega
  | same count' claim' =>
      cases h with
      | same count claim => exact same (count'.trans count) (claim'.trans claim)
      | fewer count free => exact fewer (by omega) (fun h => free (claim'.mp h))

lemma of_bystanders (h : m'.bystanders = m.bystanders) : m.Eases p m' :=
  of_frame (congrArg (·.channels) h) (congrArg (·.platform.claimed) h)

lemma of_undisturbed (h : m.Undisturbed m') : m.Eases p m' := by
  obtain ⟨log, queues, events, rfl⟩ := h
  exact of_frame rfl rfl

end Eases

/-- A change of a channel that leaves it on its site, and open or closed as it is. -/
lemma eases_updateChannel (id : ℕ) {f : Channel Instance DeviceKey → Channel Instance DeviceKey}
    (hinfo : ∀ c, (f c).info = c.info) (hclosed : ∀ c, (f c).isClosed = c.isClosed) :
    m.Eases p (m.updateChannel id f) := by
  refine .same ?_ Iff.rfl
  have hfilter : ((fun c : Channel Instance DeviceKey => !c.isClosed && c.info.site == p) ∘
      fun c => if c.id = id then f c else c) = fun c => !c.isClosed && c.info.site == p := by
    funext c
    simp only [Function.comp_apply]
    split_ifs
    · rw [hinfo, hclosed]
    · rfl
  rw [openAt, updateChannel, List.filter_map, hfilter, List.length_map]
  rfl

lemma eases_setReadTimeout (id : ℕ) (t : Option Duration) :
    m.Eases p (m.setReadTimeout id t) :=
  eases_updateChannel (f := fun c => { c with readTimeout := t }) id (fun _ => rfl) fun _ => rfl

lemma eases_setWriteTimeout (id : ℕ) (t : Option Duration) :
    m.Eases p (m.setWriteTimeout id t) :=
  eases_updateChannel (f := fun c => { c with writeTimeout := t }) id (fun _ => rfl) fun _ => rfl

/-- The claims after a close: a channel that was open gives up its site. -/
lemma claimed_closeChannel (hw : c.Wired) :
    (m.closeChannel c).2.platform.claimed =
      if c.isClosed then m.platform.claimed else m.platform.claimed.filter (· != c.info.site) := by
  have hrelease : ∀ (m : Manager Bench Instance DeviceKey) hs,
      (m.releaseAll hs).platform.claimed = m.platform.claimed := fun m hs =>
    congrArg (·.platform.claimed) (settled_releaseAll (m := m) hs)
  rw [closeChannel, closeNative, Channel.isClosed]
  cases hn : c.native? with
  | none => rfl
  | some handle =>
      rw [hw.native handle hn]
      exact hrelease _ _

/-- A close ends the claim of its own interface, and no other. -/
lemma isClaimed_closeChannel (hw : c.Wired) (hopen : c.isClosed = false) (key : DeviceKey)
    (interface : UInt8) :
    (m.closeChannel c).2.platform.isClaimed key interface =
      (m.platform.isClaimed key interface &&
        !(c.info.key == key && c.info.interface == interface)) := by
  have hclaimed := claimed_closeChannel (m := m) hw
  rw [if_neg (by simpa using hopen)] at hclaimed
  rw [Bool.eq_iff_iff, isClaimed_iff, hclaimed, List.mem_filter, Bool.and_eq_true, isClaimed_iff]
  refine and_congr_right fun _ => ?_
  simp only [RawInterface.site, bne_iff_ne, ne_eq, Prod.mk.injEq, Bool.not_eq_true',
    Bool.and_eq_false_iff, beq_eq_false_iff_ne, eq_comm (a := key), eq_comm (a := interface)]
  tauto

/-- A close eases its site, and changes nothing on any other. -/
lemma eases_closeChannel (hids : m.channelIds.Nodup) (hw : m.Wired) (hc : c ∈ m.channels) :
    m.Eases p (m.closeChannel c).2 := by
  have hchannels := channels_closeChannel (m := m) c
  have hclaimed := claimed_closeChannel (m := m) (hw c hc)
  cases hopen : c.isClosed with
  | true =>
      rw [hopen] at hchannels hclaimed
      exact .of_frame hchannels hclaimed
  | false =>
      rw [hopen] at hchannels hclaimed
      obtain ⟨l₁, l₂, hl, hne⟩ := channels_split hids hc
      have hl' : (m.closeChannel c).2.channels = l₁ ++ emptied c :: l₂ :=
        hchannels.trans (updateChannel_split hl hne emptied)
      have hempty : (emptied c).isClosed = true := rfl
      by_cases hp : c.info.site = p
      · refine .fewer ?_ (by rw [hclaimed, hp]; simp)
        simp [openAt, hl, hl', hempty, hopen, hp]
      · refine .same ?_ (by rw [hclaimed]; simp [Ne.symm hp])
        simp [openAt, hl, hl', hempty, hp]

lemma eases_close (hids : m.channelIds.Nodup) (hw : m.Wired) (id : ℕ) :
    m.Eases p (m.close id).2 := by
  rw [close]
  cases hc : m.channel? id with
  | none => exact .refl m
  | some c => exact eases_closeChannel hids hw (channel?_mem hc).1

/-- So does a drop. -/
lemma eases_dropChannel (hids : m.channelIds.Nodup) (hw : m.Wired) (id : ℕ) :
    m.Eases p (m.dropChannel id) := by
  rw [dropChannel]
  cases hc : m.channel? id with
  | none => exact .refl m
  | some c =>
      obtain ⟨hmem, rfl⟩ := channel?_mem hc
      have hclose := eases_closeChannel (p := p) hids hw hmem
      have hclosed := isClosed_of_closeChannel hids hmem
      -- a channel is taken off the table only when it is closed
      have hforget : ∀ {m₁ m₂ : Manager Bench Instance DeviceKey},
          (∀ d ∈ m₁.channels, d.id = c.id → d.isClosed = true) →
          m₂.channels = m₁.channels.filter (·.id != c.id) →
          m₂.platform.claimed = m₁.platform.claimed → m₁.Eases p m₂ := by
        intro m₁ m₂ h hchannels hclaimed
        refine .same (congrArg List.length ?_) (by rw [hclaimed])
        rw [openAt, openAt, hchannels, List.filter_filter]
        refine List.filter_congr fun d hd => ?_
        by_cases hid : d.id = c.id
        · simp [h d hd hid]
        · simp [hid]
      rcases hr : m.closeChannel c with ⟨_ | ⟨⟩, m₁⟩ <;> rw [hr] at hclose hclosed <;>
        simp only [hr] <;> exact hclose.trans (hforget hclosed rfl rfl)

/-! ### Opens -/

/-- What an open does on the site of its target: there is one channel more and the site is
claimed, or the open was given up and the site is free. -/
inductive Tries (p : DeviceKey × UInt8) (m m' : Manager Bench Instance DeviceKey) : Prop
  | granted (count : (m'.openAt p).length = (m.openAt p).length + 1)
      (claim : p ∈ m'.platform.claimed)
  | aborted (count : (m'.openAt p).length = (m.openAt p).length)
      (free : p ∉ m'.platform.claimed)

section Meanwhile

variable {meanwhile : Manager Bench Instance DeviceKey → Manager Bench Instance DeviceKey}
  {info : RawInterface}

/-- The site of a target is that of its claim. -/
lemma Balanced.site_of_target? (h : m.Balanced H k) {f : Found Instance}
    (hf : m.target? info = some f) :
    ((claimOf f).native, (claimOf f).info.interface) = f.info.site :=
  congrArg (·, f.info.interface) (h.key_of_target? hf)

/-- The claims after an open that succeeds: the site of its target is among them. -/
lemma claimed_openWith_ok (h : m.Balanced H k) (hm : OnlyShutdown meanwhile) {o : Opened}
    {f : Found Instance} (hf : m.target? info = some f)
    (ho : m.openWith meanwhile info = (.ok o, m')) :
    m'.platform.claimed = (m.platform.claimed).insert f.info.site := by
  have hacq := bystanders_acquire (m := m) hm info
  rw [openWith] at ho
  rcases ha : m.acquire meanwhile info with ⟨_ | d, m₁⟩ <;> rw [ha] at ho hacq
  · cases ho
  · obtain ⟨g, hg, rfl, heq⟩ := hacq
    obtain rfl : f = g := Option.some.inj (hf.symm.trans hg)
    have hclaimed : m₁.platform.claimed = (m.platform.claimed).insert
        ((claimOf f).native, (claimOf f).info.interface) := congrArg (·.platform.claimed) heq
    rw [h.site_of_target? hf] at hclaimed
    simp only [enroll, register] at ho
    split_ifs at ho
    · cases ho
    · cases ho
      exact hclaimed

/-- A failed open leaves channels and claims as they were, or frees the site of its target. -/
lemma claimed_openWith_error (h : m.Balanced H k) (hm : OnlyShutdown meanwhile) {e : UsbError}
    (ho : m.openWith meanwhile info = (.error e, m')) :
    m'.channels = m.channels ∧ (m'.platform.claimed = m.platform.claimed ∨
      ∃ f, m.target? info = some f ∧ ∀ p, p ∈ m'.platform.claimed ↔
        p ∈ m.platform.claimed ∧ p ≠ f.info.site) := by
  rcases bystanders_openWith_error hm ho with ⟨n, -, heq⟩ | ⟨f, hf, heq⟩
  · exact ⟨congrArg (·.channels) heq, Or.inl (congrArg (·.platform.claimed) heq)⟩
  · refine ⟨congrArg (·.channels) heq, Or.inr ⟨f, hf, fun p => ?_⟩⟩
    have hclaimed : m'.platform.claimed = ((m.platform.claimed).insert
        ((claimOf f).native, (claimOf f).info.interface)).filter
          (· != ((claimOf f).native, (claimOf f).info.interface)) :=
      congrArg (·.platform.claimed) heq
    rw [hclaimed, h.site_of_target? hf, List.mem_filter, List.mem_insert_iff]
    by_cases hp : p = f.info.site <;> simp [hp]

/-- A failed open leaves the claim of an interface as it was, or has ended it and had resolved
that interface. -/
lemma isClaimed_openWith_error (h : m.Balanced H k) (hm : OnlyShutdown meanwhile) {e : UsbError}
    (ho : m.openWith meanwhile info = (.error e, m')) (key : DeviceKey) (interface : UInt8) :
    m'.platform.isClaimed key interface = m.platform.isClaimed key interface ∨
      ∃ f, m.target? info = some f ∧ f.info.key = key ∧ f.info.interface = interface ∧
        m'.platform.isClaimed key interface = false := by
  obtain ⟨-, hsame | ⟨f, hf, hfree⟩⟩ := claimed_openWith_error h hm ho
  · exact Or.inl (by rw [Bench.isClaimed, Bench.isClaimed, hsame])
  · by_cases hsite : (key, interface) = f.info.site
    · refine Or.inr ⟨f, hf, (congrArg Prod.fst hsite).symm, (congrArg Prod.snd hsite).symm, ?_⟩
      rw [Bool.eq_false_iff, ne_eq, isClaimed_iff, hfree]
      exact fun h => h.2 hsite
    · refine Or.inl ?_
      rw [Bool.eq_iff_iff, isClaimed_iff, isClaimed_iff, hfree]
      exact and_iff_left hsite

/-- An open, whatever becomes of it: on the site of its target it tries, and on all others
nothing happens. -/
lemma openWith_site (h : m.Balanced H k) (hm : OnlyShutdown meanwhile) (info : RawInterface)
    (p : DeviceKey × UInt8) :
    m.Eases p (m.openWith meanwhile info).2 ∨
      (∃ f, m.target? info = some f ∧ f.info.site = p) ∧
        m.Tries p (m.openWith meanwhile info).2 := by
  rcases ho : m.openWith meanwhile info with ⟨e | o, m₁⟩
  · obtain ⟨hchannels, hclaimed | ⟨f, hf, hclaimed⟩⟩ := claimed_openWith_error h hm ho
    · exact Or.inl (.of_frame hchannels hclaimed)
    · have hcount := congrArg List.length (openAt_congr (p := p) hchannels)
      by_cases hp : f.info.site = p
      · exact Or.inr ⟨⟨f, hf, hp⟩, .aborted hcount fun hmem => ((hclaimed p).mp hmem).2 hp.symm⟩
      · exact Or.inl (.same hcount ((hclaimed p).trans (and_iff_left (Ne.symm hp))))
  · obtain ⟨f, hf, -, hchannels⟩ := channel_openWith hm ho
    have hclaimed := claimed_openWith_ok h hm hf ho
    by_cases hp : f.info.site = p
    · refine Or.inr ⟨⟨f, hf, hp⟩, .granted ?_ ?_⟩
      · simp [openAt, hchannels, Channel.isClosed, hp]
      · rw [hclaimed, hp]
        exact List.mem_insert_self
    · refine Or.inl (.same ?_ ?_)
      · simp [openAt, hchannels, hp]
      · rw [hclaimed, List.mem_insert_iff]
        exact or_iff_right (Ne.symm hp)

/-! ### Exchanges -/

/-- The channel of an exchange is closed at most. -/
lemma eases_converse (hids : m.channelIds.Nodup) (hw : m.Wired) (o : Opened) (r : Request)
    (out : Sink) :
    m.Eases p (m.converse o r out).manager ∧ (m.converse o r out).manager.Wired := by
  have hsame : ∀ {m₁ m₂ : Manager Bench Instance DeviceKey}, m₁.Undisturbed m₂ →
      m.Eases p m₁ ∧ m₁.Wired ∧ m₁.channelIds.Nodup →
      m.Eases p m₂ ∧ m₂.Wired ∧ m₂.channelIds.Nodup := by
    rintro m₁ _ ⟨log, queues, events, rfl⟩ ⟨heases, hw₁, hids₁⟩
    exact ⟨heases.trans (.of_frame rfl rfl), hw₁.congr rfl, hids₁⟩
  have hconverse := Frame.converse
    (P := fun m' => m.Eases p m' ∧ m'.Wired ∧ m'.channelIds.Nodup)
    ⟨fun m₁ level text => hsame ((Undisturbed.frame m₁).log _ level text (.refl m₁))⟩
    (hsame (undisturbed_write o.id r.payload) ⟨.refl m, hw, hids⟩)
    (fun m₁ limit => hsame (undisturbed_receive o.id limit))
    (fun m₁ h₁ => ⟨h₁.1.trans (eases_close h₁.2.2 h₁.2.1 o.id), h₁.2.1.close o.id,
      (channelIds_close (m := m₁) o.id).symm ▸ h₁.2.2⟩) out
  exact ⟨hconverse.1, hconverse.2.1⟩

/-- What an exchange does after its open: it gives back the records that it found, and closes
its channel. -/
lemma eases_exchangeOpened {found : List (Found Instance)}
    (h : m.Balanced (found.map Found.hold ++ H) k) (hw : m.Wired) (o : Opened) (r : Request)
    (out : Sink) :
    let configured := ((m.discard found).setReadTimeout o.id r.readTimeout).setWriteTimeout o.id
      r.writeTimeout
    m.Eases p ((configured.converse o r out).manager.dropChannel o.id) := by
  intro configured
  have hdiscard := bystanders_discard (m := m) found
  have hset : m.Eases p configured :=
    ((Eases.of_bystanders hdiscard).trans (eases_setReadTimeout o.id r.readTimeout)).trans
      (eases_setWriteTimeout o.id r.writeTimeout)
  have hbalanced : configured.Balanced H k :=
    (h.discard.setReadTimeout o.id r.readTimeout).setWriteTimeout o.id r.writeTimeout
  have hwired : configured.Wired :=
    ((hw.congr (congrArg (·.channels) hdiscard)).setReadTimeout o.id _).setWriteTimeout o.id _
  obtain ⟨hconverse, hwired'⟩ := eases_converse (p := p) hbalanced.ids_nodup hwired o r out
  have hids := (hbalanced.converse o r out).1.ids_nodup
  exact (hset.trans hconverse).trans (eases_dropChannel hids hwired' o.id)

/-- The open of an exchange, by the manager after the enumeration and for the record it
finds. -/
def exchangeOpen? (m : Manager Bench Instance DeviceKey) (r : Request) :
    Option (Manager Bench Instance DeviceKey × RawInterface) :=
  match m.enumerate r.filter with
  | (.error _, _) => none
  | (.ok found, m) => (found.find? r.wants).map fun f => (m, f.info)

/-- An exchange, whatever becomes of it: on the site of the target of its open it tries, and
closes; on all others nothing happens. -/
lemma exchangeWith_site (h : m.Balanced H k) (hw : m.Wired) (hm : OnlyShutdown meanwhile)
    (r : Request) (out : Sink) (p : DeviceKey × UInt8) :
    m.Eases p (m.exchangeWith meanwhile r out).manager ∨
      ∃ m₁ info m₂, m.exchangeOpen? r = some (m₁, info) ∧
        (∃ f, m₁.target? info = some f ∧ f.info.site = p) ∧
        m.Eases p m₁ ∧ m₁.Tries p m₂ ∧
        m₂.Eases p (m.exchangeWith meanwhile r out).manager := by
  have henum := bystanders_enumerate (m := m) r.filter
  have hbal := h.enumerate r.filter
  rw [exchangeWith, exchangeOpen?]
  rcases he : m.enumerate r.filter with ⟨_ | found, m₁⟩ <;> rw [he] at henum hbal
  · exact Or.inl (.of_bystanders henum)
  · simp only
    cases found.find? r.wants with
    | none => exact Or.inl ((Eases.of_bystanders henum).trans (.of_bystanders
        (bystanders_discard found)))
    | some target =>
        have hw₁ : m₁.Wired := hw.congr (congrArg (·.channels) henum)
        have hbal₂ := hbal.openWith hm.accounts_eq target.info
        have hw₂ := hw₁.openWith hbal hm target.info
        have hsite := openWith_site hbal hm target.info p
        -- what comes after the open closes at most
        have hafter : ∀ {m₂ m₃ : Manager Bench Instance DeviceKey},
            (m₁.openWith meanwhile target.info).2 = m₂ → m₂.Eases p m₃ →
            m.Eases p m₃ ∨ ∃ m₁' info m₂', some (m₁, target.info) = some (m₁', info) ∧
              (∃ f, m₁'.target? info = some f ∧ f.info.site = p) ∧
              m.Eases p m₁' ∧ m₁'.Tries p m₂' ∧ m₂'.Eases p m₃ := by
          rintro m₂ m₃ rfl heases
          rcases hsite with hsame | ⟨htarget, htries⟩
          · exact Or.inl (((Eases.of_bystanders henum).trans hsame).trans heases)
          · exact Or.inr ⟨m₁, target.info, _, rfl, htarget, .of_bystanders henum, htries, heases⟩
        simp only [Option.map_some]
        rcases ho : m₁.openWith meanwhile target.info with ⟨_ | o, m₂⟩ <;>
          rw [ho] at hbal₂ hw₂
        · exact hafter (congrArg Prod.snd ho) (.of_bystanders (bystanders_discard found))
        · exact hafter (congrArg Prod.snd ho) (eases_exchangeOpened hbal₂ hw₂ o r out)

end Meanwhile

/-! ### What holds on every site -/

/-- A claim of the site has a channel. -/
def Backed (m : Manager Bench Instance DeviceKey) (p : DeviceKey × UInt8) : Prop :=
  p ∈ m.platform.claimed → 0 < (m.openAt p).length

/-- The site is claimed for one channel, or is free and has none. -/
def Exclusive (m : Manager Bench Instance DeviceKey) (p : DeviceKey × UInt8) : Prop :=
  (p ∈ m.platform.claimed ∧ (m.openAt p).length = 1) ∨
    (p ∉ m.platform.claimed ∧ (m.openAt p).length = 0)

lemma Backed.eases (h : m.Backed p) (hm : m.Eases p m') : m'.Backed p := by
  cases hm with
  | same count claim => exact fun hp => count ▸ h (claim.mp hp)
  | fewer count free => exact fun hp => absurd hp free

lemma Backed.tries (hm : m.Tries p m') : m'.Backed p := by
  cases hm with
  | granted count claim => exact fun _ => by omega
  | aborted count free => exact fun hp => absurd hp free

lemma Exclusive.eases (h : m.Exclusive p) (hm : m.Eases p m') : m'.Exclusive p := by
  cases hm with
  | same count claim => rwa [Exclusive, count, claim]
  | fewer count free =>
      refine Or.inr ⟨free, ?_⟩
      rcases h with ⟨-, hone⟩ | ⟨-, hzero⟩ <;> omega

/-- An open on a site without channels leaves it exclusive. -/
lemma Exclusive.tries (hnone : m.openAt p = []) (hm : m.Tries p m') : m'.Exclusive p := by
  have hzero : (m.openAt p).length = 0 := by rw [hnone, List.length_nil]
  cases hm with
  | granted count claim => exact Or.inl ⟨claim, by omega⟩
  | aborted count free => exact Or.inr ⟨free, by omega⟩

end Manager

end UsbPipe
