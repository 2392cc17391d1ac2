/-
The transfer log of a session.

The log of the bench is told by what the user of a session does and gets back.  A write or a
read under the name of an open channel adds one entry, with the interface, the direction and
the timeout that the ledger has for that channel and the bytes that were sent; its result is
the one the user is told.  On a closed channel the user is told so, and nothing is added.  No
other step adds an entry, but for the exchange, which has a channel of its own.

* `Ledger.Accounts`: what a step comes back with and adds to the log.
* `Logged`: a log that consists of what the steps of a run add to it.
* `Session.Quiet`: channels and log are left alone; `Session.Aside`: so are claims and queues.
* `Step.isAside`, `aside_step`: the steps that leave all these alone.
* `BenchSession.Follows`, `follows_step`: one step, and the ledger after it.
* `BenchSession.Untouched`: all that a transfer does to a session.
* `run_transfers`: the log after any run.
-/
import UsbPipe.Proofs.Session.Ledger

namespace UsbPipe

open Usb Manager

/-- Whether channels and the chunks that wait have no part in a step: it plugs devices in or out,
arranges failures, looks for records, shows them or gives them up, or tells of the session. -/
def Step.isAside : Step → Bool
  | .pushRead .. | .open .. | .openSlot .. | .write .. | .watchedWrite .. | .read ..
  | .setTimeouts .. | .close .. | .dropChannel .. | .shutdown .. | .exchange .. => false
  | _ => true

/-! ### What steps tell and log -/

namespace Held

/-- How the result of a write is told. -/
def wrote (h : Held) : Except NativeError ℕ → Reply
  | .ok n => .written n
  | .error e => .usb (h.writeError e)

/-- How the result of a read into a buffer of `length` bytes is told. -/
def got (h : Held) (length : ℕ) : Except NativeError Bytes → Reply
  | .ok chunk => .read (.ofChunk (List.replicate length 0xee) chunk)
  | .error e => .usb (h.readError e)

end Held

namespace Ledger

/-- A transfer under a name: it is made as `made` says where the channel is open, and where it
is not it comes back with `closed` and adds nothing. -/
def Calls (l : Ledger) (name : String) (closed reply : Reply) (entries : List TransferRecord)
    (made : Held → Prop) : Prop :=
  match l name with
  | none => reply = .missing .channel ∧ entries = []
  | some h => if h.isOpen then made h else reply = closed ∧ entries = []

/-- What a step comes back with, and what it adds to the log. -/
def Accounts (l : Ledger) (reply : Reply) (entries : List TransferRecord) : Step → Prop
  | .write name data =>
    l.Calls name (.usb .closed) reply entries fun h =>
      ∃ result, entries = [h.written data result] ∧ reply = h.wrote result
  | .watchedWrite name data =>
    l.Calls name (.watched (.error .closed) none) reply entries fun h =>
      ∃ result during?, entries = [h.written data result] ∧
        reply = .watched (result.mapError h.writeError) during?
  | .read name length =>
    l.Calls name (.usb .closed) reply entries fun h =>
      ∃ result : Except NativeError Bytes,
        entries = [h.received (result.map List.length)] ∧ reply = h.got length result
  | .exchange request _ =>
    entries = [] ∨ ∃ h : Held, h.readTimeout = request.readTimeout ∧
      h.writeTimeout = request.writeTimeout ∧ Exchanged h request.payload entries
  | _ => entries = []

variable {l : Ledger} {name : String} {closed reply : Reply} {entries : List TransferRecord}
  {made : Held → Prop} {h : Held}

lemma Calls.missing (hl : l name = none) : l.Calls name closed (.missing .channel) [] made := by
  rw [Calls, hl]
  exact ⟨rfl, rfl⟩

lemma Calls.refused (hl : l name = some h) (hclosed : h.isOpen = false) :
    l.Calls name closed closed [] made := by
  rw [Calls, hl]
  simp [hclosed]

/-- On a channel that is open, a transfer is made. -/
lemma calls_open (hl : l name = some h) (hopen : h.isOpen = true) :
    l.Calls name closed reply entries made ↔ made h := by
  rw [Calls, hl]
  simp [hopen]

/-- A step in which channels have no part leaves the ledger and the log alone. -/
lemma after_of_isAside {step : Step} (h : step.isAside = true) : l.after reply step = l := by
  cases step <;> first | rfl | cases h

lemma accounts_of_isAside {step : Step} (h : step.isAside = true) : l.Accounts reply [] step := by
  cases step <;> first | rfl | cases h

end Ledger

/-- A log that consists of what the steps of a run, each with what it came back with, add to
it, from a ledger on. -/
inductive Logged : Ledger → List (Step × Reply) → List TransferRecord → Prop
  | nil (l : Ledger) : Logged l [] []
  | cons {l : Ledger} {step : Step} {reply : Reply} {entries log : List TransferRecord}
      {rest : List (Step × Reply)} (first : l.Accounts reply entries step)
      (later : Logged (l.after reply step) rest log) :
      Logged l ((step, reply) :: rest) (entries ++ log)

/-! ### Steps without transfers -/

namespace Session

variable {s s' : Session Bench Instance DeviceKey} {m : Manager Bench Instance DeviceKey}

/-- Records that are given up are no bystanders. -/
lemma bystanders_dropSet (s : Session Bench Instance DeviceKey) (set : String) :
    (s.dropSet set).2.manager.bystanders = s.manager.bystanders :=
  manager_dropSet (P := fun m : Manager Bench Instance DeviceKey =>
    m.bystanders = s.manager.bystanders) (bystanders_scanning _).discard rfl set

lemma bystanders_keepOrDiscard (s : Session Bench Instance DeviceKey) (set? : Option String)
    (found : List (Found Instance)) :
    (s.keepOrDiscard set? found).manager.bystanders = s.manager.bystanders :=
  manager_keepOrDiscard (P := fun m : Manager Bench Instance DeviceKey =>
    m.bystanders = s.manager.bystanders) (bystanders_scanning _).discard rfl set? found

/-- The names, the channels and the log are as they were. -/
structure Quiet (s s' : Session Bench Instance DeviceKey) : Prop where
  names : s'.channels = s.channels
  channels : s'.manager.channels = s.manager.channels
  transfers : s'.manager.platform.transfers = s.manager.platform.transfers

namespace Quiet

lemma refl (s : Session Bench Instance DeviceKey) : s.Quiet s := ⟨rfl, rfl, rfl⟩

lemma of_bystanders (h : m.bystanders = s.manager.bystanders) : s.Quiet (s.withManager m) :=
  ⟨rfl, congrArg (·.channels) h, transfers_of_bystanders h⟩

lemma held (h : s.Quiet s') : s'.held = s.held :=
  held_congr h.names fun _ _ _ => congrFun (known_congr h.channels) _

end Quiet

/-- So are the claims, and the chunks that wait. -/
structure Aside (s s' : Session Bench Instance DeviceKey) : Prop where
  names : s'.channels = s.channels
  channels : s'.manager.channels = s.manager.channels
  claimed : s'.manager.platform.claimed = s.manager.platform.claimed
  traffic : s'.manager.platform.traffic = s.manager.platform.traffic

namespace Aside

lemma of_bystanders (hnames : s'.channels = s.channels)
    (h : s'.manager.bystanders = s.manager.bystanders) : s.Aside s' :=
  ⟨hnames, congrArg (·.channels) h, congrArg (·.platform.claimed) h,
    congrArg (·.platform.traffic) h⟩

lemma quiet (h : s.Aside s') : s.Quiet s' := ⟨h.names, h.channels, congrArg Prod.fst h.traffic⟩

end Aside

/-! ### Channels dropped -/

lemma wired_dropChannel (h : s.manager.Wired) (name : String) :
    (s.dropChannel name).2.manager.Wired :=
  manager_dropChannel (fun h id => h.dropChannel id) h name

lemma wired_dropChannels (h : s.manager.Wired) (names : List String) :
    (s.dropChannels names).manager.Wired :=
  manager_dropChannels (fun h id => h.dropChannel id) h names

lemma transfers_dropChannel (s : Session Bench Instance DeviceKey) (name : String) :
    (s.dropChannel name).2.manager.platform.transfers = s.manager.platform.transfers :=
  manager_dropChannel (P := fun m : Manager Bench Instance DeviceKey =>
    m.platform.transfers = s.manager.platform.transfers)
    (fun h id => (Manager.transfers_dropChannel id).trans h) rfl name

lemma transfers_dropChannels (s : Session Bench Instance DeviceKey) (names : List String) :
    (s.dropChannels names).manager.platform.transfers = s.manager.platform.transfers :=
  manager_dropChannels (P := fun m : Manager Bench Instance DeviceKey =>
    m.platform.transfers = s.manager.platform.transfers)
    (fun h id => (Manager.transfers_dropChannel id).trans h) rfl names

end Session

namespace BenchSession

variable {s s' : BenchSession} {step : Step} {reply : Reply}

/-- A step leads from a session to another one as the ledger says. -/
structure Follows (s : BenchSession) (step : Step) (reply : Reply) (s' : BenchSession) :
    Prop where
  wired : s'.manager.Wired
  held : s'.held = s.held.after reply step
  log : ∃ entries, s'.manager.platform.transfers = s.manager.platform.transfers ++ entries ∧
    s.held.Accounts reply entries step

namespace Follows

/-- A step that leaves the channels alone. -/
lemma frame {entries : List TransferRecord} (hw : s.manager.Wired)
    (hnames : s'.channels = s.channels)
    (hchannels : s'.manager.channels = s.manager.channels)
    (hlog : s'.manager.platform.transfers = s.manager.platform.transfers ++ entries)
    (hafter : s.held.after reply step = s.held) (haccounts : s.held.Accounts reply entries step) :
    s.Follows step reply s' where
  wired := hw.congr hchannels
  held := by
    rw [hafter]
    exact Session.held_congr hnames fun _ _ _ => congrFun (known_congr hchannels) _
  log := ⟨entries, hlog, haccounts⟩

/-- A step that leaves the log alone as well. -/
lemma quiet (hw : s.manager.Wired) (hquiet : s.toSession.Quiet s'.toSession)
    (hafter : s.held.after reply step = s.held) (haccounts : s.held.Accounts reply [] step) :
    s.Follows step reply s' :=
  frame hw hquiet.names hquiet.channels (hquiet.transfers.trans (List.append_nil _).symm) hafter
    haccounts

lemma onSlot {name : SlotName} {use : Found Instance → Reply × BenchSession} (hw : s.manager.Wired)
    (hafter : s.held.after (.missing .record) step = s.held)
    (haccounts : s.held.Accounts (.missing .record) [] step)
    (huse : ∀ f, s.Follows step (use f).1 (use f).2) :
    s.Follows step (s.onSlot name use).1 (s.onSlot name use).2 :=
  onSlot_cases (P := fun r => s.Follows step r.1 r.2)
    (quiet hw (Session.Quiet.refl _) hafter haccounts) fun f _ => huse f

lemma onChannel {name : String} {use : Channel Instance DeviceKey → Reply × BenchSession}
    (hw : s.manager.Wired)
    (hafter : s.held name = none → s.held.after (.missing .channel) step = s.held)
    (haccounts : s.held name = none → s.held.Accounts (.missing .channel) [] step)
    (huse : ∀ c, s.toSession.channel? name = some c → s.Follows step (use c).1 (use c).2) :
    s.Follows step (s.onChannel name use).1 (s.onChannel name use).2 := by
  refine onChannel_cases (P := fun r => s.Follows step r.1 r.2) (fun hc => ?_) huse
  have hheld := Session.held_of_missing hc
  exact quiet hw (Session.Quiet.refl _) (hafter hheld) (haccounts hheld)

end Follows

/-! ### Transfers -/

/-- A step that makes a transfer under a name.  Where the channel is closed it must do nothing,
and where it is open it must leave the roster alone and account for what it adds to the log. -/
lemma Follows.onTransfer {name : String} {closed : Reply}
    {use : Channel Instance DeviceKey → Reply × BenchSession}
    {made : Reply → List TransferRecord → Held → Prop} (hw : s.manager.Wired)
    (hafter : ∀ reply, s.held.after reply step = s.held)
    (haccounts : ∀ reply entries, s.held.Accounts reply entries step =
      s.held.Calls name closed reply entries (made reply entries))
    (hclosed : ∀ c, s.manager.channel? c.id = some c → c.isClosed = true → use c = (closed, s))
    (hopen : ∀ c, s.manager.channel? c.id = some c → c.Wired → c.isClosed = false →
      ∃ m entries, (use c).2 = s.setManager m ∧ m.roster = s.manager.roster ∧
        m.platform.transfers = s.manager.platform.transfers ++ entries ∧
        made (use c).1 entries (Held.ofChannel c)) :
    s.Follows step (s.onChannel name use).1 (s.onChannel name use).2 := by
  refine .onChannel hw (fun _ => hafter _) (fun hl => ?_) fun c hc => ?_
  · rw [haccounts]
    exact .missing hl
  · have hheld : s.held name = some (Held.ofChannel c) := by
      rw [Session.held, hc, Option.map_some]
    have hfind := (Session.channel?_eq_some hc).2
    cases hstate : c.isClosed with
    | true =>
        rw [hclosed c hfind hstate]
        refine .quiet hw (.refl _) (hafter _) ?_
        rw [haccounts]
        exact .refused hheld (by simp [Held.ofChannel, hstate])
    | false =>
        obtain ⟨m, entries, hsession, hroster, hlog, hmade⟩ :=
          hopen c hfind (hw c (channel?_mem hfind).1) hstate
        rw [hsession]
        refine .frame hw rfl (congrArg Roster.channels hroster) hlog (hafter _) ?_
        rw [haccounts]
        exact (Ledger.calls_open hheld (by simp [Held.ofChannel, hstate])).mpr hmade

lemma follows_write (hw : s.manager.Wired) (name : String) (data : Bytes) :
    s.Follows (.write name data) (s.step (.write name data)).1
      (s.step (.write name data)).2 := by
  refine .onTransfer hw (fun _ => rfl) (fun _ _ => rfl) (fun c hc hclosed => ?_)
    fun c hc hwired hopen => ?_
  · rw [write_closed hc hclosed]
    rfl
  · have hroster := roster_write (m := s.manager) c.id data
    obtain ⟨result, hresult, hlog⟩ := write_open hc hwired hopen data
    rcases hm : s.manager.write c.id data with ⟨r, m⟩
    rw [hm] at hresult hlog hroster
    cases hresult
    cases result <;> exact ⟨m, _, rfl, hroster, hlog, _, rfl, rfl⟩

lemma follows_watchedWrite (hw : s.manager.Wired) (name : String) (data : Bytes) :
    s.Follows (.watchedWrite name data) (s.step (.watchedWrite name data)).1
      (s.step (.watchedWrite name data)).2 := by
  refine .onTransfer hw (fun _ => rfl) (fun _ _ => rfl) (fun c hc hclosed => ?_)
    fun c hc hwired hopen => ?_
  · rw [write_closed hc hclosed]
    simp only [bne_self_eq_false]
    rfl
  · have hroster := roster_write (m := s.manager) c.id data
    obtain ⟨result, hresult, hlog⟩ := write_open hc hwired hopen data
    rcases hm : s.manager.write c.id data with ⟨r, m⟩
    rw [hm] at hresult hlog hroster
    cases hresult
    exact ⟨m, _, rfl, hroster, hlog, result, _, rfl, rfl⟩

lemma follows_read (hw : s.manager.Wired) (name : String) (length : ℕ) :
    s.Follows (.read name length) (s.step (.read name length)).1
      (s.step (.read name length)).2 := by
  set buffer := List.replicate length (0xee : UInt8)
  refine .onTransfer hw (fun _ => rfl) (fun _ _ => rfl) (fun c hc hclosed => ?_)
    fun c hc hwired hopen => ?_
  · rw [read_error (receive_closed hc hclosed _)]
    rfl
  · have hroster := roster_receive (m := s.manager) c.id buffer.length
    obtain ⟨result, hresult, hlog⟩ := receive_open hc hwired hopen buffer.length
    rcases hm : s.manager.receive c.id buffer.length with ⟨r, m⟩
    rw [hm] at hresult hlog hroster
    cases hresult
    cases result with
    | error e =>
        rw [read_error hm]
        exact ⟨m, _, rfl, hroster, hlog, _, rfl, rfl⟩
    | ok chunk =>
        rw [read_ok hm]
        exact ⟨m, _, rfl, hroster, hlog, _, rfl, rfl⟩

/-! ### Channels that come, change and go -/

/-- An open, by whatever step. -/
lemma Follows.openAs (h : s.Sound) (hw : s.manager.Wired) (info : RawInterface) (name : String)
    (hafter : ∀ reply, s.held.after reply step = s.held.after reply (.open info name))
    (haccounts : ∀ reply, s.held.Accounts reply [] step) :
    s.Follows step (s.openAs info name).1 (s.openAs info name).2 := by
  have hm := s.meanwhile_onlyShutdown
  have hbalanced := h.balanced.openWith hm.accounts_eq info
  have hwired := hw.openWith h.balanced hm info
  have hlog := (transfers_openWith (m := s.manager) hm info).trans (List.append_nil _).symm
  have hroster := roster_openWith (m := s.manager) hm.roster_eq info
  rw [BenchSession.openAs]
  rcases ho : s.manager.openWith s.meanwhile info with ⟨e | o, m⟩ <;>
    rw [ho] at hbalanced hwired hlog hroster
  · exact frame hw rfl (congrArg Roster.channels hroster) hlog (hafter _) (haccounts _)
  · obtain ⟨-, c, hid, hinfo, hopen, hread, hwrite, hroster⟩ := hroster
    have hchannels : m.channels = s.manager.channels ++ [c] := congrArg Roster.channels hroster
    have hnew := (joined_openWith hm.roster_eq h.balanced.dated ho).new
    have hsound : (s.setManager m).toSession.Sound [] [o.id] :=
      Session.Sound.withManager h hbalanced (channelIds_openWith_ok hm ho)
    have hothers : (s.setManager m).held = s.held := by
      refine Session.held_congr rfl fun name id hl => known_append hchannels ?_
      rw [hid]
      exact hsound.lookup_ne_of_mem (List.mem_singleton_self _) hl
    have hthis : m.known o.id = some { info := o.info } := by
      rw [known, channel?_last hchannels hid hnew, Option.map_some, Held.ofChannel, hinfo, hopen,
        hread, hwrite]
      rfl
    refine ⟨Session.wired_dropChannel hwired name, ?_, [], ?_, haccounts _⟩
    · rw [hafter]
      refine (hsound.held_keepChannel name).trans ?_
      rw [hothers]
      exact congrArg (Function.update s.held name) hthis
    · exact (Session.transfers_dropChannel (s.setManager m).toSession name).trans hlog

/-- A change of what is known of one channel is a change under its name. -/
lemma held_setManager (h : s.Sound) {name : String} {id : ℕ}
    (hl : s.channels.lookup name = some id) {m : Manager Bench Instance DeviceKey}
    {value : Option Held} (hknown : m.known = Function.update s.manager.known id value) :
    (s.setManager m).held = Function.update s.held name value :=
  Session.Sound.held_update (t := (s.setManager m).toSession) h hl rfl hknown

lemma follows_setTimeouts (h : s.Sound) (hw : s.manager.Wired) (name : String)
    (read? write? : Option (Option Duration)) :
    s.Follows (.setTimeouts name read? write?) (s.step (.setTimeouts name read? write?)).1
      (s.step (.setTimeouts name read? write?)).2 := by
  refine Follows.onChannel hw (fun hl => Ledger.alter_of_none hl _) (fun _ => rfl) fun c hc => ?_
  have hlookup := (Session.channel?_eq_some hc).1
  refine ⟨?_, ?_, [], ?_, rfl⟩
  · cases read? with
    | none =>
        cases write? with
        | none => exact hw
        | some t => exact hw.setWriteTimeout c.id t
    | some t =>
        cases write? with
        | none => exact hw.setReadTimeout c.id t
        | some t' => exact (hw.setReadTimeout c.id t).setWriteTimeout c.id t'
  · refine (held_setManager h hlookup
      (known_setTimeouts s.manager c.id read? write? rfl rfl)).trans ?_
    rw [← Session.held_of_lookup hlookup]
    rfl
  · cases read? <;> cases write? <;> exact (List.append_nil _).symm

lemma follows_close (h : s.Sound) (hw : s.manager.Wired) (name : String) :
    s.Follows (.close name) (s.step (.close name)).1 (s.step (.close name)).2 := by
  refine Follows.onChannel hw (fun hl => Ledger.alter_of_none hl _) (fun _ => rfl) fun c hc => ?_
  have hlookup := (Session.channel?_eq_some hc).1
  refine ⟨hw.close c.id, ?_, [], (transfers_close c.id).trans (List.append_nil _).symm, rfl⟩
  refine (held_setManager h hlookup (known_close c.id)).trans ?_
  rw [← Session.held_of_lookup hlookup]
  rfl

/-- A shutdown drops some channels, and does nothing else to channels or to the log before or
after that. -/
lemma Follows.dropping (hw : s.manager.Wired) {t : Session Bench Instance DeviceKey}
    (ht : t.Sound [] []) {names : List String} (hbefore : s.toSession.Quiet t)
    (hafter : (t.dropChannels names).Quiet s'.toSession) :
    s.Follows (.shutdown names) reply s' where
  wired := (Session.wired_dropChannels (hw.congr hbefore.channels) names).congr hafter.channels
  held := by
    refine hafter.held.trans ((ht.held_dropChannels names).trans ?_)
    rw [hbefore.held]
    rfl
  log := ⟨[], (hafter.transfers.trans ((Session.transfers_dropChannels t names).trans
    hbefore.transfers)).trans (List.append_nil _).symm, rfl⟩

lemma follows_shutdown (h : s.Sound) (hw : s.manager.Wired) (names : List String) :
    s.Follows (.shutdown names) (s.step (.shutdown names)).1 (s.step (.shutdown names)).2 := by
  have hquiet : ∀ {t : Session Bench Instance DeviceKey} {m : Manager Bench Instance DeviceKey},
      m.bystanders = t.manager.bystanders → t.Quiet (t.withManager m) := Session.Quiet.of_bystanders
  rw [BenchSession.step, shutdownDropping]
  split_ifs with hwaits hempty hempty
  · exact .dropping hw h (.refl _) (.refl _)
  · exact .dropping hw h (.refl _) ⟨rfl, rfl, rfl⟩
  · obtain rfl := List.isEmpty_iff.mp hempty
    rw [shutdown?]
    split_ifs
    · exact .dropping hw h (.refl _)
        (hquiet (bystanders_teardown.trans bystanders_beginShutdown))
    · exact .dropping hw h (.refl _) (.refl _)
  · have hbegun := h.setManager (m := s.manager.beginShutdown) accounts_beginShutdown
    exact .dropping hw hbegun (hquiet bystanders_beginShutdown)
      (hquiet (bystanders_teardown (m := Session.manager _)))

/-! ### Steps -/

/-- A step in which channels have no part leaves them alone, and claims and transfers as well. -/
theorem aside_step (s : BenchSession) {step : Step} (h : step.isAside = true) :
    s.toSession.Aside (s.step step).2.toSession := by
  have hself : s.toSession.Aside s.toSession := .of_bystanders rfl rfl
  have hslot : ∀ {name : SlotName} {use : Found Instance → Reply × BenchSession},
      (∀ f, s.toSession.Aside (use f).2.toSession) →
      s.toSession.Aside (s.onSlot name use).2.toSession := fun huse =>
    keeps_onSlot (P := fun s' => s.toSession.Aside s'.toSession) hself fun f _ => huse f
  cases step with
  | attach spec => exact ⟨rfl, rfl, rfl, rfl⟩
  | unplug key => exact ⟨rfl, rfl, rfl, rfl⟩
  | fail fault => exact ⟨rfl, rfl, rfl, rfl⟩
  | script pipe behaviour => exact ⟨rfl, rfl, rfl, rfl⟩
  | scan filter keep? =>
      exact .of_bystanders (Session.channels_keepOrDiscard _ keep? _)
        ((Session.bystanders_keepOrDiscard _ keep? _).trans (bystanders_scan filter))
  | enumerate filter keep? =>
      have henum := bystanders_enumerate (m := s.manager) filter
      rw [BenchSession.step]
      rcases he : s.manager.enumerate filter with ⟨_ | found, m₁⟩ <;> rw [he] at henum
      · exact .of_bystanders rfl henum
      · exact .of_bystanders (Session.channels_keepOrDiscard _ keep? found)
          ((Session.bystanders_keepOrDiscard _ keep? found).trans henum)
  | enumerateAtOnce count filter =>
      exact .of_bystanders rfl
        ((bystanders_scanning s.manager.bystanders).enumerateTurns rfl filter count)
  | showHold slot => exact hslot fun _ => hself
  | sameDevice a b => exact hslot fun _ => hslot fun _ => hself
  | nativeOpen slot =>
      refine hslot fun f => ?_
      rcases native_openDevice (m := s.manager) f.hold.device with ⟨e, ho⟩ | ho <;> rw [ho] <;>
        exact ⟨rfl, rfl, rfl, rfl⟩
  | release slot => exact hslot fun f => .of_bystanders rfl (bystanders_release f.hold)
  | dropSet set =>
      exact .of_bystanders (Session.channels_dropSet s.toSession set)
        (Session.bystanders_dropSet s.toSession set)
  | showChannel name =>
      exact keeps_onChannel (P := fun s' => s.toSession.Aside s'.toSession) hself fun _ _ => hself
  | shutdownNow => exact .of_bystanders rfl bystanders_shutdownNow
  | list filter json limit? => exact .of_bystanders rfl (bystanders_listInterfaces filter json _)
  | refs | claimed | shutdownDuringClaim | transfers => exact ⟨rfl, rfl, rfl, rfl⟩
  | _ => cases h

/-- Every step of a sound session is as the ledger says. -/
theorem follows_step (h : s.Sound) (hw : s.manager.Wired) (step : Step) :
    s.Follows step (s.step step).1 (s.step step).2 := by
  by_cases haside : step.isAside = true
  · exact .quiet hw (aside_step s haside).quiet (Ledger.after_of_isAside haside)
      (Ledger.accounts_of_isAside haside)
  cases step with
  | pushRead pipe chunk => exact .quiet hw ⟨rfl, rfl, rfl⟩ rfl rfl
  | «open» info name => exact .openAs h hw info name (fun _ => rfl) fun _ => rfl
  | openSlot slot change name =>
      exact .onSlot hw rfl rfl fun f =>
        .openAs h hw (change f.info) name (fun _ => rfl) fun _ => rfl
  | write name data => exact follows_write hw name data
  | watchedWrite name data => exact follows_watchedWrite hw name data
  | read name length => exact follows_read hw name length
  | setTimeouts name read? write? => exact follows_setTimeouts h hw name read? write?
  | close name => exact follows_close h hw name
  | dropChannel name =>
      exact ⟨Session.wired_dropChannel hw name, Session.Sound.held_dropChannel h name, [],
        (Session.transfers_dropChannel s.toSession name).trans (List.append_nil _).symm, rfl⟩
  | shutdown names => exact follows_shutdown h hw names
  | exchange request limit? =>
      have hm := s.meanwhile_onlyShutdown
      obtain ⟨entries, hlog, hentries⟩ :=
        transfers_exchangeWith h.balanced hm request { room? := limit? }
      exact .frame hw rfl (h.balanced.exchangeWith_same hm request _).channels hlog rfl hentries
  | _ => exact absurd rfl haside

/-! ### Runs -/

lemma wired_run (h : s.Sound) (hw : s.manager.Wired) (steps : List Step) :
    (s.run steps).manager.Wired := by
  induction steps generalizing s with
  | nil => exact hw
  | cons step steps ih => exact ih (h.step step) (follows_step h hw step).wired

/-- The steps of a run, each with what it comes back with. -/
def transcript (s : BenchSession) : List Step → List (Step × Reply)
  | [] => []
  | step :: steps => (step, (s.step step).1) :: (s.step step).2.transcript steps

/-- What a run of a sound session adds to the log, and the channels after it. -/
theorem logged_run (h : s.Sound) (hw : s.manager.Wired) (steps : List Step) :
    (∃ log, (s.run steps).manager.platform.transfers = s.manager.platform.transfers ++ log ∧
      Logged s.held (s.transcript steps) log) ∧
    (s.run steps).held = s.held.afterAll (s.transcript steps) := by
  induction steps generalizing s with
  | nil => exact ⟨⟨[], (List.append_nil _).symm, .nil _⟩, rfl⟩
  | cons step steps ih =>
      have hstep := follows_step h hw step
      obtain ⟨entries, hentries, haccounts⟩ := hstep.log
      obtain ⟨⟨log, hlog, hlogged⟩, hheld⟩ := ih (h.step step) hstep.wired
      rw [hstep.held] at hlogged hheld
      refine ⟨⟨entries ++ log, ?_, .cons haccounts hlogged⟩, hheld⟩
      rw [← List.append_assoc, ← hentries]
      exact hlog

/-- The session `s'` is `s` but for the transfer log, the chunks that wait, and the events. -/
def Untouched (s s' : BenchSession) : Prop :=
  ∃ m, s.manager.Undisturbed m ∧ s' = s.setManager m

lemma Untouched.refl (s : BenchSession) : s.Untouched s := ⟨s.manager, .refl _, rfl⟩

lemma untouched_write (s : BenchSession) (name : String) (data : Bytes) :
    s.Untouched (s.step (.write name data)).2 :=
  keeps_write (.refl s) fun id => ⟨_, undisturbed_write id data, rfl⟩

lemma untouched_watchedWrite (s : BenchSession) (name : String) (data : Bytes) :
    s.Untouched (s.step (.watchedWrite name data)).2 :=
  keeps_watchedWrite (.refl s) fun id => ⟨_, undisturbed_write id data, rfl⟩

lemma untouched_read (s : BenchSession) (name : String) (length : ℕ) :
    s.Untouched (s.step (.read name length)).2 :=
  keeps_read (.refl s) fun id limit => ⟨_, undisturbed_receive id limit, rfl⟩

/-- After any run, the transfer log is what the steps of the run add to it: an entry for each
write and each read on a channel that was open then, with the device, the endpoint and the
timeout that the ledger has for that channel, and the result that the user was told.  The
channels are as the ledger says.  And a transfer, whatever becomes of it, leaves all channels
alone, and everything else but the log, the chunks that wait, and the events. -/
theorem run_transfers (steps : List Step) :
    let s := fresh.run steps
    Logged (fun _ => none) (fresh.transcript steps) s.manager.platform.transfers ∧
      s.held = Ledger.afterAll (fun _ => none) (fresh.transcript steps) ∧
      ∀ name data length, s.Untouched (s.step (.write name data)).2 ∧
        s.Untouched (s.step (.watchedWrite name data)).2 ∧
        s.Untouched (s.step (.read name length)).2 := by
  intro s
  have hwired : fresh.manager.Wired := fun c hc => absurd hc (List.not_mem_nil)
  have hheld : fresh.held = fun _ => none := rfl
  obtain ⟨⟨log, hlog, hlogged⟩, hafter⟩ := logged_run sound_fresh hwired steps
  rw [hheld] at hlogged hafter
  have hall : s.manager.platform.transfers = log := hlog.trans (List.nil_append log)
  exact ⟨hall ▸ hlogged, hafter, fun name data length => ⟨untouched_write s name data,
    untouched_watchedWrite s name data, untouched_read s name length⟩⟩

end BenchSession

end UsbPipe
