/-
Claims and the handles of a session.

The claims of a bench are to follow the handles that its user keeps: a site is claimed while a
handle is open there.  One half of this holds after every run: a claim has an open handle.  The
other half holds for a site that is never opened while a handle is open there.  Where that
happens, two handles have one claim, and the first that is closed, or an open that is given up,
takes the claim of the other.

* `BenchSession.attempt?`: the open that a step makes.
* `BenchSession.Shares`, `NeverShares`: steps and runs that open a site where a handle is open.
* `BenchSession.Shifts`, `shifts_step`: what a step does on a site.
* `backed_run`, `exclusive_run`: what holds on a site after a run.
* `run_claims`, `run_claims_apart`: claims and open handles after any run.
* `close_frees_shared`: a handle that is open on a site that is not claimed.
-/
import UsbPipe.Proofs.Manager.Claims
import UsbPipe.Proofs.Session.TransferLog

namespace UsbPipe

open Usb Manager

/-! ### Names and claims -/

namespace Session

variable {s : Session Bench Instance DeviceKey} {E : List (Hold Instance)} {I : List ℕ}
  {p : DeviceKey × UInt8}

/-- A name dropped eases every site. -/
lemma eases_dropChannel (h : s.Sound E I) (hw : s.manager.Wired) (name : String) :
    s.manager.Eases p (s.dropChannel name).2.manager := by
  rw [dropChannel]
  cases s.channels.lookup name with
  | none => exact .refl _
  | some id => exact Manager.eases_dropChannel h.balanced.ids_nodup hw id

lemma eases_dropChannels (h : s.Sound E I) (hw : s.manager.Wired) (names : List String) :
    s.manager.Eases p (s.dropChannels names).manager := by
  induction names generalizing s with
  | nil => exact .refl _
  | cons name names ih =>
      exact (eases_dropChannel h hw name).trans
        (ih (h.dropChannel name) (wired_dropChannel hw name))

end Session

namespace BenchSession

variable {s : BenchSession} {p : DeviceKey × UInt8} {step : Step}

/-! ### Opens -/

/-- The open that a step makes, if it makes one: by which manager, and for which record. -/
def attempt? (s : BenchSession) :
    Step → Option (Manager Bench Instance DeviceKey × RawInterface)
  | .open info _ => some (s.manager, info)
  | .openSlot slot change _ =>
    (s.toSession.slot? slot.set slot.index).map fun f => (s.manager, change f.info)
  | .exchange request _ => s.manager.exchangeOpen? request
  | _ => none

/-- A step opens a site where a handle is open. -/
def Shares (s : BenchSession) (p : DeviceKey × UInt8) (step : Step) : Prop :=
  ∃ a ∈ s.attempt? step, a.1.openAt p ≠ [] ∧ ∃ f ∈ a.1.target? a.2, f.info.site = p

instance (s : BenchSession) (p : DeviceKey × UInt8) (step : Step) : Decidable (s.Shares p step) :=
  inferInstanceAs (Decidable (∃ a ∈ s.attempt? step, _))

/-- No step of a run opens a site where a handle is open. -/
def NeverShares (p : DeviceKey × UInt8) : BenchSession → List Step → Prop
  | _, [] => True
  | s, step :: steps => ¬ s.Shares p step ∧ NeverShares p (s.step step).2 steps

instance NeverShares.decidable (p : DeviceKey × UInt8) :
    ∀ (s : BenchSession) (steps : List Step), Decidable (s.NeverShares p steps)
  | _, [] => inferInstanceAs (Decidable True)
  | s, step :: steps =>
      have := NeverShares.decidable p (s.step step).2 steps
      inferInstanceAs (Decidable (_ ∧ _))

/-! ### Steps -/

/-- What a step does on a site: closes at most, or between them an open that has its target
there. -/
inductive Shifts (p : DeviceKey × UInt8) (s : BenchSession) (step : Step)
    (m' : Manager Bench Instance DeviceKey) : Prop
  | closes (eases : s.manager.Eases p m')
  | opens {m₁ m₂ : Manager Bench Instance DeviceKey} {info : RawInterface}
      (attempt : s.attempt? step = some (m₁, info))
      (target : ∃ f, m₁.target? info = some f ∧ f.info.site = p)
      (before : s.manager.Eases p m₁) (tries : m₁.Tries p m₂) (after : m₂.Eases p m')

namespace Shifts

variable {m : Manager Bench Instance DeviceKey}

/-- A step that leaves channels and claims alone. -/
lemma of_frame (hchannels : m.channels = s.manager.channels)
    (hclaimed : m.platform.claimed = s.manager.platform.claimed) : s.Shifts p step m :=
  closes (.of_frame hchannels hclaimed)

/-- A transfer leaves channels and claims alone. -/
lemma of_untouched {s' : BenchSession} (h : s.Untouched s') : s.Shifts p step s'.manager := by
  obtain ⟨m, hm, rfl⟩ := h
  exact closes (.of_undisturbed hm)

/-- An open, by whatever step; a channel that was kept under the name is closed after it. -/
lemma openAs (h : s.Sound) (hw : s.manager.Wired) (info : RawInterface) (name : String)
    (hattempt : s.attempt? step = some (s.manager, info)) :
    s.Shifts p step (s.openAs info name).2.manager := by
  have hm := s.meanwhile_onlyShutdown
  have hsite := openWith_site h.balanced hm info p
  have hbalanced := h.balanced.openWith hm.accounts_eq info
  have hwired := hw.openWith h.balanced hm info
  -- the old channel under the name, if any, is closed
  have hafter : (s.manager.openWith s.meanwhile info).2.Eases p (s.openAs info name).2.manager := by
    rw [BenchSession.openAs]
    rcases ho : s.manager.openWith s.meanwhile info with ⟨e | o, m⟩ <;>
      rw [ho] at hbalanced hwired
    · exact .refl m
    · have hsound : (s.setManager m).toSession.Sound [] [o.id] :=
        Session.Sound.withManager h hbalanced (channelIds_openWith_ok hm ho)
      exact (Session.eases_dropChannel hsound hwired name).trans (.refl _)
  rcases hsite with heases | ⟨htarget, htries⟩
  · exact closes (heases.trans hafter)
  · exact opens hattempt htarget (.refl _) htries hafter

lemma shutdownDropping (h : s.Sound) (hw : s.manager.Wired) (dropping : List String) :
    s.Shifts p step (s.shutdownDropping dropping).2.manager := by
  have hsame : ∀ {s₁ : BenchSession} {m : Manager Bench Instance DeviceKey},
      m.bystanders = s₁.manager.bystanders → m.accounts = s₁.manager.accounts →
      s.manager.Eases p s₁.manager ∧ s₁.Sound ∧ s₁.manager.Wired →
      s.manager.Eases p m ∧ (s₁.setManager m).Sound ∧ m.Wired :=
    fun hby ha h₁ => ⟨h₁.1.trans (.of_bystanders hby), h₁.2.1.setManager ha,
      h₁.2.2.congr (congrArg (·.channels) hby)⟩
  refine closes (keeps_shutdownDropping
    (P := fun s' => s.manager.Eases p s'.manager ∧ s'.Sound ∧ s'.manager.Wired)
    ⟨.refl _, h, hw⟩ (fun s₁ names h₁ => ⟨?_, ?_, ?_⟩)
    (fun _ => hsame bystanders_beginShutdown accounts_beginShutdown)
    (fun _ => hsame bystanders_teardown accounts_teardown) (fun _ => hsame rfl rfl) dropping).1
  · exact h₁.1.trans (Session.eases_dropChannels h₁.2.1 h₁.2.2 names)
  · exact Session.Sound.dropChannels h₁.2.1 names
  · exact Session.wired_dropChannels h₁.2.2 names

end Shifts

/-- Every step of a sound session closes at most on a site, or opens it. -/
theorem shifts_step (h : s.Sound) (hw : s.manager.Wired) (p : DeviceKey × UInt8) (step : Step) :
    s.Shifts p step (s.step step).2.manager := by
  by_cases haside : step.isAside = true
  · have hleft := aside_step s haside
    exact .of_frame hleft.channels hleft.claimed
  have hnone : ∀ step, s.Shifts p step s.manager := fun _ => .of_frame rfl rfl
  cases step with
  | pushRead pipe chunk => exact .of_frame rfl rfl
  | «open» info name => exact .openAs h hw info name rfl
  | openSlot slot change name =>
      exact keeps_onSlot (P := (s.Shifts p _ ·.manager)) (hnone _) fun f hf =>
        .openAs h hw (change f.info) name (by rw [attempt?, hf]; rfl)
  | write name data => exact .of_untouched (untouched_write s name data)
  | watchedWrite name data => exact .of_untouched (untouched_watchedWrite s name data)
  | read name length => exact .of_untouched (untouched_read s name length)
  | setTimeouts name read? write? =>
      refine .closes (keeps_setTimeouts (P := fun s' => s.manager.Eases p s'.manager) (.refl _)
        (fun _ heases id t => ?_) fun _ heases id t => ?_)
      · exact heases.trans (eases_setReadTimeout id t)
      · exact heases.trans (eases_setWriteTimeout id t)
  | close name =>
      exact keeps_onChannel (P := (s.Shifts p _ ·.manager)) (hnone _) fun c _ =>
        .closes (eases_close h.balanced.ids_nodup hw c.id)
  | dropChannel name => exact .closes (Session.eases_dropChannel h hw name)
  | shutdown dropping => exact .shutdownDropping h hw dropping
  | exchange request limit? =>
      have hsite := exchangeWith_site h.balanced hw s.meanwhile_onlyShutdown request
        { room? := limit? } p
      rcases hsite with heases | ⟨_, _, _, hattempt, htarget, hbefore, htries, hafter⟩
      · exact .closes heases
      · exact .opens hattempt htarget hbefore htries hafter
  | _ => exact absurd rfl haside

/-! ### Runs -/

/-- After any run from a sound session a claim of a site has a channel there, if it had one
before. -/
theorem backed_run (h : s.Sound) (hw : s.manager.Wired) (hb : s.manager.Backed p)
    (steps : List Step) : (s.run steps).manager.Backed p := by
  induction steps generalizing s with
  | nil => exact hb
  | cons step steps ih =>
      refine ih (h.step step) (follows_step h hw step).wired ?_
      cases shifts_step h hw p step with
      | closes eases => exact hb.eases eases
      | opens _ _ _ tries after => exact (Backed.tries tries).eases after

/-- A run that never opens a site where a handle is open leaves the site exclusive. -/
theorem exclusive_run (h : s.Sound) (hw : s.manager.Wired) (he : s.manager.Exclusive p)
    {steps : List Step} (hnever : s.NeverShares p steps) :
    (s.run steps).manager.Exclusive p := by
  induction steps generalizing s with
  | nil => exact he
  | cons step steps ih =>
      obtain ⟨hone, hrest⟩ := hnever
      refine ih (h.step step) (follows_step h hw step).wired ?_ hrest
      cases shifts_step h hw p step with
      | closes eases => exact he.eases eases
      | opens attempt target _ tries after =>
          refine (Exclusive.tries ?_ tries).eases after
          by_contra hopen
          exact hone ⟨_, attempt, hopen, target⟩

/-- The open handles on a site are the channels that are open there. -/
lemma mem_openHandles (h : s.Sound) {key : DeviceKey} {interface : UInt8}
    {c : Channel Instance DeviceKey} :
    (c ∈ s.openHandles ∧ c.info.key = key ∧ c.info.interface = interface) ↔
      c ∈ s.manager.openAt (key, interface) := by
  have hmem : c ∈ s.handles ↔ c ∈ s.manager.channels := h.handles_perm.mem_iff
  rw [mem_openAt, Session.openHandles, List.mem_filter, hmem, RawInterface.site, Prod.mk.injEq]
  simp [and_assoc]

/-- After any run a claim has an open handle on its device and with its interface.  If the run
never opens an interface where a handle is open, then the interface is claimed exactly while a
handle is open there, and there is only one.  A close ends the claim of its own interface and
no other, and a failed open ends at most the claim of the interface that it resolved. -/
theorem run_claims (steps : List Step) (key : DeviceKey) (interface : UInt8) :
    let s := fresh.run steps
    let claimed := fun m : Manager Bench Instance DeviceKey => m.platform.isClaimed key interface
    let opened := fun c => c ∈ s.openHandles ∧ c.info.key = key ∧ c.info.interface = interface
    (claimed s.manager = true → ∃ c, opened c) ∧
    (fresh.NeverShares (key, interface) steps →
      (claimed s.manager = true ↔ ∃ c, opened c) ∧ ∀ c d, opened c → opened d → c = d) ∧
    (∀ c ∈ s.openHandles, claimed (s.manager.closeChannel c).2 =
      (claimed s.manager && !(c.info.key == key && c.info.interface == interface))) ∧
    ∀ meanwhile, OnlyShutdown meanwhile → ∀ info e m',
      s.manager.openWith meanwhile info = (.error e, m') →
        claimed m' = claimed s.manager ∨ ∃ f, s.manager.target? info = some f ∧
          f.info.key = key ∧ f.info.interface = interface ∧ claimed m' = false := by
  intro s claimed opened
  have hsound : s.Sound := sound_run steps
  have hempty : fresh.manager.Wired := fun c hc => absurd hc List.not_mem_nil
  have hwired : s.manager.Wired := wired_run sound_fresh hempty steps
  have hopened : ∀ c, opened c ↔ c ∈ s.manager.openAt (key, interface) := fun c =>
    mem_openHandles hsound
  have hbacked : s.manager.Backed (key, interface) :=
    backed_run sound_fresh hempty (fun h => absurd h List.not_mem_nil) steps
  have hexists : claimed s.manager = true → ∃ c, opened c := fun h => by
    obtain ⟨c, hc⟩ := List.exists_mem_of_length_pos (hbacked (isClaimed_iff.mp h))
    exact ⟨c, (hopened c).mpr hc⟩
  refine ⟨hexists, fun hnever => ?_, fun c hc => ?_, fun meanwhile hm info e m' ho => ?_⟩
  · have hexclusive : s.manager.Exclusive (key, interface) :=
      exclusive_run sound_fresh hempty (Or.inr ⟨List.not_mem_nil, rfl⟩) hnever
    rcases hexclusive with ⟨hclaim, hone⟩ | ⟨-, hzero⟩
    · obtain ⟨x, hx⟩ := List.length_eq_one_iff.mp hone
      refine ⟨⟨hexists, fun _ => isClaimed_iff.mpr hclaim⟩, fun c d hc hd => ?_⟩
      rw [hopened, hx, List.mem_singleton] at hc hd
      exact hc.trans hd.symm
    · have hnone : ∀ c, ¬ opened c := fun c hc => by
        rw [hopened, List.length_eq_zero_iff.mp hzero] at hc
        exact absurd hc List.not_mem_nil
      exact ⟨⟨hexists, fun ⟨c, hc⟩ => absurd hc (hnone c)⟩, fun c d hc _ => absurd hc (hnone c)⟩
  · obtain ⟨hhandle, hopen⟩ := List.mem_filter.mp hc
    have hmem : c ∈ s.manager.channels := hsound.handles_perm.mem_iff.mp hhandle
    exact isClaimed_closeChannel (hwired c hmem) (by simpa using hopen) key interface
  · exact isClaimed_openWith_error hsound.balanced hm ho key interface

/-- Two devices have a handle each, and the first is closed: the interface of the second is
claimed, for its only handle.  An open of the first device that a shutdown interrupts does not
change this, and the close of the handle does. -/
theorem run_claims_apart :
    let steps : List Step := [.attach (.raw ⟨1, 4⟩ 2 0x1209 1), .attach (.raw ⟨1, 5⟩ 3 0x1209 1),
      .enumerate {} (some "r"), .openSlot ⟨"r", 0⟩ id "a", .openSlot ⟨"r", 1⟩ id "b", .close "a"]
    let s := fresh.run steps
    let claimed := fun m : Manager Bench Instance DeviceKey => m.platform.isClaimed ⟨1, 5⟩ 0
    let opened := fun c => c ∈ s.openHandles ∧ c.info.key = ⟨1, 5⟩ ∧ c.info.interface = 0
    fresh.NeverShares (⟨1, 5⟩, 0) steps ∧ claimed s.manager = true ∧
      (∃ c, opened c ∧ (∀ d, opened d → d = c) ∧ claimed (s.manager.closeChannel c).2 = false) ∧
      ∃ info ∈ s.records.map Found.info, ∃ m',
        s.manager.openWith beginShutdown info = (.error .shuttingDown, m') ∧
        claimed m' = true := by
  intro steps s claimed opened
  obtain ⟨-, hnever, hclose, hfailed⟩ := run_claims steps ⟨1, 5⟩ 0
  have hshares : fresh.NeverShares (⟨1, 5⟩, 0) steps := by decide
  have hclaimed : claimed s.manager = true := by decide
  obtain ⟨hiff, hone⟩ := hnever hshares
  obtain ⟨c, hc⟩ := hiff.mp hclaimed
  refine ⟨hshares, hclaimed, ⟨c, hc, fun d hd => hone d c hd hc, ?_⟩, ?_⟩
  · have hend : claimed (s.manager.closeChannel c).2 = (claimed s.manager && !_) :=
      hclose c hc.1
    rw [hend, hc.2.1, hc.2.2]
    decide
  · have hm : OnlyShutdown beginShutdown := fun _ => Or.inr (Or.inl rfl)
    -- the record of the first device, resolved there
    obtain ⟨info, hinfo, hrefused, hfirst⟩ : ∃ info ∈ s.records.map Found.info,
        (s.manager.openWith beginShutdown info).1 = .error .shuttingDown ∧
          ∀ f ∈ s.manager.target? info, f.info.key ≠ ⟨1, 5⟩ := by decide
    obtain ⟨m', hopen⟩ : ∃ m', s.manager.openWith beginShutdown info = (.error .shuttingDown, m') :=
      ⟨_, Prod.ext hrefused rfl⟩
    refine ⟨info, hinfo, m', hopen, ?_⟩
    rcases hfailed beginShutdown hm info .shuttingDown m' hopen with hsame | ⟨f, hf, hkey, -⟩
    · exact hsame.trans hclaimed
    · exact absurd hkey (hfirst f hf)

/-- Two handles are opened on one interface and one of them is closed: the other is open, but its
interface is not claimed. -/
theorem close_frees_shared :
    let steps : List Step := [.attach (.raw ⟨1, 4⟩ 2 0x1209 1), .enumerate {} (some "r"),
      .openSlot ⟨"r", 0⟩ id "a", .openSlot ⟨"r", 0⟩ id "b", .close "a"]
    let s := fresh.run steps
    (∃ c ∈ s.openHandles, c.info.key = ⟨1, 4⟩ ∧ c.info.interface = 0) ∧
      s.manager.platform.isClaimed ⟨1, 4⟩ 0 = false := by
  decide

end BenchSession

end UsbPipe
