/-
Holds in the hands of users, channels and threads.

A thread in the middle of an operation has holds in its hands: those of the records it found,
or that of the interface it claims.  With the holds of the records that users keep and of the
open channels they are all holds there are, and the pool backs them after every run.

* `Stage.holds`, `InHands`: the holds of one thread, and of all threads.
* `Backed`: the invariant of the pool, the kept records, the channels and the stages.
* `Backed.restage`, `Backed.hand`, `Backed.establish`, `Backed.vacate`: threads, users and
  channels take holds and give them back.
* `backs_advance`, `Backed.step`, `backed_run`: it is kept by the steps inside the scan lock, by
  every step, and by every run.
-/
import UsbPipe.Proofs.Manager.Holds
import UsbPipe.Proofs.Manager.Roster
import UsbPipe.Proofs.Threads.Teardown

namespace UsbPipe.Threads

open Usb Manager

variable {σ δ η : Type}

/-! ### Holds of threads -/

/-- The holds in the hands of a thread. -/
def Stage.holds : Stage δ η → List (Hold δ)
  | resolved f => [f.hold]
  | claimed c | registered c _ | refused c _ => [c.hold]
  | leaving outcome => outcome.records.map Found.hold
  | parting scan => scan.found.map Found.hold
  | discarding found _ => found.map Found.hold
  | _ => []

/-- Some holds are those in the hands of all threads, of which finitely many have any. -/
def InHands (stage : ℕ → Stage δ η) (hs : List (Hold δ)) : Prop :=
  ∃ ts : List ℕ, ts.Nodup ∧ (∀ t ∉ ts, (stage t).holds = []) ∧
    hs.Perm (ts.flatMap fun t => (stage t).holds)

namespace InHands

variable {stage stage' : ℕ → Stage δ η} {hs : List (Hold δ)}

lemma congr (h : InHands stage hs) (hsame : ∀ t, (stage' t).holds = (stage t).holds) :
    InHands stage' hs := by
  obtain ⟨ts, hnd, hout, hperm⟩ := h
  exact ⟨ts, hnd, fun t ht => (hsame t).trans (hout t ht), by simpa only [hsame] using hperm⟩

/-- The holds of one thread and of the others; that one may go anywhere. -/
lemma split (h : InHands stage hs) (t : ℕ) :
    ∃ others, hs.Perm ((stage t).holds ++ others) ∧
      ∀ b, InHands (Function.update stage t b) (b.holds ++ others) := by
  obtain ⟨ts, hnd, hout, hperm⟩ := h
  have hne : ∀ u ∈ ts.erase t, u ≠ t := fun u hu he =>
    (List.Nodup.mem_erase_iff hnd).mp hu |>.1 he
  refine ⟨(ts.erase t).flatMap fun u => (stage u).holds, hperm.trans ?_, fun b => ?_⟩
  · by_cases ht : t ∈ ts
    · exact (List.perm_cons_erase ht).flatMap_right _
    · rw [hout t ht, List.erase_of_not_mem ht, List.nil_append]
  · have hothers : ((ts.erase t).flatMap fun u => (Function.update stage t b u).holds) =
        (ts.erase t).flatMap fun u => (stage u).holds :=
      List.flatMap_congr fun u hu => by rw [Function.update_of_ne (hne u hu)]
    refine ⟨t :: ts.erase t, List.nodup_cons.mpr ⟨fun ht => hne t ht rfl, hnd.erase t⟩, ?_, ?_⟩
    · intro u hu
      rw [List.mem_cons, not_or] at hu
      rw [Function.update_of_ne hu.1]
      exact hout u fun hmem => hu.2 ((List.mem_erase_of_ne hu.1).mpr hmem)
    · rw [List.flatMap_cons, Function.update_self, hothers]

end InHands

/-! ### The invariant -/

/-- An open channel has a hold, and the pool backs the holds of the threads, of the records that
users keep, and of the channels. -/
structure Backed (pool : Pool δ) (records : List (Found δ)) (channels : List (Channel δ η))
    (stage : ℕ → Stage δ η) : Prop where
  paired : ∀ c ∈ channels, c.hold?.isSome = c.native?.isSome
  backs : ∃ hs, InHands stage hs ∧
    pool.Backs (hs ++ (records.map Found.hold ++ channels.filterMap Channel.hold?))

namespace Backed

variable {p p' : Pool δ} {rs rs' : List (Found δ)} {cs cs' : List (Channel δ η)}
  {stage stage' : ℕ → Stage δ η} {t : ℕ} {a b : Stage δ η}

/-- Threads that have not begun. -/
lemma start : Backed ({} : Pool δ) [] ([] : List (Channel δ η)) fun _ => .idle where
  paired := by simp
  backs := ⟨[], ⟨[], List.nodup_nil, fun _ _ => rfl, .nil⟩, Pool.backs_nil⟩

/-- All threads have the holds that they had. -/
lemma congr (h : Backed p rs cs stage) (hsame : ∀ t, (stage' t).holds = (stage t).holds) :
    Backed p rs cs stage' :=
  have ⟨hs, hin, hb⟩ := h.backs
  ⟨h.paired, hs, hin.congr hsame, hb⟩

/-- A thread goes on, and takes holds or gives some back. -/
lemma restage (h : Backed p rs cs stage) (ht : stage t = a)
    (hpool : ∀ H, p.Backs (a.holds ++ H) → p'.Backs (b.holds ++ H)) :
    Backed p' rs cs (Function.update stage t b) := by
  obtain ⟨hs, hin, hb⟩ := h.backs
  obtain ⟨others, hperm, hmove⟩ := hin.split t
  have hsplit := hb.perm (hperm.append_right _)
  rw [ht, List.append_assoc] at hsplit
  refine ⟨h.paired, b.holds ++ others, hmove b, ?_⟩
  rw [List.append_assoc]
  exact hpool _ hsplit

/-- A thread goes on with the holds that it has. -/
lemma move (h : Backed p rs cs stage) (ht : stage t = a) (hholds : b.holds = a.holds) :
    Backed p rs cs (Function.update stage t b) :=
  h.restage ht fun _ hb => hholds ▸ hb

/-- A thread hands its records to a user. -/
lemma hand (h : Backed p rs cs stage) (ht : stage t = a) {fs : List (Found δ)}
    (hfs : a.holds = fs.map Found.hold) (hb : b.holds = []) :
    Backed p (rs ++ fs) cs (Function.update stage t b) := by
  obtain ⟨hs, hin, hbacks⟩ := h.backs
  obtain ⟨others, hperm, hmove⟩ := hin.split t
  rw [ht, hfs] at hperm
  refine ⟨h.paired, others, by simpa only [hb, List.nil_append] using hmove b, ?_⟩
  refine hbacks.perm ((hperm.append_right _).trans ?_)
  rw [List.map_append]
  simp only [List.append_assoc]
  refine (List.perm_append_comm_assoc _ _ _).trans (List.Perm.append_left _ ?_)
  exact List.perm_append_comm_assoc _ _ _

/-- The hold of a thread goes into a new channel. -/
lemma establish (h : Backed p rs cs stage) (ht : stage t = a) {c : Channel δ η} {x : Hold δ}
    (hx : a.holds = [x]) (hb : b.holds = []) (hhold : c.hold? = some x)
    (hnative : c.native?.isSome = true) :
    Backed p rs (cs ++ [c]) (Function.update stage t b) := by
  obtain ⟨hs, hin, hbacks⟩ := h.backs
  obtain ⟨others, hperm, hmove⟩ := hin.split t
  rw [ht, hx] at hperm
  refine ⟨fun d hd => ?_, others, by simpa only [hb, List.nil_append] using hmove b, ?_⟩
  · rcases List.mem_append.mp hd with hd | hd
    · exact h.paired d hd
    · rw [List.mem_singleton.mp hd, hhold, hnative]
      rfl
  · have hholds : (cs ++ [c]).filterMap Channel.hold? = cs.filterMap Channel.hold? ++ [x] := by
      simp [hhold]
    refine hbacks.perm ((hperm.append_right _).trans ?_)
    rw [hholds, ← List.append_assoc _ _ [x], ← List.append_assoc others _ [x]]
    exact (List.perm_append_singleton _ _).symm

/-- The hold of a channel is given back. -/
lemma vacate {m : Manager σ δ η} (h : Backed p rs m.channels stage) (hnd : m.channelIds.Nodup)
    {c : Channel δ η} (hc : c ∈ m.channels) {x : Hold δ} (hx : c.hold? = some x) :
    (∃ H, p.Backs (x :: H)) ∧
      Backed (p.release x).pool rs (m.updateChannel c.id emptied).channels stage := by
  obtain ⟨hs, hin, hbacks⟩ := h.backs
  obtain ⟨l₁, l₂, hl, hne⟩ := channels_split hnd hc
  have hl' := updateChannel_split hl hne emptied
  have hfirst : (hs ++ (rs.map Found.hold ++ m.channels.filterMap Channel.hold?)).Perm
      (x :: (hs ++ (rs.map Found.hold ++
        (m.updateChannel c.id emptied).channels.filterMap Channel.hold?))) := by
    rw [hl, hl']
    simp only [List.filterMap_append, List.filterMap_cons, hx, emptied]
    simp only [← List.append_assoc]
    exact List.perm_middle
  have hout := hbacks.perm hfirst
  refine ⟨⟨_, hout⟩, fun d hd => ?_, hs, hin, hout.release⟩
  obtain ⟨e, he, rfl⟩ := List.mem_map.mp hd
  split_ifs
  · rfl
  · exact h.paired e he

/-- A change of channels that leaves the hold and the handle of each. -/
lemma mapped (h : Backed p rs cs stage) {f : Channel δ η → Channel δ η}
    (hhold : ∀ c, (f c).hold? = c.hold?) (hnative : ∀ c, (f c).native? = c.native?) :
    Backed p rs (cs.map f) stage where
  paired := fun d hd => by
    obtain ⟨c, hc, rfl⟩ := List.mem_map.mp hd
    rw [hhold, hnative]
    exact h.paired c hc
  backs := by
    rw [List.filterMap_map, show Channel.hold? ∘ f = Channel.hold? from funext hhold]
    exact h.backs

/-- A closed channel goes out of use. -/
lemma forget (h : Backed p rs cs stage) {id : ℕ}
    (hclosed : ∀ c ∈ cs, c.id = id → c.isClosed = true) :
    Backed p rs (cs.filter (·.id != id)) stage where
  paired := fun c hc => h.paired c (List.mem_of_mem_filter hc)
  backs := by
    have hsame : (cs.filter (·.id != id)).filterMap Channel.hold? =
        cs.filterMap Channel.hold? := by
      rw [List.filterMap_filter]
      refine List.filterMap_congr fun c hc => ?_
      by_cases hid : c.id = id
      · have hpair := h.paired c hc
        rw [Option.isNone_iff_eq_none.mp (hclosed c hc hid)] at hpair
        simp [hid, Option.not_isSome_iff_eq_none.mp (Bool.eq_false_iff.mp hpair)]
      · simp [hid]
    rw [hsame]
    exact h.backs

/-- A user gives a record back. -/
lemma giveBack {f : Found δ} (h : Backed p (rs ++ f :: rs') cs stage) :
    Backed (p.release f.hold).pool (rs ++ rs') cs stage := by
  obtain ⟨hs, hin, hbacks⟩ := h.backs
  refine ⟨h.paired, hs, hin, Pool.Backs.release (hbacks.perm ?_)⟩
  simp only [List.map_append, List.map_cons, List.append_assoc, List.cons_append]
  rw [← List.append_assoc, ← List.append_assoc hs]
  exact List.perm_middle

end Backed

/-! ### Steps -/

lemma Stage.holds_refused (job : Job) (e : UsbError) :
    (.leaving (job.refused e) : Stage δ η).holds = [] := by
  cases job <;> rfl

lemma Stage.holds_notified (a : Stage δ η) : a.notified.holds = a.holds := by
  cases a <;> rfl

/-- Only an established open changes the channels inside the scan lock. -/
lemma Worked.channels_eq {v v' : View δ η} {a b : Stage δ η} (h : Worked v a b v')
    (hne : ∀ c id, a ≠ .registered c id) : v'.channels = v.channels := by
  cases h with
  | established c id => exact absurd rfl (hne c id)
  | _ => rfl

lemma Checked.holds_eq {m m' : Manager (Watched σ η) δ η} {timed : Bool} {b : Stage δ η}
    {outcome? : Option (Outcome δ)} (h : Checked m timed b outcome? m') : b.holds = [] := by
  cases h <;> rfl

lemma Checked.pool_eq {m m' : Manager (Watched σ η) δ η} {timed : Bool} {b : Stage δ η}
    {outcome? : Option (Outcome δ)} (h : Checked m timed b outcome? m') : m'.pool = m.pool := by
  cases h with
  | wait => cases timed <;> rfl
  | _ => rfl

variable [Platform σ δ η]

/-- The entry of a scan or an open takes no hold. -/
lemma backs_of_ready {m m' : Manager (Watched σ η) δ η} (job : Job) {b : Stage δ η}
    {H : List (Hold δ)} (hb : m.pool.Backs H)
    (h : (match m.ready with
      | (.error e, m) => some (.leaving (job.refused e), m)
      | (.ok (), m) => some (.ready job, m)) = some (b, m')) : m'.pool.Backs (b.holds ++ H) := by
  have hpool := pool_ready (m := m)
  rcases hr : m.ready with ⟨e | ⟨⟩, m₁⟩ <;> rw [hr] at h hpool <;> cases h <;> rw [← hpool] at hb
  · rw [Stage.holds_refused]
    exact hb
  · exact hb

/-- What the owner of the scan lock takes and gives back. -/
lemma backs_advance {m m' : Manager (Watched σ η) δ η} {a b : Stage δ η} {H : List (Hold δ)}
    (h : advance m a = some (b, m')) (hne : ∀ c id, a ≠ .registered c id)
    (hb : m.pool.Backs (a.holds ++ H)) : m'.pool.Backs (b.holds ++ H) := by
  cases a with
  | locked job =>
      cases job with
      | teardown =>
          cases h
          rw [pool_teardown]
          exact hb
      | scan filter => exact backs_of_ready (.scan filter) hb h
      | enumerate filter => exact backs_of_ready (.enumerate filter) hb h
      | «open» info => exact backs_of_ready (.open info) hb h
  | ready job =>
      cases job with
      | teardown => cases h
      | scan filter =>
          cases h
          exact backs_walk hb filter
      | enumerate filter =>
          cases h
          exact backs_walk hb filter
      | «open» info =>
          have hres := backs_resolve hb info
          rw [advance] at h
          rcases hr : m.resolve info with ⟨e | f, m₁⟩ <;> rw [hr] at h hres <;> cases h <;>
            exact hres
  | resolved f =>
      have hclaim := backs_claimFound hb
      rw [advance] at h
      rcases hc : m.claimFound id f with ⟨e | c, m₁⟩ <;> rw [hc] at h hclaim <;> cases h <;>
        exact hclaim
  | claimed c =>
      rw [advance, register] at h
      split_ifs at h <;> cases h <;> exact hb
  | registered c id => exact absurd rfl (hne c id)
  | refused c e =>
      cases h
      exact backs_abandon hb
  | _ => cases h

variable {s s' : State σ δ η} {es : List (Notice δ)}

namespace Backed

/-- A step inside the scan lock keeps the holds in somebody's hands. -/
lemma work (h : Backed s.manager.pool s.records s.manager.channels s.stage) {t : ℕ}
    {b : Stage δ η} {m : Manager (Watched σ η) δ η}
    (hwork : advance s.manager (s.stage t) = some (b, m)) :
    Backed m.pool s.records m.channels (Function.update s.stage t b) := by
  by_cases hreg : ∃ c id, s.stage t = .registered c id
  · obtain ⟨c, id, ht⟩ := hreg
    rw [ht] at hwork
    cases hwork
    exact h.establish ht rfl rfl rfl rfl
  · have hne : ∀ c id, s.stage t ≠ .registered c id := fun c id ht => hreg ⟨c, id, ht⟩
    have hchannels : m.channels = s.manager.channels := (worked_of_advance hwork).channels_eq hne
    rw [hchannels]
    exact h.restage rfl fun H hb => backs_advance hwork hne hb

/-- So does every step of every thread. -/
theorem step (h : Backed s.manager.pool s.records s.manager.channels s.stage)
    (ho : Orderly s.manager.view s.owner? s.stage []) (hs : Step s es s') :
    Backed s'.manager.pool s'.records s'.manager.channels s'.stage := by
  cases hs with
  | call t job hstage hjob => exact h.move hstage rfl
  | lock t job hstage hfree => exact h.move hstage rfl
  | work t stage m hwork => exact h.work hwork
  | unlock t outcome hstage => exact h.hand hstage rfl rfl
  | part t scan hstage => exact h.hand hstage rfl rfl
  | partIncomplete t scan e hstage => exact h.move hstage rfl
  | discard t found e hstage =>
      have hchannels : (s.manager.discard found).channels = s.manager.channels :=
        congrArg View.channels (view_discard found)
      rw [State.put, hchannels]
      exact h.restage hstage fun H hb => backs_discard hb
  | closeAgain t id c m hstage hc hclose =>
      rw [eq_of_closeNative_none hclose]
      exact h.move hstage rfl
  | close t id c result m hstage hc hclose =>
      obtain ⟨handle, hnative, hview⟩ := view_closeNative hclose
      have hmem := (channel?_mem hc).1
      obtain ⟨x, hx⟩ : ∃ x, c.hold? = some x := by
        rw [← Option.isSome_iff_exists, h.paired c hmem, hnative]
        rfl
      have hchannels : m.channels = (s.manager.updateChannel c.id emptied).channels :=
        congrArg View.channels hview
      rw [State.put, hchannels, pool_closeNative hnative hx hclose]
      exact (h.vacate ho.ids_nodup hmem hx).2.move hstage rfl
  | deregister t id info result hstage =>
      have htold : Backed s.manager.pool s.records s.manager.channels fun u =>
          if id ∈ s.manager.registered then (s.stage u).notified else s.stage u :=
        h.congr fun u => by
          split_ifs
          · exact Stage.holds_notified _
          · rfl
      refine htold.move (t := t) (a := .closing id info result) ?_ rfl
      simp [hstage, Stage.notified]
  | forget id hclosed => exact h.forget hclosed
  | begin t timed stage outcome? m hstage hcheck =>
      have hchannels : m.channels = s.manager.channels :=
        congrArg View.channels (hcheck.view_eq.trans view_beginShutdown)
      rw [State.put, hchannels, hcheck.pool_eq, pool_beginShutdown]
      exact h.move hstage hcheck.holds_eq
  | wake t timed n stage outcome? m hstage hcheck =>
      have hchannels : m.channels = s.manager.channels := congrArg View.channels hcheck.view_eq
      rw [State.put, hchannels, hcheck.pool_eq]
      exact h.move hstage hcheck.holds_eq
  | write t id data =>
      have hchannels : (s.manager.write id data).2.channels = s.manager.channels :=
        congrArg Roster.channels (roster_write id data)
      rw [hchannels, pool_write]
      exact h
  | read t id limit =>
      have hchannels : (s.manager.receive id limit).2.channels = s.manager.channels :=
        congrArg Roster.channels (roster_receive id limit)
      rw [hchannels, pool_receive]
      exact h
  | setTimeouts t id read write =>
      refine (h.mapped (f := fun c => if c.id = id then { c with readTimeout := read } else c)
        (fun c => ?_) fun c => ?_).mapped
          (f := fun c => if c.id = id then { c with writeTimeout := write } else c)
          (fun c => ?_) fun c => ?_ <;> split_ifs <;> rfl
  | release f before after hrecords =>
      have hchannels : (s.manager.release f.hold).channels = s.manager.channels :=
        congrArg View.channels (view_release f.hold)
      rw [hrecords] at h
      rw [hchannels, release_pool]
      exact h.giveBack
  | world layer => exact h

end Backed

/-- After every run of threads that start, all holds are in somebody's hands. -/
theorem backed_run {layer : σ} (hrun : Run (State.start layer) es s) :
    Backed s.manager.pool s.records s.manager.channels s.stage := by
  induction hrun with
  | refl => exact Backed.start
  | tail hrun hstep ih => exact ih.step (orderly_run hrun) hstep

end UsbPipe.Threads
