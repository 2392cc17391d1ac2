/-
How a run of the program leaves the native layer.

A command begins to use the native layer, or fails to, and works with it from then on.  When
it ends no channel is open, so that the shutdown behind it never waits, and destroys what was
begun.  Words that start no command never reach the native layer.

* `Call.isWork`, `View.Untorn`: what is called before a teardown.
* `working_opening`, `working_closing`: how operations call; `untorn_enumerate`,
  `working_converse`: how commands do.
* `Program.Task`, `Program.task?`: the command that words start.
* `finish_task`: the end of a command; `run_eq`: a run of the program.
* `commands_give_back`: what commands leave held, and how runs end.
-/
import UsbPipe.Program.Run
import UsbPipe.Proofs.Command.Neutral
import UsbPipe.Proofs.Session.Balance
import UsbPipe.Proofs.Threads.Calls

namespace UsbPipe

open Usb Manager

variable {σ δ η : Type}

/-! ### Before the teardown -/

/-- Whether a call neither begins nor ends the use of the native layer. -/
def Call.isWork : Call η → Bool
  | init _ | teardown => false
  | _ => true

/-- Nothing was called but beginnings that failed. -/
def Unused (cs : List (Call η)) : Prop := ∃ n, cs = List.replicate n (.init false)

/-- One beginning succeeded, and the rest since then is work. -/
def InUse (cs : List (Call η)) : Prop :=
  ∃ n work, (∀ c ∈ work, Call.isWork c = true) ∧
    cs = List.replicate n (.init false) ++ .init true :: work

/-- What was begun was ended, as the last thing, and once. -/
def TornDown (cs : List (Call η)) : Prop :=
  Unused cs ∨ ∃ used, InUse used ∧ cs = used ++ [.teardown]

namespace View

variable {v v' : View δ η}

/-- The native layer is in use. -/
structure Working (v : View δ η) : Prop where
  initialized : v.initialized = true
  inUse : InUse v.calls

/-- The native layer is in use, or was not used yet. -/
def Untorn (v : View δ η) : Prop :=
  v.Working ∨ v.initialized = false ∧ Unused v.calls

lemma Working.congr (h : v.Working) (hinit : v'.initialized = v.initialized)
    (hcalls : v'.calls = v.calls) : v'.Working :=
  ⟨hinit.trans h.initialized, hcalls ▸ h.inUse⟩

lemma Working.calling (h : v.Working) {cs : List (Call η)}
    (hcs : ∀ c ∈ cs, Call.isWork c = true) : (v.calling cs).Working := by
  obtain ⟨n, work, hwork, hcalls⟩ := h.inUse
  refine ⟨h.initialized, n, work ++ cs, fun c hc => ?_, ?_⟩
  · rcases List.mem_append.mp hc with hc | hc
    · exact hwork c hc
    · exact hcs c hc
  · rw [View.calling, hcalls, List.append_assoc, List.cons_append]

/-- One call of work. -/
lemma Working.call (h : v.Working) (c : Call η) (hc : c.isWork = true) :
    (v.calling [c]).Working :=
  h.calling fun d hd => by rwa [List.mem_singleton.mp hd]

lemma Working.untorn (h : v.Working) : v.Untorn := Or.inl h

end View

namespace Manager

variable [Platform σ δ η] {m m' : Manager (Watched σ η) δ η}

/-! ### How commands call -/

/-- Behind a granted entry the native layer is in use; a refused one leaves it as it was. -/
lemma untorn_ready (h : m.view.Untorn) :
    m.ready.2.view.Untorn ∧ (m.ready.1 = .ok () → m.ready.2.view.Working) := by
  rcases ready_cases m with ⟨-, hr⟩ | ⟨-, hinit, hr⟩ | ⟨-, hinit, hr⟩
  · rw [hr]
    exact ⟨h, fun hok => by cases hok⟩
  · rw [hr]
    have hworking : m.view.Working := by
      refine h.resolve_right fun hidle => ?_
      exact absurd (hidle.1.symm.trans hinit) Bool.false_ne_true
    exact ⟨h, fun _ => hworking⟩
  · obtain ⟨n, hcalls⟩ : Unused m.view.calls := by
      rcases h with h | h
      · exact absurd (hinit.symm.trans h.initialized) Bool.false_ne_true
      · exact h.2
    rcases hr with ⟨e, m₁, hr, hview⟩ | ⟨m₁, hr, hview⟩
    · rw [hr]
      refine ⟨Or.inr ⟨?_, n + 1, ?_⟩, fun hok => by cases hok⟩
      · exact (congrArg View.initialized hview).trans hinit
      · rw [hview, View.calling, hcalls]
        exact List.replicate_succ'.symm
    · rw [hr]
      have hworking : m₁.view.Working := by
        rw [hview]
        exact ⟨rfl, n, [], by simp, by rw [View.calling, hcalls]⟩
      exact ⟨hworking.untorn, fun _ => hworking⟩

/-- An entry leaves the native layer in use. -/
lemma working_ready (h : m.view.Working) : m.ready.2.view.Working := by
  rcases ready_cases m with ⟨-, hr⟩ | ⟨-, -, hr⟩ | ⟨-, hinit, -⟩
  · rw [hr]
    exact h
  · rw [hr]
    exact h
  · exact absurd (hinit.symm.trans h.initialized) Bool.false_ne_true

/-- With the native layer in use, all that an open calls for is work. -/
lemma working_opening :
    Frame.Opening fun m : Manager (Watched σ η) δ η => m.view.Working where
  log _ _ _ h := h
  release m x h := by
    rw [view_release]
    exact h
  ready _ h := working_ready h
  walk m filter h := by
    rw [view_walk]
    exact h.call .listing rfl
  autoDetach _ handle h := h.call (.autoDetach handle) rfl
  detach _ handle interface h := h.call (.detach handle interface) rfl
  claim _ handle interface h := h.call (.claim handle interface) rfl
  yield _ handle interface h := h.call (.release handle interface) rfl
  closeHandle _ handle h := h.call (.closeHandle handle) rfl
  openDevice m device h :=
    h.call (.openDevice (m.native (Platform.openDevice device)).1.toOption) rfl

/-- So is what closes call for. -/
lemma working_closing :
    Frame.Closing fun m : Manager (Watched σ η) δ η => m.view.Working where
  toYielding := working_opening.toYielding
  empty _ _ h := h.congr rfl rfl
  deregister _ _ h := h.congr rfl rfl
  forget _ _ h := h.congr rfl rfl

/-- An enumeration that succeeds leaves the native layer in use. -/
lemma untorn_enumerate (h : m.view.Untorn) (filter : Filter) :
    (m.enumerate filter).2.view.Untorn ∧
      ∀ found, (m.enumerate filter).1 = .ok found → (m.enumerate filter).2.view.Working := by
  obtain ⟨huntorn, hworking⟩ := untorn_ready h
  rw [enumerate, scan]
  rcases hr : m.ready with ⟨e | ⟨⟩, m₁⟩ <;> rw [hr] at huntorn hworking
  · exact ⟨huntorn, fun found hok => by cases hok⟩
  · have hwalk := working_opening.complete (working_opening.walk m₁ filter (hworking rfl))
    exact ⟨hwalk.untorn, fun _ _ => hwalk⟩

/-- Payload out, reply in and the close are work. -/
lemma working_converse (h : m.view.Working) (c : Opened) (r : Request) (out : Sink) :
    (m.converse c r out).manager.view.Working := by
  have hframe : Frame fun m : Manager (Watched σ η) δ η => m.view.Working :=
    working_opening.toFrame
  refine hframe.converse (hframe.write h (fun handle _ _ _ => ?_) c.id)
    (fun _ _ h₁ => hframe.receive h₁ (fun handle _ _ _ => ?_) c.id)
    (fun _ h₁ => working_closing.close h₁ c.id) out
  · exact h.call (.transfer handle .output) rfl
  · exact h₁.call (.transfer handle .input) rfl

lemma untorn_listInterfaces (h : m.view.Untorn) (filter : Filter) (json : Bool) (out : Sink) :
    (m.listInterfaces filter json out).manager.view.Untorn :=
  Frame.Releasing.listInterfaces (P := fun m : Manager (Watched σ η) δ η => m.view.Untorn)
    ⟨⟨fun _ _ _ h => h⟩, fun m x h => by rw [view_release]; exact h⟩
    (untorn_enumerate h filter).1 json out

/-- An exchange ends before any teardown, wherever it ends. -/
lemma untorn_exchange (h : m.view.Untorn) (r : Request) (out : Sink) :
    (m.exchange r out).manager.view.Untorn := by
  obtain ⟨henum, hworking⟩ := untorn_enumerate h r.filter
  rw [exchange, exchangeWith]
  rcases he : m.enumerate r.filter with ⟨_ | found, m₁⟩ <;> rw [he] at henum hworking
  · exact henum
  · simp only
    cases found.find? r.wants with
    | none =>
        simp only [view_discard]
        exact henum
    | some target =>
        have hopen : (m₁.openWith id target.info).2.view.Working :=
          working_opening.openWith (fun _ h => h) (fun _ _ h => h.congr rfl rfl)
            (hworking found rfl) target.info
        simp only
        rcases ho : m₁.openWith id target.info with ⟨_ | c, m₂⟩ <;> rw [ho] at hopen
        · simp only [view_discard]
          exact hopen.untorn
        · have hkept : (m₂.discard found).view.Working := by
            rw [view_discard]
            exact hopen
          have hset : (((m₂.discard found).setReadTimeout c.id r.readTimeout).setWriteTimeout c.id
              r.writeTimeout).view.Working := hkept.congr rfl rfl
          exact (working_closing.dropChannel (working_converse hset c r out) c.id).untorn

/-- A shutdown that does not have to wait ends what was begun. -/
lemma tornDown_shutdown (h : m.view.Untorn) (hnone : m.registered = []) :
    ∃ m', m.shutdown? = some m' ∧ TornDown m'.platform.calls := by
  refine ⟨_, by rw [shutdown?, hnone]; rfl, ?_⟩
  have hbegun : m.beginShutdown.view.initialized = m.view.initialized ∧
      m.beginShutdown.view.calls = m.view.calls := by
    rw [view_beginShutdown]
    exact ⟨rfl, rfl⟩
  have htorn : m.beginShutdown.teardown.platform.calls =
      m.beginShutdown.teardown.view.calls := rfl
  rw [htorn, view_teardown]
  rcases h with h | ⟨hinit, hunused⟩
  · have hup : m.beginShutdown.initialized = true := hbegun.1.trans h.initialized
    rw [if_pos hup]
    refine Or.inr ⟨m.view.calls, h.inUse, ?_⟩
    exact congrArg (· ++ [Call.teardown]) hbegun.2
  · have hdown : ¬ m.beginShutdown.initialized = true := by
      have heq : m.beginShutdown.initialized = false := hbegun.1.trans hinit
      simp [heq]
    rw [if_neg hdown, hbegun.2]
    exact Or.inl hunused

end Manager

/-! ### Runs -/

namespace Program

/-- A command with all that it is asked for. -/
inductive Task where
  | list (filter : Filter) (json : Bool)
  | exchange (request : Request)

/-- What running a task gives. -/
def Task.run [Platform σ δ η] (task : Task) (m : Manager σ δ η) (out : Sink) : Ran σ δ η Unit :=
  match task with
  | list filter json =>
    let ran := m.listInterfaces filter json out
    ⟨ran.result.map fun _ => (), ran.out, ran.manager⟩
  | exchange request =>
    let ran := m.exchange request out
    ⟨ran.result.map fun _ => (), ran.out, ran.manager⟩

/-- The task that words start; there is none if they are rejected, or ask for something else. -/
def task? (s : Surroundings) (words : List String) : Option Task :=
  match Arguments.parse words with
  | .error _ => none
  | .ok a =>
    if a.saveConfig then none
    else
      match prepare s a with
      | .error _ | .ok (_, none) => none
      | .ok (_, some (.list ids json, configured)) => some (.list (ids.orElse configured) json)
      | .ok (c, some (.exchange ids port interface payload readLength?, configured)) =>
        match Hex.parseBytes payload with
        | .error _ => none
        | .ok bytes =>
          some (.exchange (requestFor s c configured ids port interface bytes readLength?))

/-- Whether a run comes to its end: it is neither broken off nor stopped by the system. -/
def completes (o : Outcome) : Bool := o.code? ≠ some 101 ∧ o.code? ≠ none

variable [Platform σ δ η]

/-- The end of a command does not depend on what the command gives. -/
lemma finish_map {α : Type} (s : Surroundings) (ran : Ran σ δ η α) :
    finish s (⟨ran.result.map fun _ => (), ran.out, ran.manager⟩ : Ran σ δ η Unit) =
      finish s ran := by
  rcases ran with ⟨_ | a, out, m⟩ <;> rfl

/-- Words that start no task leave the manager alone; others run their task and finish. -/
lemma run_eq (s : Surroundings) (m : Manager σ δ η) (words : List String) :
    match task? s words with
    | none => ∃ e, run s m words = some e ∧ e.manager = m
    | some task => run s m words = finish s (task.run m {}) := by
  rw [task?, run]
  cases Arguments.parse words with
  | error n => exact ⟨_, rfl, rfl⟩
  | ok a =>
      simp only [runArguments]
      split_ifs
      · refine ⟨_, rfl, ?_⟩
        rw [saveDefault]
        rcases s.trySave {} s.defaultPath with ⟨_ | ⟨⟩, s'⟩ <;> rfl
      · rcases prepare s a with _ | ⟨c, _ | ⟨_ | _, configured⟩⟩
        · exact ⟨_, rfl, rfl⟩
        · exact ⟨_, rfl, rfl⟩
        · exact (finish_map s _).symm
        · rename_i ids port interface payload readLength?
          simp only [runCommand]
          cases Hex.parseBytes payload with
          | error e => exact ⟨_, rfl, rfl⟩
          | ok bytes => exact (finish_map s _).symm

/-- A task on a fresh manager leaves no channel open and nothing torn down. -/
lemma untorn_task (task : Task) (layer : σ) (out : Sink) :
    let ran := task.run (.ofPlatform ⟨layer, []⟩ : Manager (Watched σ η) δ η) out
    ran.manager.registered = [] ∧ ran.manager.view.Untorn := by
  have hfresh : (.ofPlatform ⟨layer, []⟩ : Manager (Watched σ η) δ η).view.Untorn :=
    Or.inr ⟨rfl, 0, rfl⟩
  have hdated : (.ofPlatform ⟨layer, []⟩ : Manager (Watched σ η) δ η).roster.Dated :=
    ⟨by simp [roster, ofPlatform], by simp [roster, ofPlatform]⟩
  cases task with
  | list filter json =>
      exact ⟨congrArg Roster.registered (roster_listInterfaces filter json out),
        untorn_listInterfaces hfresh filter json out⟩
  | exchange request =>
      exact ⟨(roster_exchangeWith (fun _ => rfl) hdated request out).2,
        untorn_exchange hfresh request out⟩

/-- The shutdown behind a task never waits; unless the task broke the run off, it ends the use
of the native layer. -/
lemma finish_task (s : Surroundings) (task : Task) (layer : σ) (out : Sink) :
    let ran := task.run (.ofPlatform ⟨layer, []⟩ : Manager (Watched σ η) δ η) out
    ran.manager.openChannels = 0 ∧ ∃ e, finish s ran = some e ∧
      (completes e.outcome = true → TornDown e.manager.platform.calls) := by
  intro ran
  obtain ⟨hnone, huntorn⟩ := untorn_task task layer out
  refine ⟨congrArg List.length hnone, ?_⟩
  rw [finish]
  obtain ⟨m', hdown, htorn⟩ := tornDown_shutdown huntorn hnone
  by_cases hfatal : isFatal ran.result = true
  · refine ⟨_, by rw [if_pos hfatal], fun hdone => ?_⟩
    cases hres : ran.result with
    | ok a => rw [hres] at hfatal; cases hfatal
    | error e =>
        rw [hres] at hfatal hdone
        simp only [isFatal, CommandError.isFatal, Bool.decide_or, Bool.or_eq_true,
          decide_eq_true_eq] at hfatal
        rcases hfatal with rfl | rfl <;> cases hdone
  · have hsome : ran.manager.shutdown? = some m' := hdown
    exact ⟨_, by rw [if_neg hfatal, hsome]; rfl, fun _ => htorn⟩

/-- What is prepared is the configuration and the command that were asked for. -/
lemma prepare_eq_ok {s : Surroundings} {a : Arguments} {c : Config}
    {started : Option (Command × Filter)} (h : prepare s a = .ok (c, started)) :
    configFor s a.config? = .ok c ∧ started.map Prod.fst = a.command? := by
  simp only [prepare, bind, Except.bind, pure, Except.pure] at h
  cases hconfig : configFor s a.config? with
  | error e => simp [hconfig] at h
  | ok c' =>
      cases hlog : checkLog s a c' with
      | error e => simp [hconfig, hlog] at h
      | ok _ =>
          cases hcommand : a.command? with
          | none =>
              simp only [hconfig, hlog, hcommand, Except.ok.injEq, Prod.mk.injEq] at h
              obtain ⟨rfl, rfl⟩ := h
              exact ⟨rfl, rfl⟩
          | some command =>
              cases hfilter : c'.filter.mapError ProgramError.filter with
              | error e => simp [hconfig, hlog, hcommand, hfilter] at h
              | ok f =>
                  simp only [hconfig, hlog, hcommand, hfilter, Except.ok.injEq,
                    Prod.mk.injEq] at h
                  obtain ⟨rfl, rfl⟩ := h
                  exact ⟨rfl, rfl⟩

/-- A payload that is no hexadecimal text starts no task. -/
lemma task?_of_payload {s : Surroundings} {words : List String} {a : Arguments} {ids : Filter}
    {port interface : UInt8} {payload : String} {readLength? : Option ℕ} {e : Hex.Error}
    (hparse : Arguments.parse words = .ok a)
    (hcommand : a.command? = some (.exchange ids port interface payload readLength?))
    (hpayload : Hex.parseBytes payload = .error e) : task? s words = none := by
  rw [task?, hparse]
  simp only
  split_ifs
  · rfl
  · rcases hp : prepare s a with _ | ⟨c, _ | ⟨command, configured⟩⟩
    · rfl
    · rfl
    · have hsame : command = .exchange ids port interface payload readLength? :=
        Option.some.inj ((prepare_eq_ok hp).2.trans hcommand)
      rw [hsame]
      simp only [hpayload]

/-- On the manager of any reachable session, a listing and an exchange give back all that they
take: whatever fails, however little output is accepted, and also if a shutdown begins during
the claim, channels, native handles, holds and native references are as before.  So behind a
task of the program, on any native layer, no channel is open and the shutdown does not wait;
and a run that comes to its end has ended its use of the native layer, once, as the last thing.
Words that start no task, such as those with a wrong payload, do not reach the native layer. -/
theorem commands_give_back (steps : List Step) (layer : σ) (s : Surroundings) :
    let m := (BenchSession.fresh.run steps).manager
    let start : Manager (Watched σ η) δ η := .ofPlatform ⟨layer, []⟩
    ((∀ filter json out, SameResources m (m.listInterfaces filter json out).manager) ∧
      ∀ meanwhile r out, OnlyShutdown meanwhile →
        SameResources m (m.exchangeWith meanwhile r out).manager) ∧
    (∀ (task : Task) out, (task.run start out).manager.openChannels = 0 ∧
      ∃ e, finish s (task.run start out) = some e ∧
        (completes e.outcome = true → TornDown e.manager.platform.calls)) ∧
    ∀ words, ∃ e, run s start words = some e ∧
      (completes e.outcome = true → TornDown e.manager.platform.calls) ∧
      (task? s words = none → e.manager.platform.calls = []) ∧
      ∀ a ids port interface payload readLength? error, Arguments.parse words = .ok a →
        a.command? = some (.exchange ids port interface payload readLength?) →
        Hex.parseBytes payload = .error error → e.manager.platform.calls = [] := by
  intro m start
  have hbooks : m.Balanced ((BenchSession.fresh.run steps).records.map Found.hold) 0 :=
    (BenchSession.sound_run steps).balanced
  refine ⟨⟨hbooks.listInterfaces_same, fun meanwhile r out hm => hbooks.exchangeWith_same hm r out⟩,
    fun task out => finish_task s task layer out, fun words => ?_⟩
  have hrun := run_eq s start words
  cases htask : task? s words with
  | none =>
      rw [htask] at hrun
      obtain ⟨e, he, hmanager⟩ := hrun
      have hcalls : e.manager.platform.calls = [] := by rw [hmanager]; rfl
      exact ⟨e, he, fun _ => Or.inl ⟨0, hcalls⟩, fun _ => hcalls, fun _ _ _ _ _ _ _ _ _ _ => hcalls⟩
  | some task =>
      rw [htask] at hrun
      obtain ⟨-, e, he, htorn⟩ := finish_task s task layer {}
      refine ⟨e, hrun.trans he, htorn, fun hnone => absurd hnone (Option.some_ne_none task), ?_⟩
      intro a ids port interface payload readLength? error hparse hcommand hpayload
      cases htask.symm.trans (task?_of_payload hparse hcommand hpayload)

/-- A bench with one device. -/
def lone : Manager Bench Instance DeviceKey :=
  (BenchSession.fresh.run [.attach (.raw ⟨1, 4⟩ 2 0x1209 0x0001)]).manager

/-- An exchange with that device, with room for five characters of output. -/
def cramped : Ran Bench Instance DeviceKey Bytes :=
  lone.exchangeWith id { port := 2, interface := 0, payload := [1] } { room? := some 5 }

/-- A listing of that bench, under watch. -/
def listed : Ran (Watched Bench DeviceKey) Instance DeviceKey Unit :=
  (Task.list {} false).run (.ofPlatform ⟨lone.platform, []⟩) {}

/-- The exchange opens the device, fails at the output and gives everything back; the listing
begins, lists and ends; and words with a payload that is no text of bytes never get there. -/
theorem commands_give_back_cramped :
    (cramped.result = .error .output ∧ cramped.manager.platform.calls.opens = 1 ∧
      SameResources lone cramped.manager) ∧
    (∃ e, finish {} listed = some e ∧
      e.manager.platform.calls = [.init true, .listing, .teardown] ∧
      TornDown e.manager.platform.calls) ∧
    ∃ e, run {} (.ofPlatform ⟨lone.platform, []⟩ : Manager (Watched Bench DeviceKey) Instance
        DeviceKey) ["transfer", "--port", "2", "--write", "zz"] = some e ∧
      e.manager.platform.calls = [] := by
  obtain ⟨⟨-, hexchange⟩, hfinish, hwords⟩ := commands_give_back
    [.attach (.raw ⟨1, 4⟩ 2 0x1209 0x0001)] lone.platform {}
  obtain ⟨-, e, he, htorn⟩ := hfinish (.list {} false) {}
  obtain ⟨e', hrun, -, -, hpayload⟩ := hwords ["transfer", "--port", "2", "--write", "zz"]
  have hsame : SameResources lone cramped.manager := hexchange id _ _ fun _ => Or.inl rfl
  have hend : finish {} listed = some e := he
  refine ⟨⟨rfl, rfl, hsame⟩, ⟨e, hend, ?_, htorn ?_⟩, e', hrun, ?_⟩
  · cases hend
    rfl
  · cases hend
    rfl
  · exact hpayload _ _ _ _ _ _ _ rfl rfl rfl

end Program

end UsbPipe
