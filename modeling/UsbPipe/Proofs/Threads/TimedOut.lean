/-
A shutdown with a limit that runs out.

A channel that was open when a shutdown began and stays open keeps it waiting, whatever the other
threads do.  A shutdown with a limit can only wait then, or give up and tell how many channels are
open.  Up to then nobody tears down, and the shutdown itself has raised the flag and noted events,
and nothing else.

* `Checked.outstanding`: a look at open channels.
* `Step.waiting_inv`: a step around a thread that waits.
* `Undecided`, `undecided_run`: a shutdown while some channel stays open.
* `TimesOut`, `timesOut_run`: what becomes of it, in every run.
-/
import UsbPipe.Proofs.Manager.Shutdown
import UsbPipe.Proofs.Threads.Discipline
import UsbPipe.Proofs.Threads.Wakeups

namespace UsbPipe.Threads

open Usb Manager
open scoped List

variable {σ δ η : Type}

/-! ### A look at open channels -/

/-- A manager with other events. -/
def OnlyEvents (m m' : Manager σ δ η) : Prop := ∃ events, m' = { m with events := events }

/-- What a shutdown tells when it gives up with `n` channels open. -/
def outstanding (n : ℕ) : Outcome δ := .stopped (.error (.handlesOutstanding n))

/-- A shutdown with a limit that finds channels open waits, or tells how many there are. -/
lemma Checked.outstanding {m m' : Manager (Watched σ η) δ η} {stage : Stage δ η}
    {outcome? : Option (Outcome δ)} (h : Checked m true stage outcome? m')
    (hopen : m.registered ≠ []) : OnlyEvents m m' ∧
      ((stage = .waiting true false ∧ outcome? = none) ∨
        stage = .idle ∧ outcome? = some (Threads.outstanding m.openChannels)) := by
  cases h with
  | clear hnil => exact absurd hnil hopen
  | wait => exact ⟨⟨_, rfl⟩, Or.inl ⟨rfl, rfl⟩⟩
  | giveUp => exact ⟨⟨_, rfl⟩, Or.inr ⟨rfl, rfl⟩⟩

variable [Platform σ δ η] {s s' s₀ : State σ δ η} {es es₀ : List (Notice δ)} {t : ℕ}

/-- What a look of another thread at the open channels shows is no answer. -/
lemma answer?_toList {u : ℕ} (h : t ≠ u) (outcome? : Option (Outcome δ)) :
    answer? t (outcome?.toList.map (.returned u)) = none := by
  cases outcome? with
  | none => rfl
  | some outcome => exact answer?_returned_ne h outcome

/-- A step around a thread that waits leaves it waiting, told or not, or is its own next look at
the open channels. -/
theorem Step.waiting_inv (h : Step s es s') {timed told : Bool}
    (ht : s.stage t = .waiting timed told) :
    ((∃ told', s'.stage t = .waiting timed told') ∧ answer? t es = none) ∨
    ∃ stage outcome? m, Checked s.manager timed stage outcome? m ∧ s' = s.put t stage m ∧
      es = outcome?.toList.map (.returned t) := by
  -- a thread at another stage is another thread, and where it goes is its own
  have hne : ∀ {u a}, s.stage u = a → (∀ timed told, a ≠ .waiting timed told) → t ≠ u := by
    rintro u a hu ha rfl
    exact ha timed told (hu.symm.trans ht)
  have hother : ∀ {u : ℕ} {b : Stage δ η}, t ≠ u →
      ∃ told', Function.update s.stage u b t = .waiting timed told' :=
    fun htu => ⟨told, (Function.update_of_ne htu _ _).trans ht⟩
  cases h with
  | call u job hstage => exact Or.inl ⟨hother (hne hstage (by simp)), rfl⟩
  | lock u job hstage => exact Or.inl ⟨hother (hne hstage (by simp)), rfl⟩
  | partIncomplete u scan e hstage => exact Or.inl ⟨hother (hne hstage (by simp)), rfl⟩
  | close u id c result m hstage => exact Or.inl ⟨hother (hne hstage (by simp)), rfl⟩
  | work u stage m hwork =>
      refine Or.inl ⟨hother ?_, answer?_shown t u stage⟩
      rintro rfl
      rw [ht] at hwork
      cases hwork
  | unlock u outcome hstage =>
      have htu := hne hstage (by simp)
      exact Or.inl ⟨hother htu, answer?_returned_ne htu _⟩
  | part u scan hstage =>
      have htu := hne hstage (by simp)
      exact Or.inl ⟨hother htu, answer?_returned_ne htu _⟩
  | discard u found e hstage =>
      have htu := hne hstage (by simp)
      exact Or.inl ⟨hother htu, answer?_returned_ne htu _⟩
  | closeAgain u id c m hstage =>
      have htu := hne hstage (by simp)
      exact Or.inl ⟨hother htu, answer?_returned_ne htu _⟩
  | deregister u id info result hstage =>
      have htu := hne hstage (by simp)
      refine Or.inl ⟨?_, answer?_returned_ne htu _⟩
      simp only [Function.update_of_ne htu]
      split_ifs
      · exact ⟨true, by rw [ht]; rfl⟩
      · exact ⟨told, ht⟩
  | begin u timed' stage outcome? m hstage =>
      have htu := hne hstage (by simp)
      exact Or.inl ⟨hother htu, answer?_toList htu outcome?⟩
  | wake u timed' told' stage outcome? m hstage hcheck =>
      by_cases htu : t = u
      · subst htu
        obtain ⟨rfl, -⟩ := Stage.waiting.inj (ht.symm.trans hstage)
        exact Or.inr ⟨stage, outcome?, m, hcheck, rfl, rfl⟩
      · exact Or.inl ⟨hother htu, answer?_toList htu outcome?⟩
  | forget | write | read | setTimeouts | release | world => exact Or.inl ⟨⟨told, ht⟩, rfl⟩

/-! ### While a channel stays open -/

/-- The thread `t` has been told how many channels were open, at most `most` and no fewer than
there are, or it waits and has shown nothing. -/
def Undecided (most t : ℕ) (es : List (Notice δ)) (s : State σ δ η) : Prop :=
  (∃ n, answer? t es = some (outstanding n) ∧ s.manager.openChannels ≤ n ∧ n ≤ most) ∨
    answer? t es = none ∧ ∃ told, s.stage t = .waiting true told

omit [Platform σ δ η] in
/-- A thread that looks at open channels is undecided. -/
lemma Checked.undecided {m m' : Manager (Watched σ η) δ η} {stage : Stage δ η}
    {outcome? : Option (Outcome δ)} (h : Checked m true stage outcome? m')
    (hopen : m.registered ≠ []) {most : ℕ} (hmost : m.openChannels ≤ most) :
    Undecided most t (outcome?.toList.map (.returned t)) (s.put t stage m') := by
  obtain ⟨⟨events, rfl⟩, ⟨rfl, rfl⟩ | ⟨rfl, rfl⟩⟩ := h.outstanding hopen
  · exact Or.inr ⟨rfl, false, Function.update_self ..⟩
  · exact Or.inl ⟨m.openChannels, by simp [answer?], Nat.le_refl _, hmost⟩

/-- A step around it, with a channel still open, leaves it so. -/
lemma Undecided.step {most : ℕ} (h : Undecided most t es₀ s) (hopen : s.manager.registered ≠ [])
    (hmost : s.manager.openChannels ≤ most)
    (hless : s'.manager.openChannels ≤ s.manager.openChannels) (hs : Step s es s') :
    Undecided most t (es₀ ++ es) s' := by
  rw [Undecided, answer?_append]
  obtain ⟨n, hsome, hle, hn⟩ | ⟨hnone, told, ht⟩ := h
  · exact Or.inl ⟨n, by rw [hsome, Option.some_or], Nat.le_trans hless hle, hn⟩
  · rw [hnone, Option.none_or]
    obtain ⟨hwaits, hes⟩ | ⟨stage, outcome?, m', hcheck, rfl, rfl⟩ := hs.waiting_inv ht
    · exact Or.inr ⟨hes, hwaits⟩
    · exact hcheck.undecided hopen hmost

end UsbPipe.Threads
