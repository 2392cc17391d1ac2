/-
The holds of a manager, on any native layer.

Whatever native layer a manager is built on, its pool backs the holds that are in somebody's
hands: scans and rescans add those of the records that they find, and what is given up or given
back goes.  Everything else leaves the pool alone.

* `pool_frame`: events and native calls leave the pool alone; `pool_ready`, `pool_write`,
  `pool_prepare` and the like.
* `backs_walk`, `backs_resolve`, `backs_claimFound`, `backs_abandon`: the steps of an open.
* `backs_discard`, `closeNative_eq`, `pool_closeNative`: what gives holds back.
-/
import UsbPipe.Proofs.Manager.Frame
import UsbPipe.Proofs.Pool.Backing

namespace UsbPipe

open Usb

namespace Manager

variable {σ δ η : Type} {m : Manager σ δ η} {H : List (Hold δ)}

/-! ### What leaves the pool alone -/

/-- Events and native calls are nothing to the pool. -/
lemma pool_frame (p : Pool δ) : Frame fun m : Manager σ δ η => m.pool = p :=
  ⟨fun _ _ _ h => h⟩

@[simp] lemma pool_beginShutdown : m.beginShutdown.pool = m.pool :=
  (pool_frame m.pool).beginShutdown rfl rfl

variable [Platform σ δ η]

@[simp] lemma pool_teardown : m.teardown.pool = m.pool := (pool_frame m.pool).teardown rfl rfl

@[simp] lemma pool_ready : m.ready.2.pool = m.pool := (pool_frame m.pool).ready rfl rfl rfl

@[simp] lemma pool_write (id : ℕ) (data : Bytes) : (m.write id data).2.pool = m.pool :=
  (pool_frame m.pool).write rfl (fun _ _ _ _ => rfl) id

@[simp] lemma pool_receive (id limit : ℕ) : (m.receive id limit).2.pool = m.pool :=
  (pool_frame m.pool).receive rfl (fun _ _ _ _ => rfl) id

lemma pool_prepare (handle : η) (interface : UInt8) :
    (m.prepare id handle interface).2.pool = m.pool :=
  Frame.Preparing.prepare
    { pool_frame m.pool with
      autoDetach := fun _ _ h => h
      detach := fun _ _ _ h => h
      claim := fun _ _ _ h => h } rfl (fun _ h => h) handle interface

/-! ### Holds taken and given back -/

lemma backs_release {x : Hold δ} (h : m.pool.Backs (x :: H)) : (m.release x).pool.Backs H := by
  rw [release_pool]
  exact h.release

lemma backs_releaseAll {hs : List (Hold δ)} (h : m.pool.Backs (hs ++ H)) :
    (m.releaseAll hs).pool.Backs H := by
  induction hs generalizing m with
  | nil => exact h
  | cons x hs ih => exact ih (m := m.release x) (backs_release h)

lemma backs_discard {fs : List (Found δ)} (h : m.pool.Backs (fs.map Found.hold ++ H)) :
    (m.discard fs).pool.Backs H := backs_releaseAll h

/-- While a scan runs, the holds of the records found so far come on top of all others. -/
lemma backs_invariant (H : List (Hold δ)) :
    ScanInvariant (σ := σ) (fun _ => True) fun fs m => m.pool.Backs (fs.map Found.hold ++ H) where
  log := fun _ _ _ _ h => h
  record := by
    intro fs m c alt info _ _ _ h
    rw [List.map_append, List.append_assoc]
    simp only [recordMatch, retain_fst, retain_pool]
    exact (h.retain _ _ _).perm List.perm_middle.symm

/-- A walk leaves one hold more for each record it found. -/
lemma backs_walk (h : m.pool.Backs H) (filter : Filter) :
    (m.walk filter).2.pool.Backs ((m.walk filter).1.found.map Found.hold ++ H) := by
  have hlist : (m.native Platform.devices).2.pool = m.pool := rfl
  rw [walk]
  rcases hd : m.native Platform.devices with ⟨_ | devices, m₁⟩ <;> rw [hd] at hlist
  · rw [← hlist] at h
    exact h
  · rw [← hlist] at h
    exact (backs_invariant H).devices filter devices (m := m₁) (fun _ _ _ _ _ => trivial) 0
      (F := []) h

lemma backs_select {fs : List (Found δ)} (h : m.pool.Backs (fs.map Found.hold ++ H))
    (info : RawInterface) :
    (select info fs m).2.pool.Backs ((select info fs m).1.toList.map Found.hold ++ H) := by
  induction fs generalizing m with
  | nil => exact h
  | cons f fs ih =>
      rw [select]
      split_ifs
      · exact backs_discard (h.perm List.perm_middle.symm)
      · exact ih (m := m.release f.hold) (backs_release h)

/-- A rescan leaves the hold of the record that it resolves to. -/
lemma backs_resolve (h : m.pool.Backs H) (info : RawInterface) :
    (m.resolve info).2.pool.Backs ((m.resolve info).1.toOption.toList.map Found.hold ++ H) := by
  have hwalk := backs_walk h (idsOf info)
  rw [resolve]
  rcases hw : m.walk (idsOf info) with ⟨⟨found, _ | e⟩, m₁⟩ <;> rw [hw] at hwalk
  · have hsel := backs_select hwalk info
    simp only [complete]
    rcases hs : select info found m₁ with ⟨_ | f, m₂⟩ <;> rw [hs] at hsel <;> exact hsel
  · exact backs_discard hwalk

/-- The hold of a record that is claimed goes into the claim; after a failure it is given
back. -/
lemma backs_claimFound {f : Found δ} (h : m.pool.Backs (f.hold :: H)) :
    match m.claimFound id f with
    | (.error _, m') => m'.pool.Backs H
    | (.ok c, m') => m'.pool.Backs (c.hold :: H) := by
  have hopen : (m.native (Platform.openDevice f.hold.device)).2.pool = m.pool := rfl
  rw [claimFound]
  rcases ho : m.native (Platform.openDevice f.hold.device) with ⟨_ | handle, m₁⟩ <;>
    rw [ho] at hopen <;> rw [← hopen] at h
  · exact backs_release h
  · have hprep := pool_prepare
      (m := m₁.log .debug ("Opened native handle for " ++ f.info.path)) handle f.info.interface
    simp only at h ⊢
    rcases hp : (m₁.log .debug ("Opened native handle for " ++ f.info.path)).prepare id handle
      f.info.interface with ⟨_ | ⟨⟩, m₂⟩ <;> rw [hp] at hprep <;>
      have hsame : m₂.pool = m₁.pool := hprep <;> rw [← hsame] at h
    · exact backs_release (m := m₂.closeHandle handle) h
    · exact h

lemma backs_abandon {c : Claimed δ η} (h : m.pool.Backs (c.hold :: H)) :
    (m.abandon c).pool.Backs H := by
  have hrel : (m.native (Platform.release c.native c.info.interface)).2.pool = m.pool := rfl
  rw [abandon]
  rcases hn : m.native (Platform.release c.native c.info.interface) with ⟨_ | ⟨⟩, m₁⟩ <;>
    rw [hn] at hrel <;> rw [← hrel] at h
  · exact backs_release (m := (Manager.log m₁ _ _).closeHandle c.native) h
  · exact backs_release (m := m₁.closeHandle c.native) h

/-- The native part of a close of an open channel. -/
lemma closeNative_eq {c : Channel δ η} {handle : η} {x : Hold δ} (hnative : c.native? = some handle)
    (hhold : c.hold? = some x) :
    m.closeNative c = (some (Platform.release handle c.info.interface m.platform).1,
      Manager.release { m.updateChannel c.id emptied with
        platform := Platform.closeHandle handle
          (Platform.release handle c.info.interface m.platform).2 } x) := by
  rw [closeNative, hnative, hhold]
  rfl

/-- The hold of a channel that is closed is given back. -/
lemma pool_closeNative {c : Channel δ η} {result : Except NativeError Unit} {m' : Manager σ δ η}
    {handle : η} {x : Hold δ} (hnative : c.native? = some handle) (hhold : c.hold? = some x)
    (h : m.closeNative c = (some result, m')) : m'.pool = (m.pool.release x).pool := by
  rw [closeNative_eq hnative hhold] at h
  rw [← (Prod.mk.inj h).2]
  exact release_pool ..

end Manager

end UsbPipe
