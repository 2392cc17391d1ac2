/-
What the operations of a manager keep.

An operation is put together from small changes: an event is noted, a native call made, a hold
taken or given back, a channel emptied.  A property of managers that the small changes of an
operation keep is kept by the operation, whatever property it is.  So each operation is gone
through here once, and what it leaves alone is read off its small changes.

* `Frame`: a property that events have no part in; `Frame.transfer`, `Frame.ready`,
  `Frame.teardown`, `Frame.walk` and the like.
* `Frame.Preparing`: one that the steps before a claim keep; `Preparing.prepare`.
* `Frame.Releasing`: one that holds given back keep; `Releasing.select`, `Releasing.resolve`.
* `Frame.Scanning`: one that scans keep; `Scanning.enumerate`.
* `Frame.Yielding`: one that interfaces and handles given back keep; `Yielding.abandon`.
* `Frame.Opening`, `Frame.Closing`: ones that opens up to their claim keep, and closes;
  `Opening.acquire`, `Closing.dropChannel`.
* `Frame.converse`, `Releasing.listInterfaces`: the commands.
-/
import UsbPipe.Command.Basic
import UsbPipe.Proofs.Manager.Table
import UsbPipe.Proofs.Scan.Invariant

namespace UsbPipe

open Usb

namespace Manager

variable {σ δ η : Type} {P : Manager σ δ η → Prop} {m : Manager σ δ η}

/-! ### Events, entries and ends -/

/-- A property of managers that events have no part in. -/
structure Frame (P : Manager σ δ η → Prop) : Prop where
  log : ∀ m level text, P m → P (m.log level text)

namespace Frame

lemma beginShutdown (h : Frame P) (hm : P m) (hflag : P { m with shuttingDown := true }) :
    P m.beginShutdown := by
  rw [Manager.beginShutdown]
  split_ifs
  · exact hm
  · exact h.log _ _ _ hflag

variable [Platform σ δ η]

lemma teardown (h : Frame P) (hm : P m)
    (hend : P { m with platform := Platform.teardown m.platform, initialized := false }) :
    P m.teardown := by
  rw [Manager.teardown]
  split_ifs
  · exact h.log _ _ _ hend
  · exact hm

lemma shutdownNow (h : Frame P) (hbegin : P m.beginShutdown)
    (hend : P m.beginShutdown.teardown) : P m.shutdownNow.2 := by
  rw [Manager.shutdownNow]
  split_ifs
  · exact hend
  · exact h.log _ _ _ hbegin

lemma ready (h : Frame P) (hm : P m) (hinit : P (m.native Platform.init).2)
    (hset : P { (m.native Platform.init).2 with initialized := true }) : P m.ready.2 := by
  rw [Manager.ready]
  split_ifs
  · exact hm
  · exact hm
  · rcases hi : m.native Platform.init with ⟨_ | ⟨⟩, m₁⟩ <;> rw [hi] at hinit hset
    · exact hinit
    · exact h.log _ _ _ hset

/-! ### Transfers -/

omit [Platform σ δ η] in
lemma finish {α : Type} (h : Frame P) (hm : P m) (endpoint : EndpointInfo)
    (timeout : Option Duration) (count : α → ℕ) (result : Except NativeError α) :
    P (m.finish endpoint timeout count result).2 := by
  cases result with
  | ok a => exact h.log _ _ _ hm
  | error e =>
      cases e with
      | timeout => exact hm
      | _ => exact h.log _ _ _ hm

omit [Platform σ δ η] in
/-- A transfer is its native call, or none. -/
lemma transfer {α : Type} (h : Frame P) (hm : P m) (c : Channel δ η) (direction : Direction)
    (endpoint : EndpointInfo) (timeout : Option Duration) (count : α → ℕ)
    {call : η → RawKind → Duration → σ → Except NativeError α × σ}
    (hcall : ∀ handle kind t, P (m.native (call handle kind t)).2) :
    P (m.transfer c direction endpoint timeout count call).2 := by
  rw [Manager.transfer]
  cases c.native? with
  | none => exact hm
  | some handle =>
      cases endpoint.transferType.raw? with
      | none => exact hm
      | some kind => exact h.finish (hcall handle kind _) endpoint timeout count _

lemma write (h : Frame P) (hm : P m) {data : Bytes}
    (hcall : ∀ handle kind endpoint t,
      P (m.native (Platform.write handle kind endpoint data t)).2) (id : ℕ) :
    P (m.write id data).2 := by
  rw [Manager.write]
  cases m.channel? id with
  | none => exact hm
  | some c => exact h.transfer hm c _ _ _ _ fun handle kind t => hcall handle kind _ t

lemma receive (h : Frame P) (hm : P m) {limit : ℕ}
    (hcall : ∀ handle kind endpoint t,
      P (m.native (Platform.read handle kind endpoint limit t)).2) (id : ℕ) :
    P (m.receive id limit).2 := by
  rw [Manager.receive]
  cases m.channel? id with
  | none => exact hm
  | some c => exact h.transfer hm c _ _ _ _ fun handle kind t => hcall handle kind _ t

/-! ### Conversations -/

/-- A reply is a read, or none. -/
lemma takeReply (hm : P m) {o : Opened} (hreceive : ∀ limit, P (m.receive o.id limit).2)
    (r : Request) (out : Sink) : P (m.takeReply o r out).manager := by
  rw [Manager.takeReply]
  cases r.readLength with
  | none => exact hm
  | some limit =>
      simp only
      cases replyRefusal? r.room limit with
      | some e => exact hm
      | none =>
          have hread := hreceive limit
          simp only
          rcases hr : m.receive o.id limit with ⟨_ | reply, m₁⟩ <;> rw [hr] at hread <;>
            exact hread

/-- A conversation is a write, a reply and a close, or as many of them as go well. -/
lemma converse (h : Frame P) {o : Opened} {r : Request} (hwrite : P (m.write o.id r.payload).2)
    (hreceive : ∀ m limit, P m → P (m.receive o.id limit).2)
    (hclose : ∀ m, P m → P (m.close o.id).2) (out : Sink) :
    P (m.converse o r out).manager := by
  rw [Manager.converse]
  rcases hw : m.write o.id r.payload with ⟨_ | written, m₁⟩ <;> rw [hw] at hwrite
  · exact hwrite
  · simp only
    rcases out.write _ with ⟨_ | _, out₁⟩
    · exact hwrite
    · have hreply := takeReply hwrite (fun limit => hreceive m₁ limit hwrite) r out₁
      simp only
      rcases hr : m₁.takeReply o r out₁ with ⟨_ | reply, out₂, m₂⟩ <;> rw [hr] at hreply
      · exact hreply
      · have hdone := hclose m₂ hreply
        simp only
        rcases hc : m₂.close o.id with ⟨_ | ⟨⟩, m₃⟩ <;> rw [hc] at hdone
        · exact hdone
        · exact h.log _ _ _ hdone

/-! ### Walks -/

lemma dropDevices
    (hdrop : ∀ m device, P m → P { m with platform := Platform.drop device m.platform })
    (hm : P m) (devices : List δ) : P (dropDevices devices m) := by
  induction devices generalizing m with
  | nil => exact hm
  | cons d devices ih => exact ih (hdrop m d hm)

/-- A walk lists the devices, takes a hold for each record, and gives the list back. -/
lemma walk (h : Frame P) (hlist : P (m.native Platform.devices).2)
    (hretain : ∀ m key device, P m → P (m.retain key device).2)
    (hdrop : ∀ m device, P m → P { m with platform := Platform.drop device m.platform })
    (filter : Filter) : P (m.walk filter).2 := by
  have hscan : ScanInvariant (fun _ => True) fun (_ : List (Found δ)) m => P m :=
    ⟨fun _ m level text => h.log m level text,
      fun _ m c _ info _ _ _ hm => hretain _ c.key c.device (h.log m _ _ hm)⟩
  rw [Manager.walk]
  rcases hd : m.native Platform.devices with ⟨_ | devices, m₁⟩ <;> rw [hd] at hlist
  · exact h.log _ _ _ hlist
  · exact h.log _ _ _ (dropDevices hdrop
      (hscan.devices filter devices (fun _ _ _ _ _ => trivial) 0 (F := []) hlist) devices)

/-! ### The steps before a claim -/

lemma enableAutoDetach (h : Frame P) {handle : η}
    (hcall : P (m.native (Platform.autoDetach handle)).2) :
    P (m.enableAutoDetach handle).2 := by
  rw [Manager.enableAutoDetach]
  rcases hc : m.native (Platform.autoDetach handle) with ⟨e | ⟨⟩, m₁⟩ <;> rw [hc] at hcall
  · cases e with
    | notSupported => exact h.log _ _ _ hcall
    | _ => exact hcall
  · exact hcall

lemma detachDriver (h : Frame P) {handle : η} {interface : UInt8}
    (hcall : P (m.native (Platform.detach handle interface)).2) :
    P (m.detachDriver handle interface).2 := by
  rw [Manager.detachDriver]
  rcases hc : m.native (Platform.detach handle interface) with ⟨e | ⟨⟩, m₁⟩ <;> rw [hc] at hcall
  · cases e <;> exact hcall
  · exact h.log _ _ _ hcall

/-- A property that the native calls between an open device and its claimed interface keep. -/
structure Preparing (P : Manager σ δ η → Prop) : Prop extends Frame P where
  autoDetach : ∀ m handle, P m → P (m.native (Platform.autoDetach handle)).2
  detach : ∀ m handle interface, P m → P (m.native (Platform.detach handle interface)).2
  claim : ∀ m handle interface, P m → P (m.native (Platform.claim handle interface)).2

lemma Preparing.prepare (h : Preparing P) (hm : P m) {meanwhile : Manager σ δ η → Manager σ δ η}
    (hmean : ∀ m, P m → P (meanwhile m)) (handle : η) (interface : UInt8) :
    P (m.prepare meanwhile handle interface).2 := by
  have hauto := h.enableAutoDetach (h.autoDetach m handle hm)
  rw [Manager.prepare]
  rcases h₁ : m.enableAutoDetach handle with ⟨_ | ⟨⟩, m₁⟩ <;> rw [h₁] at hauto
  · exact hauto
  · have hdetach := h.detachDriver (h.detach m₁ handle interface hauto)
    simp only
    rcases h₂ : m₁.detachDriver handle interface with ⟨_ | ⟨⟩, m₂⟩ <;> rw [h₂] at hdetach
    · exact hdetach
    · exact hmean _ (h.claim m₂ handle interface hdetach)

/-! ### Holds given back -/

/-- A property that a hold given back keeps. -/
structure Releasing (P : Manager σ δ η → Prop) : Prop extends Frame P where
  release : ∀ m x, P m → P (m.release x)

namespace Releasing

variable (h : Releasing P)
include h

lemma releaseAll (hm : P m) (hs : List (Hold δ)) : P (m.releaseAll hs) := by
  induction hs generalizing m with
  | nil => exact hm
  | cons x hs ih => exact ih (h.release m x hm)

lemma discard (hm : P m) (found : List (Found δ)) : P (m.discard found) := h.releaseAll hm _

lemma complete {r : Scan δ × Manager σ δ η} (hm : P r.2) : P (complete r).2 := by
  rcases r with ⟨⟨found, _ | e⟩, m⟩
  · exact hm
  · exact h.discard hm found

lemma select (hm : P m) (info : RawInterface) (fs : List (Found δ)) : P (select info fs m).2 := by
  induction fs generalizing m with
  | nil => exact hm
  | cons f fs ih =>
      rw [Manager.select]
      split_ifs
      · exact h.discard hm fs
      · exact ih (h.release m f.hold hm)

/-- A rescan is a walk of which at most one record is kept. -/
lemma resolve {info : RawInterface} (hwalk : P (m.walk (idsOf info)).2) :
    P (m.resolve info).2 := by
  have hcomplete := h.complete hwalk
  rw [Manager.resolve]
  rcases hc : Manager.complete (m.walk (idsOf info)) with ⟨_ | found, m₁⟩ <;> rw [hc] at hcomplete
  · exact hcomplete
  · have hselect := h.select hcomplete info found
    simp only
    rcases hs : Manager.select info found m₁ with ⟨_ | f, m₂⟩ <;> rw [hs] at hselect <;>
      exact hselect

/-- A listing is an enumeration of which no record is kept. -/
lemma listInterfaces {filter : Filter} (henum : P (m.enumerate filter).2) (json : Bool)
    (out : Sink) : P (m.listInterfaces filter json out).manager := by
  rw [Manager.listInterfaces]
  rcases he : m.enumerate filter with ⟨_ | found, m₁⟩ <;> rw [he] at henum
  · exact henum
  · exact h.discard henum found

end Releasing

/-- A property that entries and walks keep as well. -/
structure Scanning (P : Manager σ δ η → Prop) : Prop extends Releasing P where
  ready : ∀ m, P m → P m.ready.2
  walk : ∀ m filter, P m → P (m.walk filter).2

namespace Scanning

variable (h : Scanning P)
include h

lemma scan (hm : P m) (filter : Filter) : P (m.scan filter).2 := by
  have hready := h.ready m hm
  rw [Manager.scan]
  rcases hr : m.ready with ⟨_ | ⟨⟩, m₁⟩ <;> rw [hr] at hready
  · exact hready
  · exact h.walk m₁ filter hready

lemma enumerate (hm : P m) (filter : Filter) : P (m.enumerate filter).2 :=
  h.complete (h.scan hm filter)

end Scanning

/-! ### Opens and closes -/

/-- A property that an interface released and a handle closed keep as well. -/
structure Yielding (P : Manager σ δ η → Prop) : Prop extends Releasing P where
  yield : ∀ m handle interface, P m → P (m.native (Platform.release handle interface)).2
  closeHandle : ∀ m handle, P m → P (m.closeHandle handle)

lemma Yielding.abandon (h : Yielding P) (hm : P m) (c : Claimed δ η) : P (m.abandon c) := by
  have hyield := h.yield m c.native c.info.interface hm
  rw [Manager.abandon]
  rcases hn : m.native (Platform.release c.native c.info.interface) with ⟨_ | ⟨⟩, m₁⟩ <;>
    rw [hn] at hyield
  · exact h.release _ c.hold (h.closeHandle _ _ (h.log _ _ _ hyield))
  · exact h.release _ c.hold (h.closeHandle _ _ hyield)

/-- A property that an open up to its claim keeps, as far as it gets. -/
structure Opening (P : Manager σ δ η → Prop) : Prop extends
    Scanning P, Preparing P, Yielding P where
  openDevice : ∀ m device, P m → P (m.native (Platform.openDevice device)).2

namespace Opening

variable (h : Opening P) {meanwhile : Manager σ δ η → Manager σ δ η}
  (hmean : ∀ m, P m → P (meanwhile m))
include h hmean

lemma claimFound (hm : P m) (f : Found δ) : P (m.claimFound meanwhile f).2 := by
  have hopen := h.openDevice m f.hold.device hm
  rw [Manager.claimFound]
  rcases ho : m.native (Platform.openDevice f.hold.device) with ⟨_ | handle, m₁⟩ <;>
    rw [ho] at hopen
  · exact h.release _ f.hold hopen
  · have hprep := h.prepare
      (h.log m₁ .debug ("Opened native handle for " ++ f.info.path) hopen) hmean handle
        f.info.interface
    simp only
    rcases hp : (m₁.log .debug ("Opened native handle for " ++ f.info.path)).prepare meanwhile
      handle f.info.interface with ⟨_ | ⟨⟩, m₂⟩ <;> rw [hp] at hprep
    · exact h.release _ f.hold (h.closeHandle m₂ handle hprep)
    · exact hprep

lemma acquire (hm : P m) (info : RawInterface) : P (m.acquire meanwhile info).2 := by
  have hready := h.ready m hm
  rw [Manager.acquire]
  rcases hr : m.ready with ⟨_ | ⟨⟩, m₁⟩ <;> rw [hr] at hready
  · exact hready
  · have hresolve := h.resolve (h.walk m₁ (idsOf info) hready)
    simp only
    rcases hs : m₁.resolve info with ⟨_ | f, m₂⟩ <;> rw [hs] at hresolve
    · exact hresolve
    · exact h.claimFound hmean hresolve f

/-- One that a new channel keeps too is kept by every open. -/
lemma openWith (hjoin : ∀ m c, P m →
      P (establish { m with
        lastId := m.lastId + 1, registered := m.registered ++ [m.lastId + 1] } c (m.lastId + 1)))
    (hm : P m) (info : RawInterface) : P (m.openWith meanwhile info).2 := by
  have hacquire := h.acquire hmean hm info
  rw [Manager.openWith]
  rcases ha : m.acquire meanwhile info with ⟨_ | c, m₁⟩ <;> rw [ha] at hacquire
  · exact hacquire
  · simp only [enroll, register]
    split_ifs
    · exact h.abandon hacquire c
    · exact hjoin m₁ c hacquire

end Opening

/-- A property that closes keep, and drops. -/
structure Closing (P : Manager σ δ η → Prop) : Prop extends Yielding P where
  empty : ∀ m id, P m → P (m.updateChannel id emptied)
  deregister : ∀ m id, P m → P (m.deregister id)
  forget : ∀ (m : Manager σ δ η) (id : ℕ), P m →
    P { m with channels := m.channels.filter (·.id != id) }

namespace Closing

variable (h : Closing P)
include h

lemma closeNative (hm : P m) (c : Channel δ η) : P (m.closeNative c).2 := by
  rw [Manager.closeNative]
  cases c.native? with
  | none => exact hm
  | some handle =>
      exact h.releaseAll (h.closeHandle _ _ (h.yield _ _ _ (h.empty m c.id hm))) _

lemma closeChannel (hm : P m) (c : Channel δ η) : P (m.closeChannel c).2 := by
  have hclose := h.closeNative hm c
  rw [Manager.closeChannel]
  rcases hc : m.closeNative c with ⟨_ | released, m₁⟩ <;> rw [hc] at hclose
  · exact hclose
  · exact h.log _ _ _ (h.deregister m₁ c.id hclose)

lemma close (hm : P m) (id : ℕ) : P (m.close id).2 := by
  rw [Manager.close]
  cases m.channel? id with
  | none => exact hm
  | some c => exact h.closeChannel hm c

lemma dropChannel (hm : P m) (id : ℕ) : P (m.dropChannel id) := by
  rw [Manager.dropChannel]
  cases m.channel? id with
  | none => exact hm
  | some c =>
      have hclose := h.closeChannel hm c
      simp only
      rcases hc : m.closeChannel c with ⟨_ | ⟨⟩, m₁⟩ <;> rw [hc] at hclose
      · exact h.forget _ id (h.log _ _ _ hclose)
      · exact h.forget m₁ id hclose

end Closing

end Frame

end Manager

end UsbPipe
