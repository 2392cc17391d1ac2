/-
The interface that an open ends up on.

An id of zero limits nothing in the scan that an open makes, so that what it opens may be an
interface of another device than the one asked for, on the same port and with the same number.

* `BenchSession.openWith_ok_agrees`: what an open that succeeds shares with the interface asked
  for, and when it is that interface.
* `BenchSession.openWith_ok_elsewhere`: ids of zero, and a device of another vendor.
-/
import UsbPipe.Bench.Session
import UsbPipe.Proofs.Manager.Target

namespace UsbPipe

open Usb

namespace BenchSession

open Manager

/-! ### The interface asked for -/

/-- An open that succeeds is on the port and the interface number it was asked for, and on
the vendor and the product id unless that is zero; the channel it leaves open says the same.
If what was asked for is a record of an earlier scan, the devices are the same since, and all
records of that scan that the ids admit in that place are this one, then it is on this one. -/
theorem openWith_ok_agrees {m m' : Manager Bench Instance DeviceKey}
    {meanwhile : Manager Bench Instance DeviceKey → Manager Bench Instance DeviceKey}
    {info : RawInterface} {o : Opened} (h : m.openWith meanwhile info = (.ok o, m')) :
    (o.info.port = info.port ∧ o.info.interface = info.interface ∧
      (info.vendorId ≠ 0 → o.info.vendorId = info.vendorId) ∧
      (info.productId ≠ 0 → o.info.productId = info.productId)) ∧
    (∃ d ∈ m'.channels, d.id = o.id ∧ d.info = o.info ∧ d.isClosed = false) ∧
    ∀ (m₀ : Manager Bench Instance DeviceKey) (filter : Filter),
      m₀.platform.attached = m.platform.attached →
      info ∈ (m₀.scan filter).1.found.map Found.info →
      (∀ i ∈ (m₀.scan filter).1.found.map Found.info,
        (info.vendorId ≠ 0 → i.vendorId = info.vendorId) →
        (info.productId ≠ 0 → i.productId = info.productId) →
        i.port = info.port → i.interface = info.interface → i = info) →
      o.info = info := by
  obtain ⟨⟨infos, hwalked, hfind⟩, hchannel⟩ := openWith_ok h
  have hplace := List.find?_some hfind
  rw [RawInterface.samePlace, Bool.and_eq_true, beq_iff_eq, beq_iff_eq] at hplace
  have hids : ∀ i : RawInterface, (idsOf info).keeps i = true →
      (info.vendorId ≠ 0 → i.vendorId = info.vendorId) ∧
      (info.productId ≠ 0 → i.productId = info.productId) := by
    intro i hi
    simp only [Filter.keeps, idsOf, Filter.admits, Filter.admitsId, Bool.and_eq_true,
      Bool.or_eq_true, beq_iff_eq] at hi
    exact ⟨fun h0 => (hi.1.resolve_left h0).symm, fun h0 => (hi.2.resolve_left h0).symm⟩
  have hkeeps : (idsOf info).keeps o.info = true := by
    refine keeps_of_mem_walked (b := m.platform) ?_
    rw [hwalked]
    exact List.mem_of_find?_eq_some hfind
  refine ⟨⟨hplace.1, hplace.2, hids _ hkeeps⟩, hchannel, ?_⟩
  intro m₀ filter hatt hmem honly
  -- the earlier scan was not refused, so the rescan begins with its records for the ids
  rcases scan_infos m₀ filter with hnil | hscan
  · simp [hnil] at hmem
  have hfound : (m₀.scan filter).1.found.map Found.info =
      (walked (Platform.scanItems m₀.platform filter)).1 := congrArg Prod.fst hscan
  rw [hfound] at hmem honly
  have hwithin := Filter.idsOf_within (keeps_of_mem_walked hmem)
  have hprefix := scanItems_front hatt hwithin (congrArg Prod.snd hwalked)
  rw [hwalked] at hprefix
  obtain ⟨rest, hrest⟩ : ((walked (Platform.scanItems m₀.platform filter)).1.filter
      (idsOf info).keeps) <+: infos := hprefix
  have hself : info.samePlace info = true := by simp [RawInterface.samePlace]
  have hkept : info ∈ (walked (Platform.scanItems m₀.platform filter)).1.filter
      (idsOf info).keeps :=
    List.mem_filter.mpr ⟨hmem, Filter.idsOf_keeps_self info⟩
  -- the first record in the place is among them
  rw [← hrest, List.find?_append] at hfind
  cases hfirst : ((walked (Platform.scanItems m₀.platform filter)).1.filter
      (idsOf info).keeps).find? (·.samePlace info) with
  | none => exact absurd hself (List.find?_eq_none.mp hfirst info hkept)
  | some i =>
      rw [hfirst] at hfind
      obtain rfl : i = o.info := Option.some.inj hfind
      obtain ⟨hi, hki⟩ := List.mem_filter.mp (List.mem_of_find?_eq_some hfirst)
      obtain ⟨hv, hp⟩ := hids _ hki
      exact honly _ hi hv hp hplace.1 hplace.2

/-- Two devices in one place, the second of the vendor `v`. -/
def twins (v : UInt16) : Manager Bench Instance DeviceKey :=
  .ofPlatform ((({} : Bench).attach (.raw ⟨1, 1⟩ 3 0x1209 1)).attach (.raw ⟨2, 1⟩ 3 v 1))

/-- Two vendors have a device in one place: the record of the second is opened on it. -/
theorem openWith_ok_told_apart :
    ∃ info o m', info ∈ ((twins 0x1d50).scan {}).1.found.map Found.info ∧
      ((twins 0x1d50).scan {}).2.openWith id info = (.ok o, m') ∧
      info.vendorId = 0x1d50 ∧ o.info = info := by
  obtain ⟨info, hinfo⟩ := Option.isSome_iff_exists.mp
    (show (((twins 0x1d50).scan {}).1.found.map Found.info)[1]?.isSome by decide)
  have hopen : (((twins 0x1d50).scan {}).2.openWith id info).1 = .ok ⟨1, info⟩ := by
    cases hinfo
    rfl
  obtain ⟨-, -, hscan⟩ := openWith_ok_agrees (Prod.ext hopen rfl)
  have hmem := List.mem_of_getElem? hinfo
  refine ⟨info, _, _, hmem, Prod.ext hopen rfl, ?_, hscan (twins 0x1d50) {} rfl hmem ?_⟩
  · cases hinfo
    rfl
  · cases hinfo
    decide

/-- A record with the vendor id zero is the only one with its ids in its place; with the
devices unchanged, an open of it ends up on the device of another vendor. -/
theorem openWith_ok_elsewhere :
    ∃ info o m', info ∈ ((twins 0).scan {}).1.found.map Found.info ∧
      (∀ i ∈ ((twins 0).scan {}).1.found.map Found.info, i.vendorId = info.vendorId →
        i.productId = info.productId → i.port = info.port → i.interface = info.interface →
          i = info) ∧
      ((twins 0).scan {}).2.platform.attached = (twins 0).platform.attached ∧
      ((twins 0).scan {}).2.open info = (.ok o, m') ∧
      o.info.vendorId ≠ info.vendorId ∧ o.info ≠ info := by
  obtain ⟨info, hinfo⟩ := Option.isSome_iff_exists.mp
    (show (((twins 0).scan {}).1.found.map Found.info)[1]?.isSome by decide)
  obtain ⟨other, hother⟩ := Option.isSome_iff_exists.mp
    (show (((twins 0).scan {}).1.found.map Found.info)[0]?.isSome by decide)
  have hopen : (((twins 0).scan {}).2.open info).1 = .ok ⟨1, other⟩ := by
    cases hinfo
    cases hother
    rfl
  have hvendor : other.vendorId ≠ info.vendorId := by
    cases hinfo
    cases hother
    decide
  refine ⟨info, _, _, List.mem_of_getElem? hinfo, ?_, rfl, Prod.ext hopen rfl, hvendor,
    fun heq => hvendor (congrArg RawInterface.vendorId heq)⟩
  cases hinfo
  decide

end BenchSession

end UsbPipe
