/-
What a host reports as the descriptor of a device.

All fields of the raw descriptor are reported as they are, but the two version words go through
the parts of a version.  A word has four digits of four bits, of which the first two are the major
version; they are read as a decimal number, and this number is written back as it is, not by its
two digits.  So a word is reported as it is if its first digit is zero, and else too small, by six
in the high byte for each unit of that digit.

* `toNat_nibble`, `ofWord_parts`: the digits of a word, and the parts of its version.
* `toNat_toWord`: the word that is put together from the parts of a version.
* `ReportedAs`, `Reports`: what is reported of a version word, and of a descriptor.
* `Host.deviceDescriptor_reports`: what a host reports of a device.
* `Host.deviceDescriptor_major`: a version with a major part of two digits.
-/
import Mathlib.Algebra.Group.Nat.Defs
import Mathlib.Tactic.Common
import UsbPipe.Host.Basic

namespace UsbPipe

open Usb

namespace Version

/-! ### Words and versions -/

/-- Four bits of a word are a digit to the base sixteen. -/
lemma toNat_nibble (w : UInt16) {position : UInt16} (h : position.toNat < 16) :
    (nibble w position).toNat = w.toNat / 2 ^ position.toNat % 16 := by
  rw [nibble, UInt16.toNat_and, UInt16.toNat_shiftRight, Nat.mod_eq_of_lt h,
    Nat.shiftRight_eq_div_pow]
  exact Nat.and_two_pow_sub_one_eq_mod _ 4

/-- The parts of the version in a word: the number of its first two digits, as if they were
decimal, and the other two digits. -/
lemma ofWord_parts (w : UInt16) :
    (ofWord w).major.toNat = 10 * (w.toNat / 0x1000) + w.toNat / 0x100 % 16 ∧
      (ofWord w).minor.toNat = w.toNat / 0x10 % 16 ∧ (ofWord w).subMinor.toNat = w.toNat % 16 := by
  have hw := w.toNat_lt
  have h12 : (nibble w 12).toNat = w.toNat / 0x1000 % 16 := toNat_nibble w (by decide)
  have h8 : (nibble w 8).toNat = w.toNat / 0x100 % 16 := toNat_nibble w (by decide)
  have h4 : (nibble w 4).toNat = w.toNat / 0x10 % 16 := toNat_nibble w (by decide)
  have h0 : (nibble w 0).toNat = w.toNat / 1 % 16 := toNat_nibble w (by decide)
  refine ⟨?_, ?_, ?_⟩
  · have hfirst : w.toNat / 0x1000 < 16 := by omega
    have hsecond : w.toNat / 0x100 % 16 < 16 := Nat.mod_lt _ (by decide)
    show (10 * nibble w 12 + nibble w 8).toUInt8.toNat = _
    rw [UInt16.toNat_toUInt8, UInt16.toNat_add, UInt16.toNat_mul, h12, h8,
      Nat.mod_eq_of_lt hfirst, show (10 : UInt16).toNat = 10 by decide]
    omega
  · show (nibble w 4).toUInt8.toNat = _
    rw [UInt16.toNat_toUInt8, h4]
    omega
  · show (nibble w 0).toUInt8.toNat = _
    rw [UInt16.toNat_toUInt8, h0]
    omega

/-- A digit of a word moved up, beside what is below it. -/
lemma toNat_shiftLeft_or {high low : UInt16} {position : UInt16} (hposition : position.toNat < 16)
    (hhigh : high.toNat * 2 ^ position.toNat < 2 ^ 16) (hlow : low.toNat < 2 ^ position.toNat) :
    (high <<< position ||| low).toNat = high.toNat * 2 ^ position.toNat + low.toNat := by
  rw [UInt16.toNat_or, UInt16.toNat_shiftLeft, Nat.mod_eq_of_lt hposition, Nat.shiftLeft_eq,
    Nat.mod_eq_of_lt hhigh, ← Nat.shiftLeft_eq, ← Nat.shiftLeft_add_eq_or_of_lt hlow]

/-- The word of a version: its major part as a number in the high byte, and the last digits of the
others in the low byte. -/
lemma toNat_toWord (v : Version) :
    v.toWord.toNat =
      0x100 * v.major.toNat + 0x10 * (v.minor.toNat % 16) + v.subMinor.toNat % 16 := by
  have hmask : ∀ b : UInt8, (b &&& 0x0f).toUInt16.toNat = b.toNat % 16 := fun b => by
    rw [UInt8.toNat_toUInt16, UInt8.toNat_and]
    exact Nat.and_two_pow_sub_one_eq_mod _ 4
  have hmajor := v.major.toNat_lt
  have hlow : ((v.minor &&& 0x0f).toUInt16 <<< 4 ||| (v.subMinor &&& 0x0f).toUInt16).toNat =
      v.minor.toNat % 16 * 2 ^ 4 + v.subMinor.toNat % 16 := by
    have h := toNat_shiftLeft_or (show (4 : UInt16).toNat < 16 by decide)
      (show (v.minor &&& 0x0f).toUInt16.toNat * 2 ^ 4 < 2 ^ 16 by rw [hmask]; omega)
      (show (v.subMinor &&& 0x0f).toUInt16.toNat < 2 ^ 4 by rw [hmask]; omega)
    rwa [hmask, hmask] at h
  have hword := toNat_shiftLeft_or (show (8 : UInt16).toNat < 16 by decide)
    (show v.major.toUInt16.toNat * 2 ^ 8 < 2 ^ 16 by rw [UInt8.toNat_toUInt16]; omega)
    (show ((v.minor &&& 0x0f).toUInt16 <<< 4 ||| (v.subMinor &&& 0x0f).toUInt16).toNat < 2 ^ 8 by
      rw [hlow]; omega)
  rw [hlow, UInt8.toNat_toUInt16] at hword
  rw [toWord, UInt16.or_assoc, hword, show (8 : UInt16).toNat = 8 by decide]
  omega

/-! ### Reported words -/

/-- What is reported of a version word: six units too little in the high byte for each unit of the
first digit. -/
def ReportedAs (word reported : UInt16) : Prop :=
  reported.toNat + 0x600 * (word.toNat / 0x1000) = word.toNat

/-- A word goes through the parts of its version. -/
lemma reportedAs_iff {word reported : UInt16} :
    ReportedAs word reported ↔ reported = (ofWord word).toWord := by
  have hword := word.toNat_lt
  obtain ⟨hmajor, hminor, hsub⟩ := ofWord_parts word
  have hvalue := toNat_toWord (ofWord word)
  rw [hmajor, hminor, hsub] at hvalue
  rw [ReportedAs, ← UInt16.toNat_inj]
  omega

/-- A word is reported as it is just if its first digit is zero. -/
lemma ReportedAs.eq_iff {word reported : UInt16} (h : ReportedAs word reported) :
    reported = word ↔ word < 0x1000 := by
  rw [ReportedAs] at h
  rw [← UInt16.toNat_inj, UInt16.lt_iff_toNat_lt, show (0x1000 : UInt16).toNat = 0x1000 by decide]
  omega

end Version

/-! ### Reported descriptors -/

/-- What is reported of a raw descriptor: its fields, and its two version words as they come out
of the parts of a version. -/
structure Reports (raw : RawDevice) (d : DeviceDescriptor) : Prop where
  usbVersion : Version.ReportedAs raw.bcdUsb d.usbVersion
  cls : d.cls.code = raw.cls
  subClass : d.subClass.code = raw.subClass
  protocol : d.protocol.code = raw.protocol
  maxPacketSize0 : d.maxPacketSize0 = raw.maxPacketSize0
  vendorId : d.vendorId = raw.vendorId
  productId : d.productId = raw.productId
  deviceVersion : Version.ReportedAs raw.bcdDevice d.deviceVersion
  numConfigurations : d.numConfigurations = raw.numConfigurations

/-- The descriptor that is made of a raw one. -/
lemma reports_descriptor (raw : RawDevice) : Reports raw raw.descriptor where
  usbVersion := Version.reportedAs_iff.mpr rfl
  cls := rfl
  subClass := rfl
  protocol := rfl
  maxPacketSize0 := rfl
  vendorId := rfl
  productId := rfl
  deviceVersion := Version.reportedAs_iff.mpr rfl
  numConfigurations := rfl

namespace Host

/-- A host reports the descriptor of a device field by field; of its two version words it reports
those as they are whose first digit is zero, and the others too small. -/
theorem deviceDescriptor_reports {h : Host} {r : HostRef} {device : HostDevice}
    (hdevice : h.device? r = some device) (hcode : device.codes.descriptor = 0) :
    ∃ d, h.deviceDescriptor r = .ok d ∧ Reports device.raw d ∧
      (d.usbVersion = device.raw.bcdUsb ↔ device.raw.bcdUsb < 0x1000) ∧
      (d.deviceVersion = device.raw.bcdDevice ↔ device.raw.bcdDevice < 0x1000) := by
  have hreports := reports_descriptor device.raw
  refine ⟨device.raw.descriptor, ?_, hreports, hreports.usbVersion.eq_iff,
    hreports.deviceVersion.eq_iff⟩
  rw [deviceDescriptor, hdevice]
  simp [resultOfCode, hcode, Except.map]

/-- A vendor-specific device with given version words. -/
def versionedDevice (bcdUsb bcdDevice : UInt16) : HostDevice where
  key := ⟨1, 4⟩
  port := 2
  speedCode := 3
  raw :=
    { bcdUsb, bcdDevice, cls := 0xff, subClass := 0, protocol := 0, maxPacketSize0 := 64,
      vendorId := 0x1209, productId := 1, numConfigurations := 0 }
  configs := []

/-- Version 2.1 is reported as it is, and version 12.3.4 as the word of another one. -/
theorem deviceDescriptor_reports_both :
    ({ devices := [versionedDevice 0x0210 0x1234] } : Host).device? ⟨1, 0⟩ =
        some (versionedDevice 0x0210 0x1234) ∧
      ∃ d, ({ devices := [versionedDevice 0x0210 0x1234] } : Host).deviceDescriptor ⟨1, 0⟩ = .ok d ∧
        Reports (versionedDevice 0x0210 0x1234).raw d ∧
        d.usbVersion = 0x0210 ∧ d.deviceVersion ≠ 0x1234 := by
  have hdevice : ({ devices := [versionedDevice 0x0210 0x1234] } : Host).device? ⟨1, 0⟩ =
      some (versionedDevice 0x0210 0x1234) := rfl
  obtain ⟨d, hd, hreports, husb, hversion⟩ := deviceDescriptor_reports hdevice rfl
  exact ⟨hdevice, d, hd, hreports, husb.mpr (by decide),
    fun heq => absurd (hversion.mp heq) (by decide)⟩

/-- A version with a major part of two digits is not reported as it is: that part is the number
of its digits in the high byte. -/
theorem deviceDescriptor_major :
    ∃ d, ({ devices := [versionedDevice 0x0200 0x1000] } : Host).deviceDescriptor ⟨1, 0⟩ = .ok d ∧
      d.deviceVersion = 0x0a00 ∧ d.deviceVersion ≠ (versionedDevice 0x0200 0x1000).raw.bcdDevice :=
  ⟨_, rfl, by decide, by decide⟩

end Host

end UsbPipe
