/-
Vendor and product filters.

* `Filter`: the ids a scan is limited to; an id that is missing or zero admits
  every value.
* `Filter.admits`: whether a device with given ids passes.
* `admits_any`: the filter without ids admits everything.
-/

namespace UsbPipe.Usb

/-- The vendor and product ids a scan is limited to. -/
structure Filter where
  vendorId : Option UInt16 := none
  productId : Option UInt16 := none
  deriving DecidableEq

namespace Filter

/-- The filter that admits every device. -/
def any : Filter := {}

/-- The filter that admits the devices of one vendor. -/
def vendor (vendorId : UInt16) : Filter := { vendorId := some vendorId }

/-- Whether a wanted id, if there is one, agrees with a value; zero agrees with all. -/
def admitsId (wanted : Option UInt16) (value : UInt16) : Bool :=
  match wanted with
  | none => true
  | some id => id == 0 || id == value

/-- Whether a device with these ids passes. -/
def admits (f : Filter) (vendorId productId : UInt16) : Bool :=
  admitsId f.vendorId vendorId && admitsId f.productId productId

/-- Ids of `first`, with those of `second` in place of missing ones. -/
def orElse (first second : Filter) : Filter where
  vendorId := first.vendorId <|> second.vendorId
  productId := first.productId <|> second.productId

/-- Nothing is kept out by the filter without ids. -/
@[simp] theorem admits_any (v p : UInt16) : any.admits v p = true := rfl

end Filter

end UsbPipe.Usb
