/-
Shutting a manager down.

Shutdown refuses new scans and opens from its first step on, waits until no channel
is registered, and only then tears the native layer down.

* `Manager.beginShutdown`, `Manager.teardown`: the first and the last step.
* `Manager.shutdown?`: a shutdown that waits; it has no result while channels are open
  and nobody else closes them.
* `Manager.shutdownNow`: a shutdown that gives up at once.
-/
import UsbPipe.Manager.Open

namespace UsbPipe.Manager

variable {σ δ η : Type}

/-- From here on scans and opens are refused. -/
def beginShutdown (m : Manager σ δ η) : Manager σ δ η :=
  if m.shuttingDown then m
  else { m with shuttingDown := true }.log .info "USB context shutting down"

variable [Platform σ δ η]

/-- The native layer is destroyed if it was initialised. -/
def teardown (m : Manager σ δ η) : Manager σ δ η :=
  if m.initialized then
    { m with platform := Platform.teardown m.platform, initialized := false }.log .info
      "USB context torn down"
  else m

/-- A shutdown that waits for open channels: with any of them, and nobody else to close
them, it never returns. -/
def shutdown? (m : Manager σ δ η) : Option (Manager σ δ η) :=
  if m.registered.isEmpty then some m.beginShutdown.teardown else none

/-- A shutdown that does not wait for open channels but reports their number; new work
stays refused. -/
def shutdownNow (m : Manager σ δ η) : Except UsbError Unit × Manager σ δ η :=
  let m := m.beginShutdown
  if m.registered.isEmpty then (.ok (), m.teardown)
  else
    (.error (.handlesOutstanding m.openChannels),
      m.log .warn ("Shutdown timed out with " ++ toString m.openChannels ++ " open handle(s)"))

end UsbPipe.Manager
