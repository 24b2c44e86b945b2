import Loolwsd.Model.Run

/-!
# The poll thread

`DocumentBroker::pollThread` (`DocumentBroker.cpp:275-345`) runs the broker: while `_stop` is
not set, each iteration polls, which runs the calls that arrived (`Event`s), and then runs the
timers. Once the loop is left, the flush polls drain what is still queued, callbacks of
`addSession` included, and `terminateChild(closeReason, false)` closes the sessions and the
child. The loop also ends when `continuePolling()` turns false or `TerminationFlag` is set:
here, when the given iterations run out.
-/

set_option autoImplicit false

namespace Loolwsd.Model

/-- One iteration of the main loop: the calls its poll runs, then the timers at `now` with the
value `ShutdownRequestFlag` has then. -/
structure PollRound where
  events : List Event
  now : Int
  shutdownRequested : Bool

/-- The main loop (`DocumentBroker.cpp:275-311`): the state and the locals when it is left, or
`none` after undefined behaviour. -/
def mainLoop (cfg : Settings) (ps : PollSettings) :
    List PollRound → PollLocals → DocumentBroker → Option (DocumentBroker × PollLocals)
  | [], loc, b => some (b, loc)
  | r :: rounds, loc, b =>
    if b.stop then some (b, loc)
    else
      (run cfg b r.events).bind fun b =>
        match pollTimers cfg ps r.shutdownRequested r.now loc b with
        | .ok loc b => mainLoop cfg ps rounds loc b
        | .error _ _ => none

/-- `pollThread` from its main loop on: the loop, the flush polls running the queued calls
`flush`, and `terminateChild(closeReason, false)` at `tEnd` (`DocumentBroker.cpp:275-330`).
The state `pollThread` returns with, or `none` after undefined behaviour. -/
def pollThread (cfg : Settings) (ps : PollSettings) (rounds : List PollRound) (loc : PollLocals)
    (flush : List Event) (tEnd : Int) (b : DocumentBroker) : Option DocumentBroker :=
  (mainLoop cfg ps rounds loc b).bind fun (b, loc) =>
    (run cfg b flush).bind fun b => settle (terminateChild cfg loc.closeReason false tEnd b)

end Loolwsd.Model
