import SoccerGame.Basic
import SoccerGame.Step
import SoccerGame.Count
import SoccerGame.View
import SoccerGame.Local
import SoccerGame.Ledger
import SoccerGame.Invariant
import SoccerGame.Captain
import SoccerGame.Move
import SoccerGame.Quiet
import SoccerGame.Flow
import SoccerGame.Close
import SoccerGame.Decide
import SoccerGame.Reach
import SoccerGame.Frame
import SoccerGame.Census
import SoccerGame.Teams
import SoccerGame.Formation
import SoccerGame.Life
import SoccerGame.Match
import SoccerGame.Status
import SoccerGame.Free
import SoccerGame.Handshake
