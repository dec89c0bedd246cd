import SettleAgent.Domain

/-!
# The risk judge

`jev.ScreenRisk` asks a model for a position on five levels of risk, numbered
from zero, and returns it on a scale from 0 to 100.  What the model answers is
not known.
-/

namespace SettleAgent

/-- What the risk judge is asked about. -/
structure RiskQuestion where
  tool : String
  name : String
  amountCents : Int
  arguments : Object
  classes : List String
  agentName : String
  agentGroups : List String
  agentEnv : String
  siblingCount : Int
  siblingTotal : Int

/-- The judged position. -/
structure Risk where
  score100 : Int
  confidence : Float64

namespace Jev

structure ScoreAnswer where
  score : Float64
  confidence : Float64
  deriving DecidableEq

/-- What becomes of a request to the judge.  A response that is decoded may lack
the answer. -/
inductive Reply : Type
  | unencoded (error : String)
  | unbuilt (error : String)
  | noResponse (error : String)
  | refused (status : String)
  | undecoded (error : String)
  | decoded (risk : Option ScoreAnswer)
  deriving DecidableEq

/-- The threshold, given `SETTLE_JEV_THRESHOLD` as `strconv.Atoi` reads it. -/
def threshold : Option Int → Int
  | some value => if 0 ≤ value ∧ value ≤ 100 then value else 70
  | none => 70

/-- The score on the scale from 0 to 100. -/
def score100 (score : Float64) : Int :=
  let scaled := score.timesPlusHalf 25
  let score := if scaled < 0 then 0 else scaled
  if score > 100 then 100 else score

/-- `ScreenRisk`, given `JEV_API_KEY`. -/
def screenRisk (key : String) (reply : Reply) : Except String Risk :=
  if key = "" then .error "jev: JEV_API_KEY is not set"
  else match reply with
  | .unencoded error => .error ("jev: encode request: " ++ error)
  | .unbuilt error => .error ("jev: build request: " ++ error)
  | .noResponse error => .error ("jev: request failed: " ++ error)
  | .refused status => .error ("jev: endpoint returned " ++ status)
  | .undecoded error => .error ("jev: decode response: " ++ error)
  | .decoded none => .error "jev: response missing risk"
  | .decoded (some answer) =>
      .ok { score100 := score100 answer.score, confidence := answer.confidence }

end Jev
end SettleAgent
