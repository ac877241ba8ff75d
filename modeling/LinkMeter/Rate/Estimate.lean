import LinkMeter.Text.Basic

/-! # Rate estimates -/

namespace LinkMeter.Rate

/-- What is sent and received, in kilobits per second. -/
structure Estimate where
  tx : Int
  rx : Int
deriving DecidableEq

/-- The estimate of a link that carries nothing. -/
def Estimate.zero : Estimate := ⟨0, 0⟩

end LinkMeter.Rate
