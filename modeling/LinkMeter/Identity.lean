import LinkMeter.Text.Basic

/-! # The program's identity -/

namespace LinkMeter.Identity

/-- The name of the program, which is also that of its data folder. -/
def name : Text := "NetTraffic"

def version : Text := "1.0.0"

/-- The environment variable that says whether the program runs in production. -/
def productionVariable : Text := "NETTRAFFIC_PROD"

end LinkMeter.Identity
