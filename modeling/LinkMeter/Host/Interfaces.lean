import LinkMeter.Fault
import LinkMeter.Text.LetterCase

/-! # Network interfaces of the host

What the host says about its interfaces: which are up, in the order in which it lists them, and their addresses. Loopback
and pseudo interfaces carry no traffic of the user and are left out; some addresses reach no network. Names and addresses
are compared in lower case. -/

namespace LinkMeter.Host

/-- The family of an address. -/
inductive Family where
  | inet
  | inet6
  | link
deriving DecidableEq

/-- An address of an interface; the host may list one without saying what it is. -/
structure Address where
  family : Family
  text : Option Text
deriving DecidableEq

/-- The answers of the host about its interfaces, or the faults of the queries. -/
structure Interfaces where
  states : Except Fault (List (Text × Bool))
  addresses : Except Fault (List (Text × List Address))

/-- What a query of the host may raise without harm to the program: faults of the host and of the system. -/
def isExpected (e : Fault) : Bool := e.isQuery || e.isSystem

/-- The lower-case names of interfaces that are left out. -/
def excludedNames : List Text := ["lo", "lo0"]

/-- What the lower-case name of an interface that is left out may have in it. -/
def excludedParts : List Text := ["loopback", "teredo", "isatap", "pseudo-interface"]

/-- How lower-case addresses start that reach no network. -/
def localStarts : List Text := ["127.", "169.254.", "::1", "fe80:"]

/-- Whether an interface is left out. -/
def isExcluded (name : Text) : Bool :=
  let lowered := Text.lower name
  excludedNames.contains lowered || excludedParts.any fun part => Text.hasPart part lowered

/-- Whether an address can reach a network. -/
def isRoutable (address : Text) : Bool :=
  let lowered := Text.lower address
  !localStarts.any fun start => start.isPrefixOf lowered

/-- The addresses of one interface. -/
def addressesOf (addresses : List (Text × List Address)) (name : Text) : List Address :=
  (addresses.lookup name).getD []

/-- Whether an interface is up and not left out. -/
def isTracked (state : Text × Bool) : Bool := state.2 && !isExcluded state.1

end LinkMeter.Host
