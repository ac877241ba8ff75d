import LinkMeter.Text.Quoted

/-! # Link handles

A link is known by the handle under which it was reported: a name, a number, or nothing at all. -/

namespace LinkMeter.Link

/-- What tells one link from another. -/
inductive Handle where
  | absent
  | numbered (n : Int)
  | named (t : Text)
deriving DecidableEq

/-- The handle in a message. -/
def Handle.spelled : Handle → Text
  | absent => "None"
  | numbered n => .ofInt n
  | named t => t.quoted

/-- The interface of a link in a message. -/
def interfaceText : Option Text → Text
  | none => "None"
  | some name => name

end LinkMeter.Link
