/-!
# Messages

A chat message as the platform delivers it.
-/

namespace ChatChain

/-- A file attached to a message. -/
structure Attachment where
  name : String
  /-- Where the platform finds the file. -/
  location : String
  deriving DecidableEq, Repr

/-- A message. -/
structure Message where
  id : String
  channel : String
  /-- The guild it was written in; none for a direct message. -/
  guild? : Option String := none
  author : String
  content : String
  attachments : List Attachment := []
  deriving DecidableEq, Repr

/-- Whether a message was written in a guild. -/
def Message.inGuild (m : Message) : Bool :=
  m.guild?.isSome

end ChatChain
