import ChatChain.Failure

/-!
# Bans and templates

A command store knows who is banned and which templates users have stored.  A template is a
command text under a name, for everyone or for one scope.

* `CommandStore` is the store itself.
* `StoreAccess` is a store as the bot sees it, where every question may fail.
-/

namespace ChatChain

/-- A stored command text. -/
structure Template where
  name : String
  /-- The guild or entity that the template belongs to; none for a global one. -/
  scope? : Option String := none
  body : String
  deriving DecidableEq, Repr

/-- Bans and templates, the templates in the order in which they were stored. -/
structure CommandStore where
  bannedUsers : List String := []
  bannedGuilds : List String := []
  templates : List Template := []
  deriving DecidableEq, Repr

namespace CommandStore

/-- Whether the author or the guild of a message is banned. -/
def isBanned (s : CommandStore) (author : String) (guild? : Option String) : Bool :=
  s.bannedUsers.contains author || guild?.any s.bannedGuilds.contains

/-- The first template with exactly this name and scope. -/
def templateIn? (s : CommandStore) (name : String) (scope? : Option String) : Option Template :=
  s.templates.find? fun t => t.name == name && t.scope? == scope?

/-- The template of a name: that of the scope if there is one, else the global one. -/
def findTemplate? (s : CommandStore) (name : String) (scope? : Option String) : Option Template :=
  (scope?.bind fun scope => s.templateIn? name (some scope)).or (s.templateIn? name none)

end CommandStore

/-- The questions that a bot puts to its store. -/
structure StoreAccess where
  isBanned : String → Option String → Except Failure Bool
  findTemplate : String → Option String → Except Failure (Option Template)

/-- A store that always answers. -/
def CommandStore.access (s : CommandStore) : StoreAccess where
  isBanned author guild? := .ok (s.isBanned author guild?)
  findTemplate name scope? := .ok (s.findTemplate? name scope?)

end ChatChain
