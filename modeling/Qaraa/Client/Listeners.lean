import Qaraa.Protocol.Messages

/-!
What local and remote client sessions share.

* `SessionError`: what the promises of a session are rejected with.
* `Audience`: the set of listeners, with the closed flag every call looks at.
* `Reaction`, `Audience.callAll`: what a listener does while it is called, and a publication
  to a copy of the set.
-/

namespace Qaraa.Client

open Ordered

/-- What the promise of a session can be rejected with. -/
inductive SessionError where
  /-- `QARAA session is closed`. -/
  | closed
  | js (error : JsError)
  /-- `QaraaTransportError`. -/
  | transport (retryable : Bool)
  | protocol (error : QaraaProtocolError)
  /-- An error of the caller's `sleep`. -/
  | rejected
  deriving DecidableEq

/-- The listeners of a session, and what they have been called with. -/
structure Audience where
  closed : Bool
  listeners : OrderedSet ℕ
  heard : List (ℕ × ReadingSnapshot)

/-- What a listener does while it is called: it closes the session, makes listeners leave,
throws. -/
structure Reaction where
  closes : Bool := false
  unsubscribes : List ℕ := []
  throws : Bool := false

/-- What each listener does with a snapshot. -/
abbrev Reactions := ℕ → ReadingSnapshot → Reaction

namespace Audience

/-- `listeners.delete`. -/
def leave (audience : Audience) (listener : ℕ) : Audience :=
  { audience with listeners := audience.listeners.delete listener }

/-- `close`, as far as listeners can tell. -/
def close (audience : Audience) : Audience := ⟨true, .empty, audience.heard⟩

/-- `listener(snapshot)`, and its removal when it throws. -/
def call (react : Reactions) (snapshot : ReadingSnapshot) (audience : Audience) (listener : ℕ) :
    Audience :=
  let reaction := react listener snapshot
  let called := { audience with heard := audience.heard ++ [(listener, snapshot)] }
  let reacted :=
    reaction.unsubscribes.foldl leave (if reaction.closes then called.close else called)
  if reaction.throws then reacted.leave listener else reacted

/-- One round of the loop over the copy. -/
def callNext (react : Reactions) (snapshot : ReadingSnapshot) (audience : Audience)
    (listener : ℕ) : Audience :=
  if audience.closed || !audience.listeners.has listener then audience
  else audience.call react snapshot listener

/-- A publication. -/
def callAll (react : Reactions) (snapshot : ReadingSnapshot) (audience : Audience) : Audience :=
  audience.listeners.items.foldl (callNext react snapshot) audience

/-- `subscribe`: the new listener is called at once and stays unless it throws. -/
def subscribe (react : Reactions) (snapshot : ReadingSnapshot) (audience : Audience)
    (listener : ℕ) : Audience :=
  ({ audience with listeners := audience.listeners.add listener }).call react snapshot listener

end Audience

end Qaraa.Client
