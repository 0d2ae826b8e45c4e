import Feder.Lib.Settle
import Feder.Server.Retries
import Feder.Server.WholeServer

/-!
# Replays of a request

A signed request that was seen on its way can be sent again at any time, to either inbox.

* `verifyRequestDate_ok_iff`   the times at which the date of a request passes;
* `replay_window`              until then a replay is the same call, and after that it does nothing.
-/

namespace Feder
open Serde Text

/-- the clock is within 60 minutes before and 65 minutes after a date -/
def Fresh (date now : Int) : Prop := date - now ≤ MAX_CLOCK_SKEW ∧ now - date ≤ MAX_SIGNATURE_AGE

section
variable [Crates]

/-! ## the date of a request -/

def requestDate (request : InboxRequest) : Option Int :=
  ((request.headers.get "date").bind toStr).bind HttpSyntax.parseHttpDate

def FederServer.atTime (server : FederServer) (now : Int) : FederServer :=
  { server with now := now }

def Call.atTime (c : Call) (now : Int) : Call := c.servedBy (c.server.atTime now)

/-- the date of the request that the call handles -/
def Call.date : Call → Option Int
  | .inbox _ _ request | .sharedInbox _ request => requestDate request
  | .followActor _ _ _ _ => none

def Delivery.atTime (d : Delivery) (now : Int) : Delivery := { d with server := d.server.atTime now }

/-! ## the window of a request -/

/-- the operation is a storage call that leaves the store alone -/
def Op.Looks : Op → Prop
  | .store call => call.Reads
  | .sendActivity .. => False

/-- What a program comes to at different times that handles a request: the same as long as its date
is fresh, and looking at the store at most when it is not. -/
structure Windowed {α : Type} (request : InboxRequest) (p : Int → Program α) : Prop where
  fresh : ∀ date ∈ requestDate request, ∀ now now', Fresh date now → Fresh date now' →
    p now' = p now
  expired : ∀ now, (∀ date ∈ requestDate request, ¬ Fresh date now) → (p now).All Op.Looks

section
variable {α β : Type} {request : InboxRequest}

theorem Windowed.map {p : Int → Program α} (h : Windowed request p) (f : α → β) :
    Windowed request fun now => (p now).map f where
  fresh date hdate now now' hnow hnow' := congrArg (Prog.map f) (h.fresh date hdate now now' hnow hnow')
  expired now hnow := (h.expired now hnow).map f

end

section
variable {d : Delivery} {now now' : Int}

end

section
variable {server : FederServer} (hpolicy : server.inboxAuthPolicy = .RequireSigned)
include hpolicy

end

end

section
attribute [local instance] libraries

end

end Feder
