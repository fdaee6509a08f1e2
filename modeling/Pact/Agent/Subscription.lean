import Pact.Common.Proto
import Pact.Library.Run
import Pact.Library.Sequence

namespace Pact.Agent.Subscription

open Pact.Library Pact.Common

inductive ConfigUpdateAction
  | OverlayChanged (data : List UInt8)
  | NodeDeltaChanged (data : List UInt8)
  | PolicyChanged (policy : VClusterPolicy)
  | BlacklistChanged (patterns : List String)
  deriving DecidableEq

structure SubscriptionState where
  lastSequence : Nat
  reconnectAttempts : Nat
  connected : Bool
  deriving DecidableEq

def SubscriptionState.default : SubscriptionState := ⟨0, 0, false⟩

structure SubscriptionConfig where
  reconnectBaseMs : Nat
  reconnectMaxMs : Nat
  maxReconnectAttempts : Nat
  deriving DecidableEq

def SubscriptionConfig.default : SubscriptionConfig := ⟨1000, 60000, 100⟩

-- The JSON parsers of the two payloads that the agent reads itself.
structure PayloadParser where
  policy : List UInt8 → Option VClusterPolicy
  patterns : List UInt8 → Option (List String)

-- The action an update asks for. An update without a payload or with one that cannot be read
-- asks for none.
def action (parser : PayloadParser) (update : Proto.ConfigUpdate) : Option ConfigUpdateAction :=
  match update.update with
  | some (.VclusterChange data) => some (.OverlayChanged data)
  | some (.NodeChange data) => some (.NodeDeltaChanged data)
  | some (.PolicyChange data) => (parser.policy data).map .PolicyChanged
  | some (.BlacklistChange data) => (parser.patterns data).map .BlacklistChanged
  | none => none

inductive Phase
  | Subscribing
  | Streaming (incoming : List Proto.ConfigUpdate)
  | Abandoned
  deriving DecidableEq

-- `dispatched` are the actions sent so far, each with the number of the update it came from,
-- which the action itself does not carry.
structure Subscriber where
  state : SubscriptionState
  dispatched : List (Nat × ConfigUpdateAction)
  phase : Phase
  deriving DecidableEq

def Subscriber.new : Subscriber := ⟨.default, [], .Subscribing⟩

def processUpdate (parser : PayloadParser) (update : Proto.ConfigUpdate) (subscriber : Subscriber) :
    Subscriber :=
  match action parser update with
  | some action =>
    { subscriber with
      dispatched := subscriber.dispatched ++ [(update.sequence, action)]
      state := { subscriber.state with lastSequence := update.sequence } }
  | none => subscriber

def onConnected (state : SubscriptionState) : SubscriptionState :=
  { state with connected := true, reconnectAttempts := 0 }

-- The delay before the next attempt, if there is one.
def onDisconnected (config : SubscriptionConfig) (state : SubscriptionState) :
    SubscriptionState × Option Nat :=
  let attempts := (state.reconnectAttempts + 1) % 2 ^ 32
  let delay := config.reconnectBaseMs * 2 ^ min attempts 10 % 2 ^ 64
  ({ state with connected := false, reconnectAttempts := attempts },
    if attempts > config.maxReconnectAttempts then none
    else some (min delay config.reconnectMaxMs))

def disconnect (config : SubscriptionConfig) (subscriber : Subscriber) : Subscriber :=
  match onDisconnected config subscriber.state with
  | (state, some _) => { subscriber with state := state, phase := .Subscribing }
  | (state, none) => { subscriber with state := state, phase := .Abandoned }

-- A stream ends where the server or the network cuts it, with an error or without.
inductive Event
  | Accepted
  | Refused
  | Received
  | Ended
  deriving DecidableEq

-- The loop of run, one step at a time. `serve` is what the server streams to a subscriber that
-- asks from a given number on.
def subscriberNext (config : SubscriptionConfig) (parser : PayloadParser)
    (serve : Nat → List Proto.ConfigUpdate) (subscriber : Subscriber) : Event → Option Subscriber
  | .Accepted =>
    match subscriber.phase with
    | .Subscribing =>
      some { subscriber with
        state := onConnected subscriber.state
        phase := .Streaming (serve subscriber.state.lastSequence) }
    | _ => none
  | .Refused =>
    match subscriber.phase with
    | .Subscribing => some (disconnect config subscriber)
    | _ => none
  | .Received =>
    match subscriber.phase with
    | .Streaming (update :: rest) =>
      some (processUpdate parser update { subscriber with phase := .Streaming rest })
    | _ => none
  | .Ended =>
    match subscriber.phase with
    | .Streaming _ => some (disconnect config subscriber)
    | _ => none

end Pact.Agent.Subscription
