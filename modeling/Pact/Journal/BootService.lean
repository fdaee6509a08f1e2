import Pact.Common.Proto
import Pact.Journal.State
import Pact.Library.Sequence

namespace Pact.Journal.BootService

open Pact.Library Pact.Common

def protoTimestamp (time : DateTime) : Proto.Timestamp :=
  ⟨time / 1000000000, time % 1000000000⟩

-- The message that tells a subscriber about an entry, in the catch-up and in a notification.
def configUpdate (platform : Platform) (sequence : Nat) (entry : ConfigEntry) :
    Proto.ConfigUpdate where
  sequence := sequence
  timestamp := some (protoTimestamp entry.timestamp)
  update := some (.VclusterChange (platform.entryToJson entry))

def catchUp (platform : Platform) (s : JournalState) (fromSequence : Nat) :
    List Proto.ConfigUpdate :=
  (s.entries.toList.filter fun stored => fromSequence ≤ stored.1).map fun stored =>
    configUpdate platform stored.1 stored.2

-- With nothing to catch up on, the number before the first one asked for; there is none before
-- zero, and zero itself is taken.
def lastCaughtUp (fromSequence : Nat) (catchup : List Proto.ConfigUpdate) : Nat :=
  match catchup.getLast? with
  | some update => update.sequence
  | none => fromSequence - 1

-- The task behind an open stream. `outbox` is what it has in hand to send, `receiver` what it
-- has not read of the broadcast channel. Once the channel has dropped something, the next read
-- says so.
structure Stream where
  outbox : List Proto.ConfigUpdate
  receiver : List Proto.ConfigUpdate
  lagged : Bool
  lastSent : Nat
  deriving DecidableEq

-- The steps of subscribe_config_updates: it reads the catch-up under the lock, then subscribes
-- to the channel, and from then on the task runs.
inductive Subscription
  | Requested
  | CaughtUp (catchup : List Proto.ConfigUpdate)
  | Open (stream : Stream)
  | Closed
  deriving DecidableEq

-- One subscription beside the journal. `pending` are the entries whose append_entry call has
-- still to notify.
structure Feed where
  journal : JournalState
  pending : List Nat
  subscription : Subscription
  delivered : List Proto.ConfigUpdate
  deriving DecidableEq

def Feed.requested (journal : JournalState) : Feed := ⟨journal, [], .Requested, []⟩

-- An append comes from a call of this server, which notifies later, or from elsewhere in the
-- cluster. A call may also be dropped before it notifies.
inductive FeedStep
  | Apply (now : DateTime) (cmd : JournalCommand) (here : Bool)
  | Notify (sequence : Nat)
  | Abandon (sequence : Nat)
  | CatchUp
  | Subscribe
  | Send (connected : Bool)
  | Receive
  | Shutdown
  deriving DecidableEq

def Stream.notify (capacity : Nat) (update : Proto.ConfigUpdate) (stream : Stream) : Stream :=
  if stream.receiver.length < capacity then
    { stream with receiver := stream.receiver ++ [update] }
  else { stream with receiver := stream.receiver.tail ++ [update], lagged := true }

def Subscription.notify (capacity : Nat) (update : Proto.ConfigUpdate) : Subscription → Subscription
  | .Open stream => .Open (stream.notify capacity update)
  | subscription => subscription

-- The task has read an update: what is not newer than the last one sent is skipped.
def Stream.take (update : Proto.ConfigUpdate) (rest : List Proto.ConfigUpdate) (stream : Stream) :
    Stream :=
  if update.sequence ≤ stream.lastSent then { stream with receiver := rest }
  else { stream with outbox := [update], receiver := rest, lastSent := update.sequence }

def Feed.send (feed : Feed) (connected : Bool) : Option Feed :=
  match feed.subscription with
  | .Open stream =>
    match stream.outbox with
    | update :: rest =>
      if connected then
        some { feed with
          subscription := .Open { stream with outbox := rest }
          delivered := feed.delivered ++ [update] }
      else some { feed with subscription := .Closed }
    | [] => none
  | _ => none

def Feed.receive (feed : Feed) : Option Feed :=
  match feed.subscription with
  | .Open stream =>
    if stream.outbox = [] then
      if stream.lagged then some { feed with subscription := .Closed }
      else
        match stream.receiver with
        | update :: rest => some { feed with subscription := .Open (stream.take update rest) }
        | [] => none
    else none
  | _ => none

def feedNext (platform : Platform) (capacity fromSequence : Nat) (feed : Feed) :
    FeedStep → Option Feed
  | .Apply now cmd here =>
    match apply platform now feed.journal cmd with
    | (journal, .EntryAppended sequence) =>
      some { feed with
        journal := journal
        pending := if here then feed.pending ++ [sequence] else feed.pending }
    | (journal, _) => some { feed with journal := journal }
  | .Notify sequence =>
    if sequence ∈ feed.pending then
      match feed.journal.entries.get sequence with
      | some entry =>
        some { feed with
          pending := feed.pending.erase sequence
          subscription :=
            feed.subscription.notify capacity (configUpdate platform sequence entry) }
      | none => some { feed with pending := feed.pending.erase sequence }
    else none
  | .Abandon sequence =>
    if sequence ∈ feed.pending then some { feed with pending := feed.pending.erase sequence }
    else none
  | .CatchUp =>
    match feed.subscription with
    | .Requested =>
      some { feed with subscription := .CaughtUp (catchUp platform feed.journal fromSequence) }
    | _ => none
  | .Subscribe =>
    match feed.subscription with
    | .CaughtUp catchup =>
      some { feed with
        subscription := .Open ⟨catchup, [], false, lastCaughtUp fromSequence catchup⟩ }
    | _ => none
  | .Send connected => feed.send connected
  | .Receive => feed.receive
  | .Shutdown =>
    match feed.subscription with
    | .Open stream =>
      if stream.outbox = [] ∧ stream.receiver = [] then some { feed with subscription := .Closed }
      else none
    | _ => none

end Pact.Journal.BootService
