import Pact.Library.Map
import Pact.Library.Trace

namespace Pact.Common

open Pact.Library

structure UidEntry where
  subject : String
  uid : Nat
  gid : Nat
  username : String
  home : String
  shell : String
  org : String
  deriving DecidableEq

structure GroupEntry where
  name : String
  gid : Nat
  members : List String
  deriving DecidableEq

structure OrgIndex where
  org : String
  index : Nat
  deriving DecidableEq

inductive PactError
  | OrgNotRegistered (org : String)
  | UidRangeExhausted (org : String) (stride assigned : Nat)
  deriving DecidableEq

structure UidMap where
  users : Map String UidEntry
  groups : Map String GroupEntry
  orgIndices : List OrgIndex
  baseUid : Nat
  baseGid : Nat
  stride : Nat
  nextUidOffset : Map String Nat
  deriving DecidableEq

namespace UidMap

def empty (baseUid baseGid stride : Nat) : UidMap :=
  ⟨.empty, .empty, [], baseUid, baseGid, stride, .empty⟩

def new : UidMap := .empty 10000 10000 10000

def precursor (base stride orgIndex : Nat) : Nat := (base + orgIndex * stride % 2 ^ 32) % 2 ^ 32

def uidPrecursor (orgIndex : Nat) (map : UidMap) : Nat := precursor map.baseUid map.stride orgIndex

def gidPrecursor (orgIndex : Nat) (map : UidMap) : Nat := precursor map.baseGid map.stride orgIndex

def orgIndex (org : String) (map : UidMap) : Option Nat :=
  (map.orgIndices.find? fun registered => registered.org = org).map OrgIndex.index

def offset (org : String) (map : UidMap) : Nat := (map.nextUidOffset.get org).getD 0

def newEntry (subject username org home shell : String) (index : Nat) (map : UidMap) : UidEntry where
  subject := subject
  uid := (map.uidPrecursor index + map.offset org) % 2 ^ 32
  gid := (map.gidPrecursor index + map.offset org) % 2 ^ 32
  username := username
  home := home
  shell := shell
  org := org

-- A subject that is known already keeps its entry, whatever the organisation named now.
def assignUid (subject username org home shell : String) (map : UidMap) :
    UidMap × Except PactError UidEntry :=
  match map.users.get subject with
  | some existing => (map, .ok existing)
  | none =>
    match map.orgIndex org with
    | none => (map, .error (.OrgNotRegistered org))
    | some index =>
      if map.offset org ≥ map.stride then
        (map, .error (.UidRangeExhausted org map.stride (map.offset org)))
      else
        let entry := map.newEntry subject username org home shell index
        ({ map with
            users := map.users.insert subject entry
            nextUidOffset := map.nextUidOffset.insert org (map.offset org + 1) }, .ok entry)

-- The group members are looked up among the users that are left, so none is dropped.
def gcOrg (org : String) (map : UidMap) : UidMap :=
  let users := map.users.filter fun _ entry => entry.org ≠ org
  { map with
    users := users
    groups := map.groups.mapValues fun group =>
      { group with
        members := group.members.filter fun member =>
          ¬users.values.any fun user => user.username = member ∧ user.org = org }
    nextUidOffset := map.nextUidOffset.erase org
    orgIndices := map.orgIndices.filter fun registered => registered.org ≠ org }

def getByUid (uid : Nat) (map : UidMap) : Option UidEntry :=
  map.users.values.find? fun entry => entry.uid = uid

def getByUsername (username : String) (map : UidMap) : Option UidEntry :=
  map.users.values.find? fun entry => entry.username = username

end UidMap

inductive UidStep
  | Join (org : String) (index : Nat)
  | AssignUid (subject username org home shell : String)
  | GcOrg (org : String)
  deriving DecidableEq

-- An organisation joins under a new name with an index that is free, if its ranges fit into u32.
def uidNext (map : UidMap) : UidStep → Option UidMap
  | .Join org index =>
    if (∀ registered ∈ map.orgIndices, registered.org ≠ org ∧ registered.index ≠ index) ∧
        map.baseUid + (index + 1) * map.stride < 2 ^ 32 ∧
        map.baseGid + (index + 1) * map.stride < 2 ^ 32 then
      some { map with orgIndices := map.orgIndices ++ [⟨org, index⟩] }
    else none
  | .AssignUid subject username org home shell =>
    some (map.assignUid subject username org home shell).1
  | .GcOrg org => some (map.gcOrg org)

end Pact.Common
