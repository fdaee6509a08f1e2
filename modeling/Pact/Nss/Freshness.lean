import Pact.Agent.Identity
import Pact.Library.Run
import Pact.Nss

namespace Pact.Nss

open Pact.Library Pact.Common Pact.Agent.Identity

inductive PasswdLookup
  | All
  | ByUid (uid : Nat)
  | ByName (name : String)
  deriving DecidableEq

inductive GroupLookup
  | All
  | ByGid (gid : Nat)
  | ByName (name : String)
  deriving DecidableEq

def PasswdLookup.answer (entries : List PasswdEntry) : PasswdLookup → List Passwd
  | .All => PactPasswd.getAllEntries entries
  | .ByUid uid => (PactPasswd.getEntryByUid uid entries).toList
  | .ByName name => (PactPasswd.getEntryByName name entries).toList

def GroupLookup.answer (entries : List GroupDbEntry) : GroupLookup → List Group
  | .All => PactGroup.getAllEntries entries
  | .ByGid gid => (PactGroup.getEntryByGid gid entries).toList
  | .ByName name => (PactGroup.getEntryByName name entries).toList

-- The agent and how far it is with its files, the files, and the caches of one process that looks
-- names up.
structure Host where
  manager : IdentityManager
  writing : Writing
  passwdDb : Option (List JsonRecord)
  groupDb : Option (List JsonRecord)
  passwdCache : Option (List PasswdEntry)
  groupCache : Option (List GroupDbEntry)
  deriving DecidableEq

inductive HostStep
  | UpdateMap (uidMap : UidMap)
  | WriteDbFiles
  | WritePasswdDb (order : List UidEntry)
  | WriteGroupDb (order : List GroupEntry)
  | WriteFails
  | LookUpPasswd (lookup : PasswdLookup)
  | LookUpGroup (lookup : GroupLookup)
  deriving DecidableEq

namespace Host

def start (active : Bool) (passwdDb groupDb : Option (List JsonRecord)) : Host :=
  ⟨.new active, .Idle, passwdDb, groupDb, none, none⟩

def passwdEntries (host : Host) : List PasswdEntry :=
  (getPasswdEntries host.passwdDb host.passwdCache).2

def groupEntries (host : Host) : List GroupDbEntry :=
  (getGroupEntries host.groupDb host.groupCache).2

end Host

-- Lookups come at any time, also between the two files. A write that fails leaves its file as it
-- was, and with the first file it also leaves out the second.
def hostNext (host : Host) : HostStep → Option Host
  | .UpdateMap uidMap =>
    if host.writing = .Idle then
      let manager := host.manager.updateMap uidMap
      some { host with manager := manager, writing := manager.writeDbFiles }
    else none
  | .WriteDbFiles =>
    if host.writing = .Idle then some { host with writing := host.manager.writeDbFiles } else none
  | .WritePasswdDb order =>
    if host.writing = .PasswdDb ∧ order.Perm host.manager.uidMap.users.values then
      some { host with passwdDb := some (order.map userRecord), writing := .GroupDb }
    else none
  | .WriteGroupDb order =>
    if host.writing = .GroupDb ∧ order.Perm host.manager.uidMap.groups.values then
      some { host with groupDb := some (order.map groupRecord), writing := .Idle }
    else none
  | .WriteFails => if host.writing ≠ .Idle then some { host with writing := .Idle } else none
  | .LookUpPasswd _ =>
    some { host with passwdCache := (getPasswdEntries host.passwdDb host.passwdCache).1 }
  | .LookUpGroup _ =>
    some { host with groupCache := (getGroupEntries host.groupDb host.groupCache).1 }

-- Every lookup answers from what the file says now: what the last completed write left there.
structure Fresh (host : Host) : Prop where
  passwd : ∀ lookup : PasswdLookup,
    lookup.answer host.passwdEntries = lookup.answer (loadPasswd host.passwdDb)
  group : ∀ lookup : GroupLookup,
    lookup.answer host.groupEntries = lookup.answer (loadGroups host.groupDb)

-- A write completes before the process has looked into the file, or shows the entries it has
-- cached.
def ShowsCached (host : Host) : HostStep → Prop
  | .WritePasswdDb order => ∀ cached ∈ host.passwdCache,
      cached.map toPasswd = (loadPasswd (some (order.map userRecord))).map toPasswd
  | .WriteGroupDb order => ∀ cached ∈ host.groupCache,
      cached.map toGroup = (loadGroups (some (order.map groupRecord))).map toGroup
  | _ => True

instance (host : Host) (step : HostStep) : Decidable (ShowsCached host step) := by
  unfold ShowsCached
  split <;> infer_instance

section Freshness

-- Where every lookup can be made among the entries as they are shown, and one shows them all,
-- the answers agree exactly if what is shown does.
theorem answers_iff {E A Q : Type} (toShown : E → A) (answer : List E → Q → List A)
    (among : List A → Q → List A) (all : Q)
    (hall : ∀ entries, answer entries all = entries.map toShown)
    (hamong : ∀ entries lookup, answer entries lookup = among (entries.map toShown) lookup)
    (entries other : List E) :
    (∀ lookup, answer entries lookup = answer other lookup) ↔
      entries.map toShown = other.map toShown := by
  constructor
  · intro h
    rw [← hall, ← hall, h all]
  · intro h lookup
    rw [hamong, hamong, h]

theorem passwd_answers_iff (entries other : List PasswdEntry) :
    (∀ lookup : PasswdLookup, lookup.answer entries = lookup.answer other) ↔
      entries.map toPasswd = other.map toPasswd := by
  let among (shown : List Passwd) : PasswdLookup → List Passwd
    | .All => shown
    | .ByUid uid => (shown.find? fun entry => entry.uid = uid).toList
    | .ByName name => (shown.find? fun entry => entry.name = name).toList
  refine answers_iff toPasswd (fun entries lookup => lookup.answer entries) among .All
    (fun _ => rfl) ?_ entries other
  intro entries lookup
  cases lookup with
  | All => rfl
  | ByUid uid =>
    simp only [among, List.find?_map]
    rfl
  | ByName name =>
    simp only [among, List.find?_map]
    rfl

theorem group_answers_iff (entries other : List GroupDbEntry) :
    (∀ lookup : GroupLookup, lookup.answer entries = lookup.answer other) ↔
      entries.map toGroup = other.map toGroup := by
  let among (shown : List Group) : GroupLookup → List Group
    | .All => shown
    | .ByGid gid => (shown.find? fun entry => entry.gid = gid).toList
    | .ByName name => (shown.find? fun entry => entry.name = name).toList
  refine answers_iff toGroup (fun entries lookup => lookup.answer entries) among .All
    (fun _ => rfl) ?_ entries other
  intro entries lookup
  cases lookup with
  | All => rfl
  | ByGid gid =>
    simp only [among, List.find?_map]
    rfl
  | ByName name =>
    simp only [among, List.find?_map]
    rfl

theorem fresh_iff (host : Host) :
    Fresh host ↔
      host.passwdEntries.map toPasswd = (loadPasswd host.passwdDb).map toPasswd ∧
        host.groupEntries.map toGroup = (loadGroups host.groupDb).map toGroup := by
  rw [← passwd_answers_iff, ← group_answers_iff]
  exact ⟨fun h => ⟨h.passwd, h.group⟩, fun h => ⟨h.1, h.2⟩⟩

theorem cached_shows_iff {E A : Type} (toShown : E → A) (loaded : List E)
    (cache : Option (List E)) :
    (getEntries loaded cache).2.map toShown = loaded.map toShown ↔
      ∀ cached ∈ cache, cached.map toShown = loaded.map toShown := by
  cases cache with
  | none => simp [getEntries]
  | some cached => simp [getEntries]

theorem hostNext_fresh_iff (host : Host) (step : HostStep) (after : Host) (hfresh : Fresh host)
    (hnext : hostNext host step = some after) : Fresh after ↔ ShowsCached host step := by
  have hsame : after.passwdDb = host.passwdDb → after.groupDb = host.groupDb →
      after.passwdEntries = host.passwdEntries → after.groupEntries = host.groupEntries →
      Fresh after := by
    intro hpasswdDb hgroupDb hpasswd hgroup
    rw [fresh_iff] at hfresh ⊢
    rwa [hpasswdDb, hgroupDb, hpasswd, hgroup]
  obtain ⟨hpasswd, hgroup⟩ := (fresh_iff host).mp hfresh
  cases step with
  | WritePasswdDb order =>
    simp only [hostNext, Option.ite_none_right_eq_some, Option.some.injEq] at hnext
    obtain ⟨_, rfl⟩ := hnext
    exact (fresh_iff _).trans
      ((and_iff_left hgroup).trans (cached_shows_iff toPasswd _ host.passwdCache))
  | WriteGroupDb order =>
    simp only [hostNext, Option.ite_none_right_eq_some, Option.some.injEq] at hnext
    obtain ⟨_, rfl⟩ := hnext
    exact (fresh_iff _).trans
      ((and_iff_right hpasswd).trans (cached_shows_iff toGroup _ host.groupCache))
  | LookUpPasswd =>
    cases hnext
    exact iff_of_true (hsame rfl rfl rfl rfl) trivial
  | LookUpGroup =>
    cases hnext
    exact iff_of_true (hsame rfl rfl rfl rfl) trivial
  | _ =>
    simp only [hostNext, Option.ite_none_right_eq_some, Option.some.injEq] at hnext
    obtain ⟨_, rfl⟩ := hnext
    exact iff_of_true (hsame rfl rfl rfl rfl) trivial

theorem lookups_fresh_iff (active : Bool) (passwdDb groupDb : Option (List JsonRecord))
    (steps : List HostStep) (last : Host)
    (run : Run hostNext Unrestricted (.start active passwdDb groupDb) steps last) :
    (∀ before rest host, steps = before ++ rest →
      Run hostNext Unrestricted (.start active passwdDb groupDb) before host → Fresh host) ↔
    Run hostNext ShowsCached (.start active passwdDb groupDb) steps last :=
  run.always_iff Fresh hostNext_fresh_iff ⟨fun _ => rfl, fun _ => rfl⟩

end Freshness

def localUser : UidEntry := ⟨"alice@local", 10000, 10000, "alice", "/home/alice", "/bin/bash", "local"⟩

def oneUser : UidMap := { UidMap.new with users := Map.empty.insert "alice@local" localUser }

def writtenFirst : List HostStep :=
  [.UpdateMap oneUser, .WritePasswdDb [localUser], .WriteGroupDb [],
    .LookUpPasswd (.ByName "alice"), .WriteDbFiles, .WritePasswdDb [localUser], .WriteFails]

theorem lookups_fresh_written_first :
    (∃ last, Run hostNext Unrestricted (.start true none none) writtenFirst last) ∧
    ∀ before rest host, writtenFirst = before ++ rest →
      Run hostNext Unrestricted (.start true none none) before host → Fresh host := by
  obtain ⟨last, hrun⟩ := exists_run_of_execWhere hostNext ShowsCached (.start true none none)
    writtenFirst (by decide +kernel)
  exact ⟨⟨last, hrun.unrestricted⟩,
    (lookups_fresh_iff true none none writtenFirst last hrun.unrestricted).mpr hrun⟩

-- The first lookup comes before the file exists, and the process never looks into it again.
theorem lookup_before_file_stale :
    ∃ host, exec hostNext (.start true none none)
        [.LookUpPasswd (.ByName "alice"), .UpdateMap oneUser, .WritePasswdDb [localUser]] =
        some host ∧
      (PasswdLookup.ByName "alice").answer (loadPasswd host.passwdDb) =
        [⟨"alice", "x", 10000, 10000, "alice@local", "/home/alice", "/bin/bash"⟩] ∧
      (PasswdLookup.ByName "alice").answer host.passwdEntries = [] := by
  refine ⟨_, rfl, ?_, ?_⟩ <;> decide +kernel

end Pact.Nss
