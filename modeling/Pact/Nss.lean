import Pact.Library.JsonRecord

namespace Pact.Nss

open Pact.Library

-- The records that the module reads from passwd.db and group.db.
structure PasswdEntry where
  subject : String
  uid : Nat
  gid : Nat
  username : String
  home : String
  shell : String
  org : String
  deriving DecidableEq

structure GroupDbEntry where
  name : String
  gid : Nat
  members : List String
  deriving DecidableEq

structure Passwd where
  name : String
  passwd : String
  uid : Nat
  gid : Nat
  gecos : String
  dir : String
  shell : String
  deriving DecidableEq

structure Group where
  name : String
  passwd : String
  gid : Nat
  members : List String
  deriving DecidableEq

def PasswdEntry.fromRecord (record : JsonRecord) : Option PasswdEntry := do
  let subject ← record.text "subject"
  let uid ← record.number "uid"
  let gid ← record.number "gid"
  let username ← record.text "username"
  let home ← record.text "home"
  let shell ← record.text "shell"
  let org ← record.text "org"
  some ⟨subject, uid, gid, username, home, shell, org⟩

def GroupDbEntry.fromRecord (record : JsonRecord) : Option GroupDbEntry := do
  let name ← record.text "name"
  let gid ← record.number "gid"
  let members ← record.texts "members"
  some ⟨name, gid, members⟩

-- A file that does not exist or cannot be read as a whole counts as an empty one.
def load {E : Type} (fromRecord : JsonRecord → Option E) (file : Option (List JsonRecord)) : List E :=
  match file with
  | some document => (document.mapM fromRecord).getD []
  | none => []

def loadPasswd : Option (List JsonRecord) → List PasswdEntry := load PasswdEntry.fromRecord

def loadGroups : Option (List JsonRecord) → List GroupDbEntry := load GroupDbEntry.fromRecord

-- The cache is filled from the file where it has nothing yet, and then gives the entries.
def getEntries {E : Type} (loaded : List E) (cache : Option (List E)) : Option (List E) × List E :=
  let entries := cache.getD loaded
  (some entries, entries)

def getPasswdEntries (file : Option (List JsonRecord)) (cache : Option (List PasswdEntry)) :
    Option (List PasswdEntry) × List PasswdEntry :=
  getEntries (loadPasswd file) cache

def getGroupEntries (file : Option (List JsonRecord)) (cache : Option (List GroupDbEntry)) :
    Option (List GroupDbEntry) × List GroupDbEntry :=
  getEntries (loadGroups file) cache

def toPasswd (entry : PasswdEntry) : Passwd where
  name := entry.username
  passwd := "x"
  uid := entry.uid
  gid := entry.gid
  gecos := entry.subject
  dir := entry.home
  shell := entry.shell

def toGroup (entry : GroupDbEntry) : Group where
  name := entry.name
  passwd := "x"
  gid := entry.gid
  members := entry.members

namespace PactPasswd

def getAllEntries (entries : List PasswdEntry) : List Passwd := entries.map toPasswd

def getEntryByUid (uid : Nat) (entries : List PasswdEntry) : Option Passwd :=
  (entries.find? fun entry => entry.uid = uid).map toPasswd

def getEntryByName (name : String) (entries : List PasswdEntry) : Option Passwd :=
  (entries.find? fun entry => entry.username = name).map toPasswd

end PactPasswd

namespace PactGroup

def getAllEntries (entries : List GroupDbEntry) : List Group := entries.map toGroup

def getEntryByGid (gid : Nat) (entries : List GroupDbEntry) : Option Group :=
  (entries.find? fun entry => entry.gid = gid).map toGroup

def getEntryByName (name : String) (entries : List GroupDbEntry) : Option Group :=
  (entries.find? fun entry => entry.name = name).map toGroup

end PactGroup

end Pact.Nss
