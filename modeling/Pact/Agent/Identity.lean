import Pact.Common.UidMap
import Pact.Library.JsonRecord

namespace Pact.Agent.Identity

open Pact.Library Pact.Common

def userRecord (entry : UidEntry) : JsonRecord :=
  [("subject", .Text entry.subject), ("uid", .Number entry.uid), ("gid", .Number entry.gid),
    ("username", .Text entry.username), ("home", .Text entry.home), ("shell", .Text entry.shell),
    ("org", .Text entry.org)]

def groupRecord (entry : GroupEntry) : JsonRecord :=
  [("name", .Text entry.name), ("gid", .Number entry.gid), ("members", .Texts entry.members)]

structure IdentityManager where
  uidMap : UidMap
  active : Bool
  deriving DecidableEq

-- What write_db_files does next, and whether it is under way at all. Each file is replaced at
-- once, by a rename.
inductive Writing
  | Idle
  | PasswdDb
  | GroupDb
  deriving DecidableEq

namespace IdentityManager

def new (active : Bool) : IdentityManager := ⟨.new, active⟩

def updateMap (uidMap : UidMap) (manager : IdentityManager) : IdentityManager :=
  { manager with uidMap := uidMap }

def writeDbFiles (manager : IdentityManager) : Writing := if manager.active then .PasswdDb else .Idle

-- The users are written in whatever order the map has them.
def IsPasswdDb (manager : IdentityManager) (document : List JsonRecord) : Prop :=
  ∃ order : List UidEntry, order.Perm manager.uidMap.users.values ∧ document = order.map userRecord

end IdentityManager

end Pact.Agent.Identity
