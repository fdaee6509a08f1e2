import Pact.Journal.State.Lemmas
import Pact.Library.Sequence

namespace Pact.Journal

open Pact.Library Pact.Common

def recordedBy : JournalCommand → Option AdminOperation
  | .RecordOperation operation => some operation
  | _ => none

-- The operations that a run records, in the order of its commands.
def recorded (commands : List Applied) : List AdminOperation :=
  commands.filterMap fun applied => recordedBy applied.command

theorem recorded_cons (applied : Applied) (rest : List Applied) :
    recorded (applied :: rest) = (recordedBy applied.command).toList ++ recorded rest := by
  cases hcmd : recordedBy applied.command with
  | none => exact List.filterMap_cons_none hcmd
  | some operation => exact List.filterMap_cons_some hcmd

theorem recordedBy_eq_some (cmd : JournalCommand) (operation : AdminOperation)
    (h : recordedBy cmd = some operation) : cmd = .RecordOperation operation := by
  cases cmd with
  | RecordOperation other => rw [Option.some.inj h]
  | _ => cases h

theorem capLog_eq_rtake (bound : Nat) (log : List AdminOperation) :
    capLog bound log = log.rtake bound := by
  rw [capLog]
  split_ifs with hover
  · rfl
  · rw [rtake_of_length_le log bound (Nat.not_lt.mp hover)]

theorem apply_auditLog_kept (platform : Platform) (now : DateTime) (s : JournalState)
    (cmd : JournalCommand) (h : recordedBy cmd = none) :
    (apply platform now s cmd).1.auditLog = s.auditLog := by
  have houtcome := apply_outcome platform now s cmd
  generalize apply platform now s cmd = result at houtcome ⊢
  cases houtcome with
  | Recorded operation => cases h
  | _ => rfl

theorem apply_auditLog (platform : Platform) (now : DateTime) (s : JournalState)
    (cmd : JournalCommand) (earlier : List AdminOperation)
    (h : s.auditLog = earlier.rtake auditLogMax) :
    (apply platform now s cmd).1.auditLog =
      (earlier ++ (recordedBy cmd).toList).rtake auditLogMax := by
  cases hcmd : recordedBy cmd with
  | none =>
    rw [apply_auditLog_kept platform now s cmd hcmd, h, Option.toList_none, List.append_nil]
  | some operation =>
    obtain rfl := recordedBy_eq_some cmd operation hcmd
    rw [apply, recordOperation, capLog_eq_rtake, h, rtake_rtake_append, Option.toList_some]

theorem replay_auditLog (platform : Platform) (s : JournalState) (commands : List Applied)
    (earlier : List AdminOperation) (h : s.auditLog = earlier.rtake auditLogMax) :
    (replay platform s commands).1.auditLog =
      (earlier ++ recorded commands).rtake auditLogMax := by
  induction commands generalizing s earlier with
  | nil => rw [replay, recorded, List.filterMap_nil, List.append_nil, h]
  | cons applied rest ih =>
    have hstep := apply_auditLog platform applied.now s applied.command earlier h
    rw [replay_cons, ih _ _ hstep, recorded_cons, List.append_assoc]

-- After any run the audit log is the latest part of what the run recorded, up to its bound, and
-- only the command that records an operation changes it.
theorem audit_log_latest_suffix (platform : Platform) (commands : List Applied) :
    (replay platform .default commands).1.auditLog =
        (recorded commands).rtake (min (recorded commands).length 100000) ∧
      ∀ now s cmd, (apply platform now s cmd).1.auditLog = s.auditLog ∨
        ∃ operation, cmd = .RecordOperation operation := by
  refine ⟨?_, ?_⟩
  · have hlog := replay_auditLog platform .default commands [] (List.rtake_nil _).symm
    rw [hlog, List.nil_append, rtake_min_length, auditLogMax]
  · intro now s cmd
    cases hcmd : recordedBy cmd with
    | none => exact .inl (apply_auditLog_kept platform now s cmd hcmd)
    | some operation => exact .inr ⟨operation, recordedBy_eq_some cmd operation hcmd⟩

end Pact.Journal
