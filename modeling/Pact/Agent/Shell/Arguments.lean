import Pact.Library.Path
import Pact.Agent.Shell.Whitelist

namespace Pact.Agent.Shell

open Pact.Library Pact.Library.Path WhitelistManager

theorem resolve_eq (components parts : List String) :
    (resolve components parts).reverse = (parts.filter named).foldl enter components.reverse := by
  induction parts generalizing components with
  | nil => rfl
  | cons part parts ih =>
    unfold resolve
    split
    case isTrue hback =>
      rw [ih, hback, List.filter_cons_of_pos (by decide), List.foldl_cons, enter, if_pos rfl,
        List.dropLast_reverse]
    case isFalse hback =>
      split
      case isTrue hpassed =>
        have hnamed : named part = false := by
          rcases hpassed with rfl | rfl <;> decide
        rw [ih, List.filter_cons_of_neg (by simp [hnamed])]
      case isFalse hpassed =>
        have hnamed : named part = true := by
          simp only [named, decide_eq_true_eq]
          exact ⟨fun hempty => hpassed (.inr hempty), fun hdot => hpassed (.inl hdot)⟩
        rw [ih, List.filter_cons_of_pos hnamed, List.foldl_cons, enter, if_neg hback,
          List.reverse_cons]

theorem normalize_eq_render (arg : String) : normalize arg = render (normalForm arg) := by
  unfold WhitelistManager.normalize
  rw [resolve_eq]
  rfl

-- The path and what the last of its segments starts with, for each text that is blocked.
def blockedSegments : List (List String × String) :=
  [(["etc"], "shadow"), (["etc"], "gshadow"), (["etc"], "master.passwd"), (["root"], ""),
    ([".ssh"], ""), (["etc", "ssl", "private"], ""), (["etc", "pact", "ca"], ""),
    (["run", "pact", "ca"], "")]

def sensitiveSegments : List (List String × String) :=
  [(["etc"], "shadow"), (["etc"], "gshadow"), ([], "root")]

theorem blockedPaths_eq :
    blockedPaths = blockedSegments.map fun blocked => render (blocked.1 ++ [blocked.2]) := by
  decide +kernel

theorem sensitivePrefixes_eq :
    sensitivePrefixes = sensitiveSegments.map fun blocked => render (blocked.1 ++ [blocked.2]) := by
  decide +kernel

def Within (blocked : List String × String) (segments : List String) : Prop :=
  ∃ before segment after, segments = before ++ (blocked.1 ++ segment :: after) ∧
    startsWith segment blocked.2 = true

def Heads (blocked : List String × String) (segments : List String) : Prop :=
  ∃ segment after, segments = blocked.1 ++ segment :: after ∧ startsWith segment blocked.2 = true

def Caught (command : String) (segments : List String) : Prop :=
  (∃ blocked ∈ blockedSegments, Within blocked segments) ∨
  (command ∈ fileReaders ∧ ∃ blocked ∈ sensitiveSegments, Heads blocked segments)

def Screened (command arg : String) : Prop :=
  (startsWith arg "/" = true ∨ contains arg ".." = true) ∧ Caught command (normalForm arg)

theorem isBlocked_iff (normalized blocked : String) :
    isBlocked normalized blocked = true ↔ contains normalized blocked = true := by
  simp only [isBlocked, decide_eq_true_eq]
  constructor
  · rintro (rfl | hstart | hwithin)
    · exact (contains_iff _ _).mpr ⟨"", "", by simp⟩
    · obtain ⟨rest, rfl⟩ := (startsWith_iff _ _).mp hstart
      exact (contains_iff _ _).mpr ⟨"", rest, by simp⟩
    · exact hwithin
  · intro hwithin
    exact .inr (.inr hwithin)

theorem any_isBlocked_iff (arg : String) :
    blockedPaths.any (isBlocked (normalize arg)) = true ↔
      ∃ blocked ∈ blockedSegments, Within blocked (normalForm arg) := by
  have hshape : ∀ blocked ∈ blockedSegments,
      (∀ part ∈ blocked.1, part ≠ "" ∧ '/' ∉ part.toList) ∧ '/' ∉ blocked.2.toList ∧
        blocked.1 ≠ [] := by
    simp [blockedSegments]
  rw [blockedPaths_eq, List.any_map, List.any_eq_true]
  refine exists_congr fun blocked => and_congr_right fun hblocked => ?_
  obtain ⟨hparts, hfinal, hne⟩ := hshape blocked hblocked
  rw [Function.comp_apply, isBlocked_iff, normalize_eq_render,
    contains_render_iff _ _ _ (normalForm_plain arg) hparts hfinal hne]
  rfl

theorem any_startsWith_iff (arg : String) :
    sensitivePrefixes.any (startsWith (normalize arg)) = true ↔
      ∃ blocked ∈ sensitiveSegments, Heads blocked (normalForm arg) := by
  have hshape : ∀ blocked ∈ sensitiveSegments,
      (∀ part ∈ blocked.1, part ≠ "" ∧ '/' ∉ part.toList) ∧ '/' ∉ blocked.2.toList ∧
        blocked.2 ≠ "" := by
    simp [sensitiveSegments]
  rw [sensitivePrefixes_eq, List.any_map, List.any_eq_true]
  refine exists_congr fun blocked => and_congr_right fun hblocked => ?_
  obtain ⟨hparts, hfinal, hne⟩ := hshape blocked hblocked
  rw [Function.comp_apply, normalize_eq_render,
    startsWith_render_iff _ _ _ (normalForm_plain arg) hparts hfinal hne]
  rfl

theorem argRejection_isSome_iff (command arg : String) :
    (argRejection command arg).isSome ↔ Screened command arg := by
  have hpath : isPathArgument arg = true ↔ startsWith arg "/" = true ∨ contains arg ".." = true := by
    simp only [isPathArgument, decide_eq_true_eq]
  unfold argRejection Screened Caught
  rw [← hpath, ← any_isBlocked_iff, ← any_startsWith_iff]
  cases isPathArgument arg with
  | false => simp
  | true =>
    simp only [Bool.true_eq_false, if_false, true_and]
    split
    case isTrue hblocked => simp [hblocked]
    case isFalse hblocked =>
      split
      case isTrue hreader => simp [hreader]
      case isFalse hreader => simp only [hblocked, hreader, or_self, Option.isSome_none,
        Bool.false_eq_true]

theorem validateArgs_ok_iff (command : String) (args : List String) :
    validateArgs command args = .ok () ↔ ∀ arg ∈ args, ¬Screened command arg := by
  induction args with
  | nil => simp [validateArgs]
  | cons arg args ih =>
    rw [List.forall_mem_cons, ← ih, ← argRejection_isSome_iff, validateArgs]
    cases argRejection command arg with
    | none => simp
    | some reason => simp

theorem validateArgs_error_iff (command : String) (args : List String) :
    (∃ reason, validateArgs command args = .error reason) ↔ ∃ arg ∈ args, Screened command arg := by
  have hok := validateArgs_ok_iff command args
  cases hverdict : validateArgs command args with
  | ok _ =>
    rw [hverdict] at hok
    have hnone := hok.mp rfl
    simp only [reduceCtorEq, exists_false, false_iff, not_exists, not_and]
    exact hnone
  | error reason =>
    rw [hverdict] at hok
    simp only [reduceCtorEq, false_iff, not_forall, not_not] at hok
    obtain ⟨arg, harg, hscreened⟩ := hok
    exact ⟨fun _ => ⟨arg, harg, hscreened⟩, fun _ => ⟨reason, rfl⟩⟩

section RealPath

def SamePath (arg other : String) : Prop :=
  arg = other ∨
  (startsWith arg "/" = true ∧ startsWith other "/" = true ∧ normalForm arg = normalForm other)

theorem screened_congr (command arg other : String) (h : SamePath arg other) :
    Screened command arg ↔ Screened command other := by
  rcases h with rfl | ⟨harg, hother, hform⟩
  · exact Iff.rfl
  · rw [Screened, Screened, harg, hother, hform]
    simp

-- The verdict on a list is that on each of its arguments, and two ways to write one path get the
-- same one.
theorem validateArgs_real_path (command : String) (args others : List String)
    (h : List.Forall₂ SamePath args others) :
    (validateArgs command args = .ok () ↔ validateArgs command others = .ok ()) ∧
    (validateArgs command args = .ok () ↔ ∀ arg ∈ args, validateArgs command [arg] = .ok ()) := by
  constructor
  · induction h with
    | nil => exact Iff.rfl
    | cons hsame _ ih =>
      rw [validateArgs_ok_iff, validateArgs_ok_iff] at ih ⊢
      rw [List.forall_mem_cons, List.forall_mem_cons, ih, screened_congr command _ _ hsame]
  · simp only [validateArgs_ok_iff, List.mem_singleton, forall_eq]

theorem validateArgs_real_path_written_twice :
    (validateArgs "cat" ["-n", "/var/../etc//./shadow"] = .ok () ↔
      validateArgs "cat" ["-n", "/etc/shadow"] = .ok ()) ∧
    (validateArgs "cat" ["-n", "/var/../etc//./shadow"] = .ok () ↔
      ∀ arg ∈ ["-n", "/var/../etc//./shadow"], validateArgs "cat" [arg] = .ok ()) := by
  refine validateArgs_real_path _ _ _ (.cons (.inl rfl) (.cons (.inr ?_) .nil))
  decide

end RealPath

section Sensitive

def blockedFiles : List (List String) :=
  [["etc", "shadow"], ["etc", "gshadow"], ["etc", "master.passwd"]]

def blockedDirectories : List (List String) :=
  [["root"], ["etc", "ssl", "private"], ["etc", "pact", "ca"], ["run", "pact", "ca"]]

-- A directory for keys is blocked wherever it is.
def Sensitive (segments : List String) : Prop :=
  segments ∈ blockedFiles ∨ (∃ directory ∈ blockedDirectories, directory <+: segments) ∨
  ".ssh" ∈ segments

def BlockedDirectory (segments : List String) : Prop :=
  segments ∈ blockedDirectories ∨ segments.getLast? = some ".ssh"

-- The path that an argument stands for, by itself or as the value of an option.
def Denotes (arg : String) (segments : List String) : Prop :=
  (startsWith arg "/" = true ∧ normalForm arg = segments) ∨
  (∃ flag path, arg = "--" ++ flag ++ "=" ++ path ∧ '=' ∉ flag.toList ∧
    startsWith path "/" = true ∧ normalForm path = segments)

theorem caught_of_file (command : String) (before segments : List String)
    (h : segments ∈ blockedFiles) : Caught command (before ++ segments) := by
  have hfile : ∀ file ∈ blockedFiles, ∃ blocked ∈ blockedSegments,
      file = blocked.1 ++ [blocked.2] := by
    simp [blockedFiles, blockedSegments]
  obtain ⟨blocked, hblocked, rfl⟩ := hfile segments h
  exact .inl ⟨blocked, hblocked, before, blocked.2, [], rfl, by simp [startsWith]⟩

theorem caught_beneath (command : String) (before directory after : List String) (segment : String)
    (h : (directory, "") ∈ blockedSegments) :
    Caught command (before ++ (directory ++ segment :: after)) :=
  .inl ⟨_, h, before, segment, after, rfl, by simp [startsWith]⟩

theorem caught_of_sensitive (command : String) (before segments : List String)
    (h : Sensitive segments) (hnot : ¬BlockedDirectory segments) :
    Caught command (before ++ segments) := by
  rcases h with hfile | ⟨directory, hdirectory, rest, rfl⟩ | hkeys
  · exact caught_of_file command before segments hfile
  · have hblocked : ∀ directory ∈ blockedDirectories, (directory, "") ∈ blockedSegments := by
      simp [blockedDirectories, blockedSegments]
    cases rest with
    | nil =>
      rw [List.append_nil] at hnot
      exact absurd (.inl hdirectory) hnot
    | cons segment after =>
      exact caught_beneath command before directory after segment (hblocked directory hdirectory)
  · obtain ⟨above, after, rfl⟩ := List.append_of_mem hkeys
    cases after with
    | nil => exact absurd (.inr (by simp)) hnot
    | cons segment after =>
      rw [← List.append_assoc]
      exact caught_beneath command (before ++ above) [".ssh"] after segment
        (by simp [blockedSegments])

-- An option is no absolute path, and its segments end with those of its value.
theorem normalForm_of_denotes (arg : String) (segments : List String) (h : Denotes arg segments) :
    (startsWith arg "/" = true ∧ normalForm arg = segments) ∨
      startsWith arg "/" = false ∧ ∃ before, normalForm arg = before ++ segments := by
  rcases h with h | ⟨flag, path, rfl, _, habsolute, rfl⟩
  · exact .inl h
  · refine .inr ⟨?_, normalForm_append _ path habsolute⟩
    rw [String.append_assoc, String.append_assoc]
    exact startsWith_append_eq_false "--" "/" _ (by decide) (by decide)

-- An argument for a sensitive path has every list refused exactly if it is looked at, so starts
-- with a slash or has two dots, and the checks find the path in it. In an absolute one they look
-- for the path itself, in an option for what its two dots leave of the option and then the path.
-- They find all but the blocked directories themselves, and of these /root in what reads files.
theorem sensitive_path_rejected_iff (command arg : String) (segments : List String)
    (hdenotes : Denotes arg segments) (hsensitive : Sensitive segments) :
    ((∀ args, arg ∈ args → ∃ reason, validateArgs command args = .error reason) ↔
      Screened command arg) ∧
    (startsWith arg "/" = true → (Screened command arg ↔ Caught command segments)) ∧
    (startsWith arg "/" = false → ∃ before, normalForm arg = before ++ segments ∧
      (Screened command arg ↔ contains arg ".." = true ∧ Caught command (before ++ segments))) ∧
    (¬BlockedDirectory segments → ∀ before, Caught command (before ++ segments)) ∧
    (command ∈ fileReaders → segments = ["root"] → Caught command segments) := by
  have hforms := normalForm_of_denotes arg segments hdenotes
  refine ⟨?_, ?_, ?_, fun hnot before => caught_of_sensitive command before segments hsensitive hnot,
    ?_⟩
  · simp only [validateArgs_error_iff]
    constructor
    · intro hrejected
      obtain ⟨other, hother, hscreened⟩ := hrejected [arg] List.mem_cons_self
      rwa [List.mem_singleton.mp hother] at hscreened
    · intro hscreened args harg
      exact ⟨arg, harg, hscreened⟩
  · intro habsolute
    rcases hforms with ⟨_, hform⟩ | ⟨hoption, _⟩
    · simp [Screened, habsolute, hform]
    · rw [hoption] at habsolute
      cases habsolute
  · intro hoption
    rcases hforms with ⟨habsolute, _⟩ | ⟨_, before, hform⟩
    · rw [hoption] at habsolute
      cases habsolute
    · exact ⟨before, hform, by simp [Screened, hoption, hform]⟩
  · rintro hreader rfl
    exact .inr ⟨hreader, ([], "root"), by simp [sensitiveSegments], "root", [], rfl, by decide⟩

theorem sensitive_path_rejected_shadow :
    Denotes "/etc/../etc/shadow" ["etc", "shadow"] ∧ Sensitive ["etc", "shadow"] ∧
    ∀ args, "/etc/../etc/shadow" ∈ args → ∃ reason, validateArgs "ls" args = .error reason := by
  have hdenotes : Denotes "/etc/../etc/shadow" ["etc", "shadow"] := .inl (by decide)
  have hsensitive : Sensitive ["etc", "shadow"] := .inl (by simp [blockedFiles])
  obtain ⟨hiff, habsolute, _, hcaught, _⟩ := sensitive_path_rejected_iff "ls" "/etc/../etc/shadow"
    ["etc", "shadow"] hdenotes hsensitive
  have hnot : ¬BlockedDirectory ["etc", "shadow"] := by
    simp [BlockedDirectory, blockedDirectories]
  exact ⟨hdenotes, hsensitive, hiff.mpr ((habsolute (by decide)).mpr (hcaught hnot []))⟩

-- The value of an option is not looked at, and a blocked directory has no slash behind it.
theorem sensitive_paths_accepted :
    validateArgs "grep" ["root", "--file=/etc/shadow"] = .ok () ∧
      Denotes "--file=/etc/shadow" ["etc", "shadow"] ∧ Sensitive ["etc", "shadow"] ∧
    validateArgs "ls" ["/root"] = .ok () ∧ Denotes "/root" ["root"] ∧ Sensitive ["root"] ∧
    validateArgs "cat" ["/home/alice/.ssh"] = .ok () ∧
      Denotes "/home/alice/.ssh" ["home", "alice", ".ssh"] ∧
      Sensitive ["home", "alice", ".ssh"] := by
  refine ⟨by decide +kernel, .inr ⟨"file", "/etc/shadow", by decide +kernel⟩,
    .inl (by decide +kernel), by decide +kernel, .inl (by decide +kernel), .inr (.inl ?_),
    by decide +kernel, .inl (by decide +kernel), .inr (.inr (by decide +kernel))⟩
  exact ⟨["root"], by decide +kernel, [], rfl⟩

end Sensitive

end Pact.Agent.Shell
