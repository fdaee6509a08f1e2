import Pact.Agent.Boot
import Pact.Cli.Apply

namespace Pact.Agent.Boot

open Pact.Library Pact.Common Pact.Journal

def encodedMount (fsType source options : String) : String :=
  fsType ++ ":" ++ source ++ " (" ++ options ++ ")"

-- What both writers of the text may be given.
structure PlainMount (fsType source options : String) : Prop where
  nonempty : fsType ≠ ""
  colon : ':' ∉ fsType.toList
  parenthesis : '(' ∉ fsType.toList
  space : ∀ c ∈ fsType.toList, isWhitespace c = false
  source : Trimmed source
  options : Trimmed options

section MountValues

variable (fsType source options : String)

theorem trim_parsed_options (hoptions : Trimmed options) :
    trim (trimEndMatches (options ++ ")") ')') = options ↔ options.toList.getLast? ≠ some ')' := by
  have happended : trimEndMatches (options ++ ")") ')' = trimEndMatches options ')' :=
    trimEndMatches_append_self options ')'
  rw [happended]
  constructor
  · intro htrim hlast
    have hshorter := length_trimEndMatches_lt options ')' hlast
    have htrimmed := length_trim_le (trimEndMatches options ')')
    rw [htrim] at htrimmed
    omega
  · intro hlast
    rw [trimEndMatches_eq_self options ')' hlast, trim_eq_self options hoptions]

theorem PlainMount.trimmed_fsType (hplain : PlainMount fsType source options) : Trimmed fsType :=
  ⟨fun c hc => hplain.space c (List.mem_of_mem_head? hc),
    fun c hc => hplain.space c (List.mem_of_mem_getLast? hc)⟩

theorem PlainMount.trimmed_main (hplain : PlainMount fsType source options) :
    Trimmed (fsType ++ ":" ++ source) := by
  have hchars : (fsType ++ ":" ++ source).toList = fsType.toList ++ [':'] ++ source.toList := by
    rw [String.toList_append, String.toList_append]
    rfl
  obtain ⟨first, hfirst⟩ : ∃ first, fsType.toList.head? = some first := by
    refine ⟨_, List.head?_eq_some_head (fun hnil => hplain.nonempty ?_)⟩
    exact String.toList_inj.mp hnil
  refine ⟨?_, ?_⟩
  · intro c hc
    rw [hchars, List.head?_append, List.head?_append, hfirst, Option.some_or, Option.some_or,
      Option.mem_some_iff] at hc
    rw [← hc]
    exact hplain.space first (List.mem_of_mem_head? hfirst)
  · intro c hc
    rw [hchars, List.getLast?_append, List.getLast?_concat, Option.mem_def,
      Option.or_eq_some_iff] at hc
    rcases hc with hsource | ⟨_, hcolon⟩
    · exact hplain.source.2 c hsource
    · rw [← Option.some.inj hcolon]
      decide

theorem parse_of_not_mem (hplain : PlainMount fsType source options)
    (hsource : '(' ∉ source.toList) :
    parseMountValue (encodedMount fsType source options) =
      (fsType, source, trim (trimEndMatches (options ++ ")") ')')) := by
  have hcut : encodedMount fsType source options =
      fsType ++ ":" ++ source ++ " " ++ String.singleton '(' ++ (options ++ ")") := by
    simp [encodedMount, ← String.toList_inj, String.toList_append]
  have hhead : '(' ∉ (fsType ++ ":" ++ source ++ " ").toList := by
    simp [String.toList_append, hplain.parenthesis, hsource]
  have hmain : trim (fsType ++ ":" ++ source ++ " ") = fsType ++ ":" ++ source := by
    refine trim_append_space _ ' ' (hplain.trimmed_main) ?_ (by decide)
    intro hempty
    have hlength := congrArg (fun text => text.toList.length) hempty
    simp [String.toList_append] at hlength
  have hcolon : splitOnce (fsType ++ ":" ++ source) ':' = some (fsType, source) :=
    splitOnce_append fsType source ':' hplain.colon
  simp only [parseMountValue, hcut, splitOnce_append _ _ _ hhead, hmain, hcolon,
    trim_eq_self fsType hplain.trimmed_fsType, trim_eq_self source hplain.source]

-- The type and the source come out of what stands in front of the first parenthesis, with a colon
-- between them.
theorem parse_length_le (value main rest : String) (hsplit : splitOnce value '(' = some (main, rest))
    (hsource : (parseMountValue value).2.1 ≠ "") :
    (parseMountValue value).1.toList.length + 1 + (parseMountValue value).2.1.toList.length ≤
      main.toList.length := by
  have htrimmed := length_trim_le main
  by_cases hcolon : ':' ∈ (trim main).toList
  · obtain ⟨head, behind, hmain, hhead⟩ := exists_first (trim main) ':' hcolon
    have hparts : splitOnce (trim main) ':' = some (head, behind) := by
      rw [hmain]
      exact splitOnce_append head behind ':' hhead
    have hlength : (trim main).toList.length = head.toList.length + 1 + behind.toList.length := by
      rw [hmain, String.toList_append, String.toList_append, String.toList_singleton,
        List.length_append, List.length_append, List.length_singleton]
    simp only [parseMountValue, hsplit, hparts]
    have htype := length_trim_le head
    have hbehind := length_trim_le behind
    omega
  · simp only [parseMountValue, hsplit, splitOnce_eq_none _ _ hcolon, ne_eq, not_true] at hsource

theorem parse_of_mem (hplain : PlainMount fsType source options) (hsource : '(' ∈ source.toList) :
    parseMountValue (encodedMount fsType source options) ≠ (fsType, source, options) := by
  intro hparsed
  obtain ⟨before, after, hcut, hbefore⟩ := exists_first source '(' hsource
  have hfront : '(' ∉ (fsType ++ ":" ++ before).toList := by
    simp [String.toList_append, hplain.parenthesis, hbefore]
  have hsplit : splitOnce (encodedMount fsType source options) '(' =
      some (fsType ++ ":" ++ before, after ++ " (" ++ options ++ ")") := by
    rw [← splitOnce_append _ _ '(' hfront, encodedMount, hcut]
    simp only [String.append_assoc]
  have hlength := parse_length_le _ _ _ hsplit
  have hsourceLength := congrArg (fun text => text.toList.length) hcut
  have hnonempty : source ≠ "" := by
    rintro rfl
    simp at hsource
  rw [hparsed] at hlength
  simp only [String.toList_append, List.length_append, String.toList_singleton,
    List.length_singleton] at hlength hsourceLength
  have hcolon : ":".toList.length = 1 := rfl
  have := hlength hnonempty
  omega

theorem parse_encodedMount_iff (hplain : PlainMount fsType source options) :
    parseMountValue (encodedMount fsType source options) = (fsType, source, options) ↔
      '(' ∉ source.toList ∧ options.toList.getLast? ≠ some ')' := by
  by_cases hsource : '(' ∈ source.toList
  · exact iff_of_false (parse_of_mem fsType source options hplain hsource) fun h => h.1 hsource
  · rw [parse_of_not_mem fsType source options hplain hsource, and_iff_right hsource,
      ← trim_parsed_options options hplain.options]
    simp only [Prod.mk.injEq, true_and]

-- The command line and the journal write the same text.
theorem mount_value_round_trip_iff (readOnly : Bool) (hplain : PlainMount fsType source options) :
    (parseMountValue (Cli.mountValue ⟨fsType, source, options⟩) = (fsType, source, options) ↔
      '(' ∉ source.toList ∧ options.toList.getLast? ≠ some ')') ∧
    (parseMountValue (ConfigService.mountText ⟨fsType, source, options, readOnly⟩) =
        (fsType, source, options) ↔
      '(' ∉ source.toList ∧ options.toList.getLast? ≠ some ')') :=
  ⟨parse_encodedMount_iff fsType source options hplain,
    parse_encodedMount_iff fsType source options hplain⟩

end MountValues

theorem plain_nfs : PlainMount "nfs" "server:/export" "ro,hard" := by
  constructor <;> simp [Trimmed, isWhitespace]

theorem mount_value_round_trip_nfs :
    parseMountValue (Cli.mountValue ⟨"nfs", "server:/export", "ro,hard"⟩) =
      ("nfs", "server:/export", "ro,hard") :=
  (mount_value_round_trip_iff _ _ _ false plain_nfs).1.mpr (by decide +kernel)

-- A label in parentheses is taken for the options, and options that end in a parenthesis lose it.
theorem mount_value_cut :
    PlainMount "ext4" "/dev/disk (old)" "ro" ∧
    parseMountValue (Cli.mountValue ⟨"ext4", "/dev/disk (old)", "ro"⟩) =
      ("ext4", "/dev/disk", "old) (ro") ∧
    PlainMount "nfs" "server:/export" "context(a)" ∧
    parseMountValue (Cli.mountValue ⟨"nfs", "server:/export", "context(a)"⟩) =
      ("nfs", "server:/export", "context(a") := by
  refine ⟨?_, ?_, ?_, ?_⟩
  · constructor <;> simp [Trimmed, isWhitespace]
  · decide +kernel
  · constructor <;> simp [Trimmed, isWhitespace]
  · decide +kernel

end Pact.Agent.Boot
