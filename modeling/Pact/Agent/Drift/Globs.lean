import Pact.Agent.Drift

namespace Pact.Agent.Drift

open Pact.Library

-- What the patterns mean in terms of the segments of a path.
@[mk_iff]
inductive GlobMatches : String → String → Prop
  | Below (dir path : String) (hpath : path = dir ∨ ∃ rest, path = dir ++ "/" ++ rest) :
      GlobMatches (dir ++ "/**") path
  | Child (dir segment : String) (hsegment : segment ≠ "") (hslash : '/' ∉ segment.toList) :
      GlobMatches (dir ++ "/*") (dir ++ "/" ++ segment)
  | Exact (pattern : String) (hbelow : ∀ dir, pattern ≠ dir ++ "/**")
      (hchild : ∀ dir, pattern ≠ dir ++ "/*") : GlobMatches pattern pattern

-- The match returns, and its answer is the one that the segments give.
def FollowsSegments (pattern path : String) : Prop :=
  ∃ answer, matchesGlob pattern path = some answer ∧ (answer = true ↔ GlobMatches pattern path)

-- Where the path carries the text in front of the stars: for two stars a segment ends there, and
-- for one star a character of one byte comes next, with a slash somewhere behind it or a slash
-- itself with something behind it.
structure CutAtSegments (pattern path : String) : Prop where
  below : ∀ dir rest, pattern = dir ++ "/**" → path = dir ++ rest →
    rest = "" ∨ ∃ behind, rest = "/" ++ behind
  child : ∀ dir rest, pattern = dir ++ "/*" → path = dir ++ rest →
    ∃ c behind, rest = String.singleton c ++ behind ∧ c.utf8Size = 1 ∧
      ('/' ∈ behind.toList ∨ c = '/' ∧ behind ≠ "")

section Globs

variable (dir path : String)

theorem append_stars_ne (other : String) : dir ++ "/**" ≠ other ++ "/*" := by
  intro h
  have hlast := congrArg (fun text => text.toList.reverse) h
  simp [String.toList_append] at hlast

theorem stripSuffix_stars : stripSuffix (dir ++ "/*") "/**" = none := by
  rw [Option.eq_none_iff_forall_ne_some]
  intro other hother
  exact append_stars_ne other dir ((stripSuffix_eq_some_iff _ _ _).mp hother).symm

theorem matchesGlob_below : matchesGlob (dir ++ "/**") path = some (startsWith path dir) := by
  have hstrip : stripSuffix (dir ++ "/**") "/**" = some dir :=
    (stripSuffix_eq_some_iff _ _ _).mpr rfl
  simp only [matchesGlob, hstrip]

theorem matchesGlob_child_of_not (h : startsWith path dir = false) :
    matchesGlob (dir ++ "/*") path = some false := by
  have hstrip : stripSuffix (dir ++ "/*") "/*" = some dir :=
    (stripSuffix_eq_some_iff _ _ _).mpr rfl
  simp only [matchesGlob, stripSuffix_stars, hstrip, h, Bool.false_eq_true, if_false]

theorem matchesGlob_child (rest : String) :
    matchesGlob (dir ++ "/*") (dir ++ rest) =
      (sliceFrom rest 1).bind fun behind => some (!behind.toList.contains '/') := by
  have hstrip : stripSuffix (dir ++ "/*") "/*" = some dir :=
    (stripSuffix_eq_some_iff _ _ _).mpr rfl
  simp only [matchesGlob, stripSuffix_stars, hstrip, startsWith_append, if_true,
    sliceFrom_append, Option.bind_eq_bind, Option.bind_some]

theorem matchesGlob_exact (pattern : String) (hbelow : ∀ dir, pattern ≠ dir ++ "/**")
    (hchild : ∀ dir, pattern ≠ dir ++ "/*") :
    matchesGlob pattern path = some (decide (pattern = path)) := by
  have hnone : ∀ tail, (∀ dir, pattern ≠ dir ++ tail) → stripSuffix pattern tail = none := by
    intro tail htail
    rw [Option.eq_none_iff_forall_ne_some]
    intro head hhead
    exact htail head ((stripSuffix_eq_some_iff _ _ _).mp hhead)
  simp only [matchesGlob, hnone _ hbelow, hnone _ hchild]

theorem globMatches_below_iff :
    GlobMatches (dir ++ "/**") path ↔ path = dir ∨ ∃ rest, path = dir ++ "/" ++ rest := by
  refine ⟨?_, .Below dir path⟩
  intro h
  rw [globMatches_iff] at h
  rcases h with ⟨other, hpath, hpattern⟩ | ⟨other, segment, _, _, hpattern, _⟩ | ⟨hbelow, _⟩
  · rwa [(String.append_left_inj _).mp hpattern]
  · exact absurd hpattern (append_stars_ne dir other)
  · exact absurd rfl (hbelow dir)

theorem globMatches_child_iff :
    GlobMatches (dir ++ "/*") path ↔
      ∃ segment, segment ≠ "" ∧ '/' ∉ segment.toList ∧ path = dir ++ "/" ++ segment := by
  constructor
  · intro h
    rw [globMatches_iff] at h
    rcases h with ⟨other, _, hpattern⟩ | ⟨other, segment, hsegment, hslash, hpattern, hpath⟩ |
      ⟨_, hchild, _⟩
    · exact absurd hpattern.symm (append_stars_ne other dir)
    · obtain rfl := (String.append_left_inj _).mp hpattern
      exact ⟨segment, hsegment, hslash, hpath⟩
    · exact absurd rfl (hchild dir)
  · rintro ⟨segment, hsegment, hslash, rfl⟩
    exact .Child dir segment hsegment hslash

theorem globMatches_exact_iff (pattern : String) (hbelow : ∀ dir, pattern ≠ dir ++ "/**")
    (hchild : ∀ dir, pattern ≠ dir ++ "/*") : GlobMatches pattern path ↔ pattern = path := by
  constructor
  · intro h
    rw [globMatches_iff] at h
    rcases h with ⟨dir, _, hpattern⟩ | ⟨dir, segment, _, _, hpattern, _⟩ | ⟨_, _, hpath⟩
    · exact absurd hpattern (hbelow dir)
    · exact absurd hpattern (hchild dir)
    · exact hpath.symm
  · rintro rfl
    exact .Exact pattern hbelow hchild

theorem follows_below_iff :
    FollowsSegments (dir ++ "/**") path ↔
      ∀ rest, path = dir ++ rest → rest = "" ∨ ∃ behind, rest = "/" ++ behind := by
  simp only [FollowsSegments, matchesGlob_below, Option.some.injEq, exists_eq_left',
    globMatches_below_iff, startsWith_iff]
  constructor
  · rintro h rest rfl
    rcases h.mp ⟨rest, rfl⟩ with hdir | ⟨behind, hbehind⟩
    · exact .inl (by simpa using hdir)
    · rw [String.append_assoc, String.append_right_inj] at hbehind
      exact .inr ⟨behind, hbehind⟩
  · intro h
    constructor
    · rintro ⟨rest, rfl⟩
      rcases h rest rfl with rfl | ⟨behind, rfl⟩
      · exact .inl String.append_empty
      · exact .inr ⟨behind, String.append_assoc.symm⟩
    · rintro (rfl | ⟨rest, rfl⟩)
      · exact ⟨"", String.append_empty.symm⟩
      · exact ⟨"/" ++ rest, String.append_assoc⟩

theorem globMatches_child_append_iff (c : Char) (behind : String) :
    GlobMatches (dir ++ "/*") (dir ++ (String.singleton c ++ behind)) ↔
      c = '/' ∧ behind ≠ "" ∧ '/' ∉ behind.toList := by
  have hcons : ∀ segment, String.singleton c ++ behind = "/" ++ segment ↔
      c = '/' ∧ behind = segment := by
    intro segment
    simp [← String.toList_inj, String.toList_append]
  simp only [globMatches_child_iff, String.append_assoc, String.append_right_inj, hcons]
  constructor
  · rintro ⟨segment, hsegment, hslash, hc, rfl⟩
    exact ⟨hc, hsegment, hslash⟩
  · rintro ⟨hc, hsegment, hslash⟩
    exact ⟨behind, hsegment, hslash, hc, rfl⟩

theorem follows_child_append_iff (rest : String) :
    FollowsSegments (dir ++ "/*") (dir ++ rest) ↔
      ∃ c behind, rest = String.singleton c ++ behind ∧ c.utf8Size = 1 ∧
        ('/' ∈ behind.toList ∨ c = '/' ∧ behind ≠ "") := by
  simp only [FollowsSegments, matchesGlob_child, Option.bind_eq_some_iff,
    sliceFrom_one_eq_some_iff, Option.some.injEq]
  constructor
  · rintro ⟨_, ⟨behind, ⟨c, hsize, rfl⟩, rfl⟩, hanswer⟩
    rw [globMatches_child_append_iff, Bool.not_eq_true', Bool.eq_false_iff, ne_eq,
      List.contains_iff_mem] at hanswer
    exact ⟨c, behind, rfl, hsize, by tauto⟩
  · rintro ⟨c, behind, rfl, hsize, hcut⟩
    refine ⟨_, ⟨behind, ⟨c, hsize, rfl⟩, rfl⟩, ?_⟩
    rw [globMatches_child_append_iff, Bool.not_eq_true', Bool.eq_false_iff, ne_eq,
      List.contains_iff_mem]
    tauto

theorem follows_child_iff :
    FollowsSegments (dir ++ "/*") path ↔
      ∀ rest, path = dir ++ rest →
        ∃ c behind, rest = String.singleton c ++ behind ∧ c.utf8Size = 1 ∧
          ('/' ∈ behind.toList ∨ c = '/' ∧ behind ≠ "") := by
  cases hstarts : startsWith path dir with
  | true =>
    obtain ⟨rest, rfl⟩ := (startsWith_iff path dir).mp hstarts
    rw [follows_child_append_iff]
    constructor
    · intro h other hother
      rwa [← (String.append_right_inj dir).mp hother]
    · exact fun h => h rest rfl
  | false =>
    have hnone : ∀ rest, path ≠ dir ++ rest := fun rest => (append_ne dir rest path hstarts).symm
    refine iff_of_true ⟨false, matchesGlob_child_of_not dir path hstarts, ?_⟩
      fun rest hrest => absurd hrest (hnone rest)
    rw [globMatches_child_iff]
    refine iff_of_false Bool.false_ne_true ?_
    rintro ⟨segment, _, _, hpath⟩
    exact hnone ("/" ++ segment) (hpath.trans String.append_assoc)

theorem cut_below_iff :
    CutAtSegments (dir ++ "/**") path ↔
      ∀ rest, path = dir ++ rest → rest = "" ∨ ∃ behind, rest = "/" ++ behind := by
  constructor
  · exact fun h rest hpath => h.below dir rest rfl hpath
  · intro h
    refine ⟨?_, fun other rest hpattern => absurd hpattern (append_stars_ne dir other)⟩
    intro other rest hpattern hpath
    rw [← (String.append_left_inj _).mp hpattern] at hpath
    exact h rest hpath

theorem cut_child_iff :
    CutAtSegments (dir ++ "/*") path ↔
      ∀ rest, path = dir ++ rest →
        ∃ c behind, rest = String.singleton c ++ behind ∧ c.utf8Size = 1 ∧
          ('/' ∈ behind.toList ∨ c = '/' ∧ behind ≠ "") := by
  constructor
  · exact fun h rest hpath => h.child dir rest rfl hpath
  · intro h
    refine ⟨fun other rest hpattern => absurd hpattern.symm (append_stars_ne other dir), ?_⟩
    intro other rest hpattern hpath
    rw [← (String.append_left_inj _).mp hpattern] at hpath
    exact h rest hpath

end Globs

theorem globs_follow_segments_iff (pattern path : String) :
    FollowsSegments pattern path ↔ CutAtSegments pattern path := by
  by_cases hbelow : ∃ dir, pattern = dir ++ "/**"
  · obtain ⟨dir, rfl⟩ := hbelow
    rw [follows_below_iff, cut_below_iff]
  · by_cases hchild : ∃ dir, pattern = dir ++ "/*"
    · obtain ⟨dir, rfl⟩ := hchild
      rw [follows_child_iff, cut_child_iff]
    · rw [not_exists] at hbelow hchild
      refine iff_of_true ⟨decide (pattern = path), matchesGlob_exact path pattern hbelow hchild, ?_⟩
        ⟨fun dir rest hpattern => absurd hpattern (hbelow dir),
          fun dir rest hpattern => absurd hpattern (hchild dir)⟩
      rw [globMatches_exact_iff path pattern hbelow hchild, decide_eq_true_eq]

-- A file beside the directory counts as below it, and the directory with a slash behind it as one
-- of its own children. The directory itself stops the match with a panic, and so does a name that
-- goes on with a character of more than one byte.
theorem glob_misses_segments :
    (matchesGlob "/tmp/**" "/tmpfile" = some true ∧ ¬FollowsSegments "/tmp/**" "/tmpfile") ∧
    (matchesGlob "/run/*" "/run/" = some true ∧ ¬FollowsSegments "/run/*" "/run/") ∧
    matchesGlob "/run/*" "/run" = none ∧ matchesGlob "/run/*" "/runä" = none := by
  have hbelow : ¬FollowsSegments ("/tmp" ++ "/**") "/tmpfile" := by
    rw [follows_below_iff]
    intro h
    rcases h "file" rfl with hempty | ⟨behind, hbehind⟩
    · exact absurd hempty (by decide)
    · simp [← String.toList_inj, String.toList_append] at hbehind
  have hchild : ¬FollowsSegments ("/run" ++ "/*") ("/run" ++ "/") := by
    rw [follows_child_append_iff]
    rintro ⟨c, behind, hrest, _, hcut⟩
    have hbehind : behind = "" := by
      have hchars := congrArg String.toList hrest
      rw [String.toList_append, String.toList_singleton] at hchars
      exact String.toList_inj.mp (List.cons.inj hchars).2.symm
    subst hbehind
    simp at hcut
  exact ⟨⟨by decide +kernel, hbelow⟩, ⟨by decide +kernel, hchild⟩, by decide +kernel,
    by decide +kernel⟩

end Pact.Agent.Drift
