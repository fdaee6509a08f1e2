import Pact.Library.Text

namespace Pact.Library.Path

-- A segment that leads somewhere.
def named (segment : String) : Bool := segment ≠ "" ∧ segment ≠ "."

def enter (segments : List String) (segment : String) : List String :=
  if segment = ".." then segments.dropLast else segments ++ [segment]

-- What a path means lexically: the segments from the root on, where empty ones and single dots
-- are passed over and two dots lead back.
def normalForm (path : String) : List String :=
  ((split path '/').filter named).foldl enter []

def render (segments : List String) : String := "/" ++ join "/" segments

def Plain (segments : List String) : Prop :=
  ∀ segment ∈ segments, segment ≠ "" ∧ '/' ∉ segment.toList

theorem foldl_enter_plain (parts segments : List String) (hparts : Plain parts)
    (hsegments : Plain segments) : Plain (parts.foldl enter segments) := by
  induction parts generalizing segments with
  | nil => exact hsegments
  | cons part parts ih =>
    obtain ⟨hpart, hparts⟩ := List.forall_mem_cons.mp hparts
    refine ih (enter segments part) hparts ?_
    intro segment hsegment
    unfold enter at hsegment
    split at hsegment
    · exact hsegments segment (List.dropLast_subset _ hsegment)
    · rcases List.mem_append.mp hsegment with hmem | hmem
      · exact hsegments segment hmem
      · rwa [List.mem_singleton.mp hmem]

theorem normalForm_plain (path : String) : Plain (normalForm path) := by
  refine foldl_enter_plain _ [] ?_ nofun
  intro part hpart
  obtain ⟨hsplit, hnamed⟩ := List.mem_filter.mp hpart
  simp only [named, decide_eq_true_eq] at hnamed
  exact ⟨hnamed.1, not_mem_of_mem_split '/' path part hsplit⟩

theorem foldl_enter_append (parts start : List String) :
    ∃ before, parts.foldl enter start = before ++ parts.foldl enter [] := by
  induction parts using List.reverseRecOn with
  | nil => exact ⟨start, by simp⟩
  | append_singleton parts part ih =>
    obtain ⟨before, h⟩ := ih
    simp only [List.foldl_append, List.foldl_cons, List.foldl_nil, h, enter]
    split
    case isTrue =>
      by_cases hnil : parts.foldl enter [] = []
      · exact ⟨before.dropLast, by simp [hnil]⟩
      · exact ⟨before, List.dropLast_append_of_ne_nil hnil⟩
    case isFalse => exact ⟨before, List.append_assoc _ _ _⟩

theorem normalForm_append (head path : String) (h : startsWith path "/" = true) :
    ∃ before, normalForm (head ++ path) = before ++ normalForm path := by
  obtain ⟨rest, rfl⟩ := (startsWith_iff _ _).mp h
  obtain ⟨before, hbefore⟩ := foldl_enter_append ((split rest '/').filter named) (normalForm head)
  have hpath : split ("/" ++ rest) '/' = "" :: split rest '/' := split_append "" rest '/' (by simp)
  have hwhole : split (head ++ ("/" ++ rest)) '/' = split head '/' ++ split rest '/' := by
    rw [← String.append_assoc]
    exact split_append_singleton '/' head rest
  refine ⟨before, ?_⟩
  rw [normalForm, hwhole, List.filter_append, List.foldl_append, normalForm, hpath,
    List.filter_cons_of_neg (by decide)]
  exact hbefore

theorem split_render (segments : List String) (h : Plain segments) :
    split (render segments) '/' = "" :: if segments = [] then [""] else segments := by
  have hslash : split (render segments) '/' = "" :: split (join "/" segments) '/' :=
    split_append "" (join "/" segments) '/' (by simp)
  rw [hslash]
  split
  case isTrue hnil => rw [hnil]; rfl
  case isFalse hne =>
    have hback := split_join '/' segments hne fun segment hsegment => (h segment hsegment).2
    exact congrArg _ hback

section Render

variable (segments parts : List String) (final : String)

-- The text of a path has that of another one within it exactly if the segments of the other,
-- the last of which may go on, are among its own, one after the other.
theorem contains_render_iff (hsegments : Plain segments) (hparts : Plain parts)
    (hfinal : '/' ∉ final.toList) (hne : parts ≠ []) :
    contains (render segments) (render (parts ++ [final])) = true ↔
      ∃ before segment after, segments = before ++ (parts ++ segment :: after) ∧
        startsWith segment final = true := by
  have hiff := contains_join_iff '/' (render segments) parts final
    (fun part hpart => (hparts part hpart).2) hfinal
  refine hiff.trans ?_
  rw [split_render segments hsegments]
  obtain ⟨part, others, rfl⟩ := List.exists_cons_of_ne_nil hne
  have hpart : part ≠ "" := (hparts part List.mem_cons_self).1
  constructor
  · rintro ⟨before, segment, after, hbefore, hsplit, hsegment⟩
    obtain ⟨root, before, rfl⟩ := List.exists_cons_of_ne_nil hbefore
    obtain ⟨_, hrest⟩ := List.cons.inj hsplit
    refine ⟨before, segment, after, ?_, hsegment⟩
    split at hrest
    case isTrue =>
      cases before with
      | nil => exact absurd (List.cons.inj hrest).1.symm hpart
      | cons _ before => simp at hrest
    case isFalse => exact hrest
  · rintro ⟨before, segment, after, rfl, hsegment⟩
    refine ⟨"" :: before, segment, after, by simp, ?_, hsegment⟩
    rw [if_neg (by simp)]
    rfl

theorem startsWith_render_iff (hsegments : Plain segments) (hparts : Plain parts)
    (hfinal : '/' ∉ final.toList) (hne : final ≠ "") :
    startsWith (render segments) (render (parts ++ [final])) = true ↔
      ∃ segment after, segments = parts ++ segment :: after ∧ startsWith segment final = true := by
  have hrender : render (parts ++ [final]) = join "/" (("" :: parts) ++ [final]) := by
    rw [List.cons_append, join_cons _ _ _ (by simp)]
    rfl
  have hiff := startsWith_join_iff '/' (render segments) ("" :: parts) final
    (List.forall_mem_cons.mpr ⟨by simp, fun part hpart => (hparts part hpart).2⟩) hfinal
  rw [hrender]
  refine hiff.trans ?_
  rw [split_render segments hsegments]
  constructor
  · rintro ⟨segment, after, hsplit, hsegment⟩
    obtain ⟨_, hrest⟩ := List.cons.inj hsplit
    refine ⟨segment, after, ?_, hsegment⟩
    split at hrest
    case isTrue =>
      cases parts with
      | nil =>
        obtain ⟨rfl, _⟩ := List.cons.inj hrest
        obtain ⟨rest, hrest⟩ := (startsWith_iff _ _).mp hsegment
        exact absurd (String.append_eq_empty_iff.mp hrest.symm).1 hne
      | cons part parts => simp at hrest
    case isFalse => exact hrest
  · rintro ⟨segment, after, rfl, hsegment⟩
    refine ⟨segment, after, ?_, hsegment⟩
    rw [if_neg (by simp)]
    rfl

end Render

end Pact.Library.Path
