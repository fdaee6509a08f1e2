import Pact.Library.Padding

namespace Pact.Agent.Capability

open Pact.Library

-- The processors of one part of the list. A part that is not understood has none, and neither has
-- a range whose end lies before its start.
def cpulistPart (part : String) : List Nat :=
  if trim part = "" then []
  else
    match splitOnce (trim part) '-' with
    | some (start, finish) =>
      match parseUnsigned 32 (trim start), parseUnsigned 32 (trim finish) with
      | some start, some finish => List.range' start (finish + 1 - start)
      | _, _ => []
    | none => (parseUnsigned 32 (trim part)).toList

def parseCpulist (content : String) : List Nat :=
  if trim content = "" then []
  else (split (trim content) ',').foldl (fun cpus part => cpus ++ cpulistPart part) []

structure CpuRange where
  first : Nat
  last : Nat
  ordered : first ≤ last
  bounded : last < 2 ^ 32

def CpuRange.members (range : CpuRange) : List Nat :=
  List.range' range.first (range.last + 1 - range.first)

-- A range is printed with both its ends, one of a single processor also as that number alone.
def CpuRange.Printed (range : CpuRange) (part : String) : Prop :=
  Padded part (toString range.first ++ "-" ++ toString range.last) ∨
    (range.first = range.last ∧ Padded part (toString range.first))

-- White space may stand around the whole and around each of its parts.
def CpulistForm (ranges : List CpuRange) (text : String) : Prop :=
  ∃ parts, List.Forall₂ CpuRange.Printed ranges parts ∧ Padded text (join "," parts)

theorem trimmed_range (first last : Nat) : Trimmed (toString first ++ "-" ++ toString last) :=
  (trimmed_toString first).append _ _ _ (trimmed_toString last) (toString_ne_empty first)
    (toString_ne_empty last)

theorem CpuRange.mem_members_iff (range : CpuRange) (cpu : Nat) :
    cpu ∈ range.members ↔ range.first ≤ cpu ∧ cpu ≤ range.last := by
  have hordered := range.ordered
  rw [CpuRange.members, List.mem_range'_1]
  omega

theorem cpulistPart_trim (part : String) : cpulistPart (trim part) = cpulistPart part := by
  rw [cpulistPart, trim_trim, cpulistPart]

theorem cpulistPart_of_padded (part core : String) (h : Padded part core) (hcore : Trimmed core) :
    cpulistPart part = cpulistPart core := by
  rw [← cpulistPart_trim part, h.trim_eq, trim_eq_self core hcore]

theorem cpulistPart_printed (range : CpuRange) (part : String) (h : range.Printed part) :
    cpulistPart part = range.members := by
  have hbounded := range.bounded
  have hordered := range.ordered
  have hfirst : parseUnsigned 32 (toString range.first) = some range.first :=
    parseUnsigned_toString 32 range.first (by omega)
  have hlast : parseUnsigned 32 (toString range.last) = some range.last :=
    parseUnsigned_toString 32 range.last hbounded
  have hdash : '-' ∉ (toString range.first).toList := not_mem_toString range.first '-' rfl
  rcases h with hboth | ⟨hsingle, hone⟩
  · have htrimmed := trimmed_range range.first range.last
    have hne : toString range.first ++ "-" ++ toString range.last ≠ "" := by simp
    have hsplit : splitOnce (toString range.first ++ "-" ++ toString range.last) '-' =
        some (toString range.first, toString range.last) :=
      splitOnce_append (toString range.first) (toString range.last) '-' hdash
    rw [cpulistPart_of_padded part _ hboth htrimmed, cpulistPart, trim_eq_self _ htrimmed,
      if_neg hne, hsplit]
    simp only [trim_eq_self _ (trimmed_toString _), hfirst, hlast, CpuRange.members]
  · have htrimmed := trimmed_toString range.first
    have hsplit : splitOnce (toString range.first) '-' = none := splitOnce_eq_none _ '-' hdash
    have hcount : range.last + 1 - range.first = 1 := by omega
    rw [cpulistPart_of_padded part _ hone htrimmed, cpulistPart, trim_eq_self _ htrimmed,
      if_neg (toString_ne_empty _), hsplit]
    simp only [hfirst, Option.toList_some, CpuRange.members, hcount, List.range'_one]

theorem CpuRange.Printed.not_mem_comma (range : CpuRange) (part : String)
    (h : range.Printed part) : ',' ∉ part.toList := by
  have hfirst : ',' ∉ (toString range.first).toList := not_mem_toString range.first ',' rfl
  have hlast : ',' ∉ (toString range.last).toList := not_mem_toString range.last ',' rfl
  rcases h with hboth | ⟨-, hone⟩
  · refine hboth.not_mem _ _ ',' rfl ?_
    simp only [String.toList_append, List.mem_append, not_or]
    exact ⟨⟨hfirst, by decide⟩, hlast⟩
  · exact hone.not_mem _ _ ',' rfl hfirst

theorem printed_parts (ranges : List CpuRange) (parts : List String)
    (h : List.Forall₂ CpuRange.Printed ranges parts) :
    parts.flatMap cpulistPart = ranges.flatMap CpuRange.members ∧
      ∀ part ∈ parts, ',' ∉ part.toList := by
  induction h with
  | nil => exact ⟨rfl, fun part hpart => absurd hpart List.not_mem_nil⟩
  | cons hpart _ ih =>
    refine ⟨?_, List.forall_mem_cons.mpr ⟨hpart.not_mem_comma, ih.2⟩⟩
    rw [List.flatMap_cons, List.flatMap_cons, ih.1, cpulistPart_printed _ _ hpart]

theorem flatMap_cpulistPart_trim (parts : List String) :
    (parts.map trim).flatMap cpulistPart = parts.flatMap cpulistPart := by
  simp only [List.flatMap_map, cpulistPart_trim]

theorem flatMap_cpulistPart_padded (text core : String) (h : Padded text core) :
    (split text ',').flatMap cpulistPart = (split core ',').flatMap cpulistPart := by
  rw [← flatMap_cpulistPart_trim, h.map_trim_split ',' rfl, flatMap_cpulistPart_trim]

theorem parseCpulist_eq (content : String) :
    parseCpulist content = (split content ',').flatMap cpulistPart := by
  rw [flatMap_cpulistPart_padded content _ (padded_trim content), parseCpulist]
  split_ifs with hempty
  · rw [hempty]
    rfl
  · rw [List.foldl_append_eq_append, List.nil_append, List.flatMap_def]

theorem parseCpulist_form (ranges : List CpuRange) (text : String) (h : CpulistForm ranges text) :
    parseCpulist text = ranges.flatMap CpuRange.members := by
  obtain ⟨parts, hprinted, hpadded⟩ := h
  obtain ⟨hmembers, hcomma⟩ := printed_parts ranges parts hprinted
  rw [parseCpulist_eq, flatMap_cpulistPart_padded text _ hpadded]
  cases parts with
  | nil =>
    cases hprinted
    rfl
  | cons part rest =>
    have hsplit : split (join "," (part :: rest)) ',' = part :: rest :=
      split_join ',' _ (List.cons_ne_nil part rest) hcomma
    rw [hsplit, hmembers]

-- What is read from a printed list is increasing, names no processor twice and holds exactly those
-- of the ranges.
theorem cpulist_parsed_exactly (ranges : List CpuRange) (text : String)
    (hincreasing : ranges.Pairwise fun range next => range.last < next.first)
    (htext : CpulistForm ranges text) :
    (parseCpulist text).Pairwise (· < ·) ∧ (parseCpulist text).Nodup ∧
      ∀ cpu, cpu ∈ parseCpulist text ↔ ∃ range ∈ ranges, range.first ≤ cpu ∧ cpu ≤ range.last := by
  rw [parseCpulist_form ranges text htext]
  have hsorted : (ranges.flatMap CpuRange.members).Pairwise (· < ·) := by
    rw [List.pairwise_flatMap]
    refine ⟨fun range _ => List.pairwise_lt_range', hincreasing.imp ?_⟩
    intro range next hlt cpu hcpu other hother
    rw [CpuRange.mem_members_iff] at hcpu hother
    omega
  refine ⟨hsorted, hsorted.nodup, ?_⟩
  intro cpu
  simp only [List.mem_flatMap, CpuRange.mem_members_iff]

def sampleRanges : List CpuRange :=
  [⟨0, 3, by decide, by decide⟩, ⟨8, 8, by decide, by decide⟩,
    ⟨4294967294, 4294967295, by decide, by decide⟩]

theorem cpulist_parsed_exactly_sample :
    CpulistForm sampleRanges " 0-3, 8 ,4294967294-4294967295\n" ∧
      (parseCpulist " 0-3, 8 ,4294967294-4294967295\n").Pairwise (· < ·) ∧
      4294967295 ∈ parseCpulist " 0-3, 8 ,4294967294-4294967295\n" := by
  have hform : CpulistForm sampleRanges " 0-3, 8 ,4294967294-4294967295\n" := by
    refine ⟨["0-3", " 8 ", "4294967294-4294967295"], ?_, " ", "\n", by decide, by decide, rfl⟩
    refine .cons (.inl (.refl _)) (.cons (.inr ⟨rfl, " ", " ", by decide, by decide, rfl⟩)
      (.cons (.inl (.refl _)) .nil))
  obtain ⟨hsorted, -, hmem⟩ := cpulist_parsed_exactly sampleRanges _ (by decide) hform
  exact ⟨hform, hsorted, (hmem 4294967295).mpr ⟨_, List.mem_of_getLast? rfl, by decide, by decide⟩⟩

end Pact.Agent.Capability
