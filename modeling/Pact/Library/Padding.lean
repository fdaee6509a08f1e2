import Pact.Library.Lines

namespace Pact.Library

def Blank (text : String) : Prop := ∀ c ∈ text.toList, isWhitespace c = true

instance (text : String) : Decidable (Blank text) := List.decidableBAll _ _

-- A text with white space on either side of it, or none.
def Padded (text core : String) : Prop :=
  ∃ before after, Blank before ∧ Blank after ∧ text = before ++ core ++ after

theorem Padded.refl (text : String) : Padded text text :=
  ⟨"", "", by simp [Blank], by simp [Blank], by simp⟩

theorem not_mem_of_blank (text : String) (c : Char) (h : Blank text)
    (hc : isWhitespace c = false) : c ∉ text.toList := by
  intro hmem
  rw [h c hmem] at hc
  cases hc

theorem Padded.not_mem (text core : String) (c : Char) (h : Padded text core)
    (hc : isWhitespace c = false) (hcore : c ∉ core.toList) : c ∉ text.toList := by
  obtain ⟨before, after, hbefore, hafter, rfl⟩ := h
  simp only [String.toList_append, List.mem_append, not_or]
  exact ⟨⟨not_mem_of_blank before c hbefore hc, hcore⟩, not_mem_of_blank after c hafter hc⟩

theorem rdropWhile_append_of_pos (p : Char → Bool) (chars more : List Char)
    (h : ∀ c ∈ more, p c = true) : (chars ++ more).rdropWhile p = chars.rdropWhile p := by
  have hreverse : ∀ c ∈ more.reverse, p c = true := fun c hc => h c (List.mem_reverse.mp hc)
  rw [List.rdropWhile, List.rdropWhile, List.reverse_append,
    List.dropWhile_append_of_pos hreverse]

theorem trim_blank_append (before text : String) (h : Blank before) :
    trim (before ++ text) = trim text := by
  rw [trim, String.toList_append, List.dropWhile_append_of_pos h, trim]

theorem trim_append_blank (text after : String) (h : Blank after) :
    trim (text ++ after) = trim text := by
  rw [trim, trim, String.toList_append, List.dropWhile_append]
  split_ifs with hempty
  · -- All of the text is white space, and so is what remains.
    have hafter : after.toList.dropWhile isWhitespace = [] := List.dropWhile_eq_nil_iff.mpr h
    rw [hafter, List.isEmpty_iff.mp hempty]
  · rw [rdropWhile_append_of_pos isWhitespace _ _ h]

theorem Padded.trim_eq (text core : String) (h : Padded text core) : trim text = trim core := by
  obtain ⟨before, after, hbefore, hafter, rfl⟩ := h
  rw [trim_append_blank _ after hafter, trim_blank_append before core hbefore]

theorem padded_trim (text : String) : Padded text (trim text) := by
  refine ⟨String.ofList (text.toList.takeWhile isWhitespace),
    String.ofList ((text.toList.dropWhile isWhitespace).rtakeWhile isWhitespace), ?_, ?_, ?_⟩
  · intro c hc
    exact List.mem_takeWhile_imp (String.toList_ofList ▸ hc)
  · intro c hc
    exact List.mem_rtakeWhile_imp (String.toList_ofList ▸ hc)
  · rw [← String.toList_inj, trim, String.toList_append, String.toList_append,
      String.toList_ofList, String.toList_ofList, String.toList_ofList, List.append_assoc,
      List.rdropWhile_append_rtakeWhile, List.takeWhile_append_dropWhile]

theorem trim_trim (text : String) : trim (trim text) = trim text :=
  ((padded_trim text).trim_eq _ _).symm

theorem exists_final (text : String) (separator : Char) (h : separator ∈ text.toList) :
    ∃ head rest, text = head ++ String.singleton separator ++ rest ∧ separator ∉ rest.toList := by
  obtain ⟨rest, head, htext, hrest⟩ := List.eq_append_cons_of_mem (List.mem_reverse.mpr h)
  rw [List.reverse_eq_iff, List.reverse_append, List.reverse_cons] at htext
  refine ⟨String.ofList head.reverse, String.ofList rest.reverse, ?_, by simpa using hrest⟩
  simp [← String.toList_inj, String.toList_append, htext]

section Split

variable (separator : Char) (hseparator : isWhitespace separator = false)

include hseparator

theorem map_trim_split_blank_append (before text : String) (h : Blank before) :
    (split (before ++ text) separator).map trim = (split text separator).map trim := by
  have hbefore : separator ∉ before.toList := not_mem_of_blank before separator h hseparator
  by_cases hmem : separator ∈ text.toList
  · obtain ⟨head, rest, rfl, hhead⟩ := exists_first text separator hmem
    have hfirst : separator ∉ (before ++ head).toList := by
      simp [String.toList_append, hbefore, hhead]
    have hassoc : before ++ (head ++ String.singleton separator ++ rest) =
        before ++ head ++ String.singleton separator ++ rest := by
      simp only [String.append_assoc]
    rw [hassoc, split_append _ _ _ hfirst, split_append _ _ _ hhead, List.map_cons, List.map_cons,
      trim_blank_append before head h]
  · have hall : separator ∉ (before ++ text).toList := by
      simp [String.toList_append, hbefore, hmem]
    rw [split_eq_singleton _ _ hall, split_eq_singleton _ _ hmem, List.map_singleton,
      List.map_singleton, trim_blank_append before text h]

theorem map_trim_split_append_blank (text after : String) (h : Blank after) :
    (split (text ++ after) separator).map trim = (split text separator).map trim := by
  have hafter : separator ∉ after.toList := not_mem_of_blank after separator h hseparator
  by_cases hmem : separator ∈ text.toList
  · obtain ⟨head, rest, rfl, hrest⟩ := exists_final text separator hmem
    have hlast : separator ∉ (rest ++ after).toList := by
      simp [String.toList_append, hafter, hrest]
    rw [String.append_assoc, split_append_singleton, split_append_singleton,
      split_eq_singleton _ _ hlast, split_eq_singleton _ _ hrest, List.map_append, List.map_append,
      List.map_singleton, List.map_singleton, trim_append_blank rest after h]
  · have hall : separator ∉ (text ++ after).toList := by
      simp [String.toList_append, hafter, hmem]
    rw [split_eq_singleton _ _ hall, split_eq_singleton _ _ hmem, List.map_singleton,
      List.map_singleton, trim_append_blank text after h]

theorem Padded.map_trim_split (text core : String) (h : Padded text core) :
    (split text separator).map trim = (split core separator).map trim := by
  obtain ⟨before, after, hbefore, hafter, rfl⟩ := h
  rw [map_trim_split_append_blank separator hseparator _ after hafter,
    map_trim_split_blank_append separator hseparator before core hbefore]

end Split

theorem trim_stripReturn (line : String) :
    trim ((stripSuffix line "\r").getD line) = trim line := by
  cases hline : stripSuffix line "\r" with
  | none => rfl
  | some head =>
    have hreturn : Blank "\r" := by
      intro c hc
      rw [List.mem_singleton.mp hc]
      rfl
    rw [Option.getD_some, (stripSuffix_eq_some_iff line "\r" head).mp hline,
      trim_append_blank head "\r" hreturn]

-- A reader that trims its lines gets those that were written, whatever they end in.
theorem map_trim_lines_unlines (parts : List String) (h : ∀ line ∈ parts, '\n' ∉ line.toList) :
    (lines (unlines parts)).map trim = parts.map trim := by
  induction parts with
  | nil => rfl
  | cons line rest ih =>
    obtain ⟨hline, hrest⟩ := List.forall_mem_cons.mp h
    calc (lines (unlines (line :: rest))).map trim
        = (lines (line ++ "\n" ++ unlines rest)).map trim := rfl
      _ = trim ((stripSuffix line "\r").getD line) :: (lines (unlines rest)).map trim := by
          rw [lines_append line _ hline, List.map_cons]
      _ = trim line :: rest.map trim := by rw [trim_stripReturn, ih hrest]

theorem trimmed_of_no_blank (text : String) (h : text.toList.any isWhitespace = false) :
    Trimmed text := by
  rw [List.any_eq_false] at h
  exact ⟨fun c hc => Bool.eq_false_iff.mpr (h c (List.mem_of_mem_head? hc)),
    fun c hc => Bool.eq_false_iff.mpr (h c (List.mem_of_getLast? hc))⟩

theorem Trimmed.append (first glue last : String) (hfirst : Trimmed first) (hlast : Trimmed last)
    (hstart : first ≠ "") (hend : last ≠ "") : Trimmed (first ++ glue ++ last) := by
  have hhead : first.toList ≠ [] := by simpa using hstart
  have htail : last.toList ≠ [] := by simpa using hend
  simp only [Trimmed, String.toList_append, List.append_assoc, List.head?_append_of_ne_nil _ hhead]
  refine ⟨hfirst.1, ?_⟩
  rw [← List.append_assoc, List.getLast?_append_of_ne_nil _ htail]
  exact hlast.2

-- A number is printed in digits, of which none is white space.
section Decimal

variable (n : Nat)

theorem isDigit_of_mem_toString (c : Char) (h : c ∈ (toString n).toList) : c.isDigit = true := by
  rw [Nat.toString_eq_repr, Nat.repr_eq_ofList_toDigits, String.toList_ofList] at h
  exact Nat.isDigit_of_mem_toDigits (by decide) (by decide) h

theorem not_mem_toString (c : Char) (h : c.isDigit = false) : c ∉ (toString n).toList := by
  intro hmem
  rw [isDigit_of_mem_toString n c hmem] at h
  cases h

theorem toString_ne_empty : toString n ≠ "" := by
  rw [Nat.toString_eq_repr, Nat.repr_eq_ofList_toDigits]
  intro h
  have hdigits := congrArg String.toList h
  rw [String.toList_ofList] at hdigits
  exact Nat.toDigits_ne_nil hdigits

theorem isWhitespace_of_isDigit (c : Char) (h : c.isDigit = true) : isWhitespace c = false := by
  obtain ⟨hlow, hhigh⟩ : 48 ≤ c.toNat ∧ c.toNat ≤ 57 := Char.isDigit_iff_toNat.mp h
  simp only [isWhitespace, List.mem_cons, List.not_mem_nil, decide_eq_false_iff_not, or_false]
  omega

theorem trimmed_toString : Trimmed (toString n) := by
  refine trimmed_of_no_blank _ (List.any_eq_false.mpr ?_)
  intro c hc
  rw [isWhitespace_of_isDigit c (isDigit_of_mem_toString n c hc)]
  exact Bool.false_ne_true

end Decimal

end Pact.Library
