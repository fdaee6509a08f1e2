import Mathlib

namespace Pact.Library

def startsWith (text head : String) : Bool := head.toList.isPrefixOf text.toList

def stripPrefix (text head : String) : Option String :=
  if startsWith text head then some (String.ofList (text.toList.drop head.toList.length)) else none

def stripSuffix (text tail : String) : Option String :=
  if tail.toList.isSuffixOf text.toList then
    some (String.ofList (text.toList.take (text.toList.length - tail.toList.length)))
  else none

def byteLength (text : String) : Nat := (text.toList.map Char.utf8Size).sum

def dropBytes : Nat → List Char → Option (List Char)
  | 0, chars => some chars
  | _ + 1, [] => none
  | bytes + 1, c :: rest =>
    if c.utf8Size ≤ bytes + 1 then dropBytes (bytes + 1 - c.utf8Size) rest else none

-- The text from an offset in bytes on. There is none from beyond the end, nor from within a
-- character.
def sliceFrom (text : String) (bytes : Nat) : Option String :=
  (dropBytes bytes text.toList).map String.ofList

def contains (text part : String) : Bool := part.toList <:+: text.toList

def split (text : String) (separator : Char) : List String :=
  (text.toList.splitOn separator).map String.ofList

def join (separator : String) (parts : List String) : String :=
  String.ofList (List.intercalate separator.toList (parts.map String.toList))

def splitOnce (text : String) (separator : Char) : Option (String × String) :=
  match text.toList.span (· ≠ separator) with
  | (_, []) => none
  | (before, _ :: after) => some (String.ofList before, String.ofList after)

def replace (text : String) (old new : Char) : String :=
  String.ofList (text.toList.map fun c => if c = old then new else c)

def eqIgnoreAsciiCase (text other : String) : Bool :=
  text.toList.map Char.toLower = other.toList.map Char.toLower

-- The occurrences of the part are found from the left and do not overlap. The number is of the
-- characters still to be skipped.
def removeFrom (part : List Char) : Nat → List Char → List Char
  | _, [] => []
  | skipped + 1, _ :: rest => removeFrom part skipped rest
  | 0, c :: rest =>
    if part ≠ [] ∧ part.isPrefixOf (c :: rest) then removeFrom part (part.length - 1) rest
    else c :: removeFrom part 0 rest

def remove (text part : String) : String := String.ofList (removeFrom part.toList 0 text.toList)

def isWhitespace (c : Char) : Bool :=
  let code := c.toNat
  (9 ≤ code ∧ code ≤ 13) ∨ (0x2000 ≤ code ∧ code ≤ 0x200A) ∨
    code ∈ [0x20, 0x85, 0xA0, 0x1680, 0x2028, 0x2029, 0x202F, 0x205F, 0x3000]

def trim (text : String) : String :=
  String.ofList ((text.toList.dropWhile isWhitespace).rdropWhile isWhitespace)

-- Free of white space at both ends.
def Trimmed (text : String) : Prop :=
  (∀ c ∈ text.toList.head?, isWhitespace c = false) ∧
    ∀ c ∈ text.toList.getLast?, isWhitespace c = false

def trimEndMatches (text : String) (c : Char) : String :=
  String.ofList (text.toList.rdropWhile (· = c))

-- The number a decimal text stands for, with an optional plus sign in front, if it fits.
def parseUnsigned (bits : Nat) (text : String) : Option Nat :=
  let digits : List Char :=
    match text.toList with
    | '+' :: rest => rest
    | digits => digits
  let value : Nat := digits.foldl (fun value digit => 10 * value + (digit.toNat - '0'.toNat)) 0
  if digits ≠ [] ∧ digits.all Char.isDigit ∧ value < 2 ^ bits then some value else none

theorem parseUnsigned_toString (bits n : Nat) (h : n < 2 ^ bits) :
    parseUnsigned bits (toString n) = some n := by
  have hdigits : ∀ c ∈ Nat.toDigits 10 n, c.isDigit = true := fun c hc =>
    Nat.isDigit_of_mem_toDigits (by decide) (by decide) hc
  have hvalue : (Nat.toDigits 10 n).foldl
      (fun value digit => 10 * value + (digit.toNat - '0'.toNat)) 0 = n := by
    rw [← Nat.ofDigitChars_eq_foldl, Nat.ofDigitChars_toDigits (by decide) (by decide)]
  simp only [parseUnsigned, Nat.toString_eq_repr, Nat.repr_eq_ofList_toDigits,
    String.toList_ofList]
  split
  case h_1 rest hplus =>
    have hsign := hdigits '+' (by rw [hplus]; exact List.mem_cons_self)
    exact absurd hsign (by decide)
  case h_2 =>
    rw [hvalue, if_pos ⟨Nat.toDigits_ne_nil, List.all_eq_true.mpr hdigits, h⟩]

theorem startsWith_iff (text head : String) :
    startsWith text head = true ↔ ∃ rest, text = head ++ rest := by
  simp only [startsWith, List.isPrefixOf_iff_prefix]
  constructor
  · rintro ⟨rest, h⟩
    refine ⟨String.ofList rest, String.toList_inj.mp ?_⟩
    rw [String.toList_append, String.toList_ofList, h]
  · rintro ⟨rest, rfl⟩
    exact ⟨rest.toList, String.toList_append.symm⟩

@[simp] theorem startsWith_append (head rest : String) : startsWith (head ++ rest) head = true :=
  (startsWith_iff _ _).mpr ⟨rest, rfl⟩

theorem startsWith_append_left (text rest head : String) (h : startsWith text head = true) :
    startsWith (text ++ rest) head = true := by
  obtain ⟨middle, rfl⟩ := (startsWith_iff _ _).mp h
  rw [String.append_assoc]
  exact startsWith_append head _

@[simp] theorem stripPrefix_append (head rest : String) :
    stripPrefix (head ++ rest) head = some rest := by
  simp [stripPrefix, String.toList_append]

theorem startsWith_append_eq_false (head other rest : String)
    (hother : startsWith head other = false) (hhead : startsWith other head = false) :
    startsWith (head ++ rest) other = false := by
  rw [Bool.eq_false_iff]
  intro h
  simp only [startsWith, List.isPrefixOf_iff_prefix, String.toList_append] at h
  rcases List.prefix_or_prefix_of_prefix h (List.prefix_append _ _) with hp | hp
  · rw [startsWith, List.isPrefixOf_iff_prefix.mpr hp] at hother
    cases hother
  · rw [startsWith, List.isPrefixOf_iff_prefix.mpr hp] at hhead
    cases hhead

theorem stripPrefix_append_eq_none (head other rest : String)
    (hother : startsWith head other = false) (hhead : startsWith other head = false) :
    stripPrefix (head ++ rest) other = none := by
  simp [stripPrefix, startsWith_append_eq_false head other rest hother hhead]

theorem stripSuffix_eq_some_iff (text tail head : String) :
    stripSuffix text tail = some head ↔ text = head ++ tail := by
  simp only [stripSuffix, Option.ite_none_right_eq_some, Option.some.injEq,
    List.isSuffixOf_iff_suffix]
  constructor
  · rintro ⟨⟨rest, hrest⟩, rfl⟩
    apply String.toList_inj.mp
    rw [String.toList_append, String.toList_ofList, ← hrest]
    simp
  · rintro rfl
    refine ⟨⟨head.toList, String.toList_append.symm⟩, ?_⟩
    simp [String.toList_append]

theorem dropBytes_append (head rest : List Char) :
    dropBytes (head.map Char.utf8Size).sum (head ++ rest) = some rest := by
  induction head with
  | nil => exact dropBytes.eq_1 rest
  | cons c head ih =>
    obtain ⟨bytes, hbytes⟩ : ∃ bytes, c.utf8Size + (head.map Char.utf8Size).sum = bytes + 1 :=
      Nat.exists_eq_succ_of_ne_zero (by have := c.utf8Size_pos; omega)
    have hrest : bytes + 1 - c.utf8Size = (head.map Char.utf8Size).sum := by omega
    rw [List.map_cons, List.sum_cons, hbytes, List.cons_append, dropBytes,
      if_pos (by omega), hrest, ih]

theorem sliceFrom_append (head rest : String) :
    sliceFrom (head ++ rest) (byteLength head) = some rest := by
  rw [sliceFrom, byteLength, String.toList_append, dropBytes_append, Option.map_some,
    String.ofList_toList]

theorem sliceFrom_one_eq_some_iff (text rest : String) :
    sliceFrom text 1 = some rest ↔
      ∃ c, c.utf8Size = 1 ∧ text = String.singleton c ++ rest := by
  simp only [← String.toList_inj, String.toList_append, String.toList_singleton,
    List.singleton_append]
  unfold sliceFrom
  cases text.toList with
  | nil => simp [dropBytes]
  | cons c chars =>
    have hsize : c.utf8Size ≤ 0 + 1 ↔ c.utf8Size = 1 := by
      have := c.utf8Size_pos
      omega
    simp only [dropBytes, hsize, List.cons.injEq]
    constructor
    · intro h
      split at h
      case isTrue hone =>
        rw [hone, Nat.sub_self, dropBytes, Option.map_some, Option.some.injEq] at h
        exact ⟨c, hone, rfl, by rw [← h, String.toList_ofList]⟩
      case isFalse => cases h
    · rintro ⟨_, hone, rfl, rfl⟩
      simp [hone, dropBytes]

theorem split_append (head rest : String) (separator : Char) (h : separator ∉ head.toList) :
    split (head ++ String.singleton separator ++ rest) separator = head :: split rest separator := by
  simp [split, String.toList_append, List.splitOn_append_cons_self_of_not_mem h]

theorem join_split (text : String) (separator : Char) :
    join (String.singleton separator) (split text separator) = text := by
  simp [join, split, List.map_map, Function.comp_def, List.intercalate_splitOn]

theorem append_eq_append_iff (head rest other last : String) :
    head ++ rest = other ++ last ↔
      (∃ middle, other = head ++ middle ∧ rest = middle ++ last) ∨
        ∃ middle, head = other ++ middle ∧ last = middle ++ rest := by
  simp only [← String.toList_inj, String.toList_append, List.append_eq_append_iff]
  constructor
  · rintro (⟨middle, hother, hrest⟩ | ⟨middle, hhead, hlast⟩)
    · exact .inl ⟨String.ofList middle, by simpa using hother, by simpa using hrest⟩
    · exact .inr ⟨String.ofList middle, by simpa using hhead, by simpa using hlast⟩
  · rintro (⟨middle, hother, hrest⟩ | ⟨middle, hhead, hlast⟩)
    · exact .inl ⟨middle.toList, hother, hrest⟩
    · exact .inr ⟨middle.toList, hhead, hlast⟩

theorem append_ne (head rest text : String) (h : startsWith text head = false) :
    head ++ rest ≠ text := by
  rintro rfl
  simp at h

theorem splitOnce_append (head rest : String) (separator : Char) (h : separator ∉ head.toList) :
    splitOnce (head ++ String.singleton separator ++ rest) separator = some (head, rest) := by
  have hspan : (head.toList ++ separator :: rest.toList).span (· ≠ separator) =
      (head.toList, separator :: rest.toList) := by
    have hbefore : ∀ c ∈ head.toList, decide (c ≠ separator) = true := by
      intro c hc
      rw [decide_eq_true_eq]
      rintro rfl
      exact h hc
    rw [List.span_eq_takeWhile_dropWhile, List.takeWhile_append_of_pos hbefore,
      List.dropWhile_append_of_pos hbefore]
    simp
  have htext : (head ++ String.singleton separator ++ rest).toList =
      head.toList ++ separator :: rest.toList := by
    simp [String.toList_append]
  simp only [splitOnce, htext, hspan, String.ofList_toList]

theorem splitOnce_eq_none (text : String) (separator : Char) (h : separator ∉ text.toList) :
    splitOnce text separator = none := by
  have hall : ∀ c ∈ text.toList, decide (c ≠ separator) = true := by
    intro c hc
    rw [decide_eq_true_eq]
    rintro rfl
    exact h hc
  have hspan : text.toList.span (· ≠ separator) = (text.toList, []) := by
    rw [List.span_eq_takeWhile_dropWhile, List.takeWhile_eq_self_iff.mpr hall,
      List.dropWhile_eq_nil_iff.mpr hall]
  simp only [splitOnce, hspan]

theorem exists_first (text : String) (separator : Char) (h : separator ∈ text.toList) :
    ∃ head rest, text = head ++ String.singleton separator ++ rest ∧ separator ∉ head.toList := by
  obtain ⟨head, rest, htext, hhead⟩ := List.eq_append_cons_of_mem h
  refine ⟨String.ofList head, String.ofList rest, ?_, by simpa using hhead⟩
  simp [← String.toList_inj, String.toList_append, htext]

theorem dropWhile_of_head (p : Char → Bool) (chars : List Char)
    (h : ∀ c ∈ chars.head?, p c = false) : chars.dropWhile p = chars := by
  cases chars with
  | nil => rfl
  | cons c chars => exact List.dropWhile_cons_of_neg (by simp [h c rfl])

theorem rdropWhile_of_last (p : Char → Bool) (chars : List Char)
    (h : ∀ c ∈ chars.getLast?, p c = false) : chars.rdropWhile p = chars := by
  rw [List.rdropWhile_eq_self_iff]
  intro hne
  rw [h _ (List.getLast?_eq_getLast_of_ne_nil hne)]
  exact Bool.false_ne_true

theorem trim_eq_self (text : String) (h : Trimmed text) : trim text = text := by
  rw [trim, dropWhile_of_head _ _ h.1, rdropWhile_of_last _ _ h.2, String.ofList_toList]

theorem trim_append_space (text : String) (c : Char) (h : Trimmed text) (hne : text ≠ "")
    (hc : isWhitespace c = true) : trim (text ++ String.singleton c) = text := by
  have hhead : (text.toList ++ [c]).head? = text.toList.head? :=
    List.head?_append_of_ne_nil _ (by simpa using hne)
  have hdrop : (text.toList ++ [c]).dropWhile isWhitespace = text.toList ++ [c] :=
    dropWhile_of_head _ _ (by rw [hhead]; exact h.1)
  rw [trim, String.toList_append, String.toList_singleton, hdrop,
    List.rdropWhile_concat_pos _ _ _ hc, rdropWhile_of_last _ _ h.2, String.ofList_toList]

theorem length_trim_le (text : String) : (trim text).toList.length ≤ text.toList.length := by
  rw [trim, String.toList_ofList]
  exact (List.rdropWhile_prefix _ _).length_le.trans (List.dropWhile_suffix _).length_le

theorem trimEndMatches_append_self (text : String) (c : Char) :
    trimEndMatches (text ++ String.singleton c) c = trimEndMatches text c := by
  simp [trimEndMatches, List.rdropWhile_concat_pos]

theorem trimEndMatches_eq_self (text : String) (c : Char) (h : text.toList.getLast? ≠ some c) :
    trimEndMatches text c = text := by
  have hkept : text.toList.rdropWhile (· = c) = text.toList := by
    apply rdropWhile_of_last
    intro other hother
    rw [decide_eq_false_iff_not]
    rintro rfl
    exact h hother
  rw [trimEndMatches, hkept, String.ofList_toList]

theorem length_trimEndMatches_lt (text : String) (c : Char) (h : text.toList.getLast? = some c) :
    (trimEndMatches text c).toList.length < text.toList.length := by
  obtain ⟨chars, hchars⟩ := List.getLast?_eq_some_iff.mp h
  rw [trimEndMatches, String.toList_ofList, hchars, List.rdropWhile_concat_pos _ _ _ (by simp),
    List.length_append, List.length_singleton]
  exact Nat.lt_succ_of_le (List.rdropWhile_prefix _ _).length_le

theorem contains_iff (text part : String) :
    contains text part = true ↔ ∃ head rest, text = head ++ part ++ rest := by
  simp only [contains, decide_eq_true_eq, ← String.toList_inj, String.toList_append]
  constructor
  · rintro ⟨head, rest, h⟩
    exact ⟨String.ofList head, String.ofList rest, by simp [h]⟩
  · rintro ⟨head, rest, h⟩
    exact ⟨head.toList, rest.toList, h.symm⟩

theorem mem_removeFrom_iff (part : List Char) (c : Char) (hc : c ∉ part) (skipped : Nat)
    (chars : List Char) (hskipped : c ∉ chars.take skipped) :
    c ∈ removeFrom part skipped chars ↔ c ∈ chars := by
  induction chars generalizing skipped with
  | nil => cases skipped <;> simp [removeFrom]
  | cons d chars ih =>
    cases skipped with
    | zero =>
      rw [removeFrom]
      split
      case isTrue hpart =>
        obtain ⟨hne, hprefix⟩ := hpart
        obtain ⟨rest, hrest⟩ := List.isPrefixOf_iff_prefix.mp hprefix
        obtain ⟨first, others, rfl⟩ := List.exists_cons_of_ne_nil hne
        obtain ⟨rfl, rfl⟩ := List.cons.inj hrest
        rw [List.mem_cons, not_or] at hc
        rw [List.length_cons, Nat.add_sub_cancel, ih others.length (by simpa using hc.2),
          List.mem_cons, or_iff_right hc.1]
      case isFalse => rw [List.mem_cons, List.mem_cons, ih 0 (by simp)]
    | succ skipped =>
      rw [List.take_succ_cons, List.mem_cons, not_or] at hskipped
      rw [removeFrom, ih skipped hskipped.2, List.mem_cons, or_iff_right hskipped.1]

theorem mem_remove_iff (text part : String) (c : Char) (hc : c ∉ part.toList) :
    c ∈ (remove text part).toList ↔ c ∈ text.toList := by
  rw [remove, String.toList_ofList]
  exact mem_removeFrom_iff part.toList c hc 0 text.toList (by simp)

section Split

variable (separator : Char)

theorem split_ne_nil (text : String) : split text separator ≠ [] := by
  simp [split, List.splitOn_ne_nil]

theorem split_eq_singleton (text : String) (h : separator ∉ text.toList) :
    split text separator = [text] := by
  simp [split, List.splitOn_eq_singleton h]

theorem split_append_singleton (head rest : String) :
    split (head ++ String.singleton separator ++ rest) separator =
      split head separator ++ split rest separator := by
  simp [split, String.toList_append, List.splitOn_append_cons_self]

theorem not_mem_of_mem_splitOn (chars part : List Char) (h : part ∈ chars.splitOn separator) :
    separator ∉ part := by
  induction chars generalizing part with
  | nil =>
    rw [List.splitOn_nil, List.mem_singleton] at h
    simp [h]
  | cons c chars ih =>
    rw [List.splitOn_cons_eq_if_modifyHead] at h
    split at h
    case isTrue =>
      rcases List.mem_cons.mp h with rfl | hrest
      · simp
      · exact ih part hrest
    case isFalse hne =>
      obtain ⟨first, others, hsplit⟩ :=
        List.exists_cons_of_ne_nil (List.splitOn_ne_nil separator chars)
      rw [hsplit, List.modifyHead_cons] at h
      rcases List.mem_cons.mp h with rfl | hrest
      · have hfirst := ih first (by rw [hsplit]; exact List.mem_cons_self)
        rw [List.mem_cons, not_or]
        exact ⟨fun heq => hne (by simp [heq]), hfirst⟩
      · exact ih part (by rw [hsplit]; exact List.mem_cons_of_mem _ hrest)

theorem not_mem_of_mem_split (text part : String) (h : part ∈ split text separator) :
    separator ∉ part.toList := by
  obtain ⟨chars, hchars, rfl⟩ := List.mem_map.mp h
  rw [String.toList_ofList]
  exact not_mem_of_mem_splitOn separator text.toList chars hchars

theorem join_singleton (glue part : String) : join glue [part] = part := by
  simp [join]

theorem join_cons (glue part : String) (parts : List String) (h : parts ≠ []) :
    join glue (part :: parts) = part ++ glue ++ join glue parts := by
  obtain ⟨first, others, rfl⟩ := List.exists_cons_of_ne_nil h
  simp [join, ← String.toList_inj, String.toList_append, List.intercalate]

theorem join_append (glue : String) (parts more : List String) (hparts : parts ≠ [])
    (hmore : more ≠ []) : join glue (parts ++ more) = join glue parts ++ glue ++ join glue more := by
  induction parts with
  | nil => exact absurd rfl hparts
  | cons part parts ih =>
    cases parts with
    | nil => rw [List.singleton_append, join_cons glue part more hmore, join_singleton]
    | cons first others =>
      rw [List.cons_append, join_cons glue part _ (by simp), ih (by simp),
        join_cons glue part (first :: others) (by simp)]
      simp only [String.append_assoc]

theorem join_append_head (glue head rest : String) (parts : List String) :
    join glue ((head ++ rest) :: parts) = head ++ join glue (rest :: parts) := by
  cases parts with
  | nil => rw [join_singleton, join_singleton]
  | cons first others =>
    rw [join_cons glue _ _ (by simp), join_cons glue rest _ (by simp)]
    simp only [String.append_assoc]

theorem split_join (parts : List String) (hne : parts ≠ [])
    (h : ∀ part ∈ parts, separator ∉ part.toList) :
    split (join (String.singleton separator) parts) separator = parts := by
  induction parts with
  | nil => exact absurd rfl hne
  | cons part parts ih =>
    obtain ⟨hpart, hparts⟩ := List.forall_mem_cons.mp h
    cases parts with
    | nil => rw [join_singleton, split_eq_singleton separator part hpart]
    | cons first others =>
      rw [join_cons _ _ _ (by simp), split_append part _ separator hpart,
        ih (by simp) hparts]

-- A text carries a head with separators in it exactly if its parts are those of the head, the
-- last of which may go on.
theorem startsWith_join_iff (text : String) (parts : List String) (final : String)
    (hparts : ∀ part ∈ parts, separator ∉ part.toList) (hfinal : separator ∉ final.toList) :
    startsWith text (join (String.singleton separator) (parts ++ [final])) = true ↔
      ∃ segment after, split text separator = parts ++ segment :: after ∧
        startsWith segment final = true := by
  constructor
  · intro h
    obtain ⟨rest, rfl⟩ := (startsWith_iff _ _).mp h
    clear h
    induction parts with
    | nil =>
      rw [List.nil_append, join_singleton]
      by_cases hrest : separator ∈ rest.toList
      · obtain ⟨head, tail, rfl, hhead⟩ := exists_first rest separator hrest
        refine ⟨final ++ head, split tail separator, ?_, startsWith_append final head⟩
        rw [← String.append_assoc, ← String.append_assoc, split_append _ _ separator]
        · rfl
        · simp [String.toList_append, hfinal, hhead]
      · refine ⟨final ++ rest, [], ?_, startsWith_append final rest⟩
        rw [split_eq_singleton]
        · rfl
        · simp [String.toList_append, hfinal, hrest]
    | cons part parts ih =>
      obtain ⟨hpart, hparts⟩ := List.forall_mem_cons.mp hparts
      obtain ⟨segment, after, hsplit, hsegment⟩ := ih hparts
      refine ⟨segment, after, ?_, hsegment⟩
      rw [List.cons_append, join_cons _ _ _ (by simp), String.append_assoc,
        split_append part _ separator hpart, hsplit, List.cons_append]
  · rintro ⟨segment, after, hsplit, hsegment⟩
    obtain ⟨rest, rfl⟩ := (startsWith_iff _ _).mp hsegment
    rw [← join_split text separator, hsplit, startsWith_iff]
    cases hempty : parts with
    | nil =>
      refine ⟨join (String.singleton separator) (rest :: after), ?_⟩
      rw [List.nil_append, List.nil_append, join_singleton, join_append_head]
    | cons first others =>
      refine ⟨join (String.singleton separator) (rest :: after), ?_⟩
      rw [join_append _ _ _ (by simp) (by simp), join_append _ _ _ (by simp) (by simp),
        join_singleton, join_append_head]
      simp only [String.append_assoc]

-- The same for a part that begins with a separator and stands anywhere.
theorem contains_join_iff (text : String) (parts : List String) (final : String)
    (hparts : ∀ part ∈ parts, separator ∉ part.toList) (hfinal : separator ∉ final.toList) :
    contains text
        (String.singleton separator ++ join (String.singleton separator) (parts ++ [final])) = true ↔
      ∃ before segment after, before ≠ [] ∧
        split text separator = before ++ (parts ++ segment :: after) ∧
        startsWith segment final = true := by
  constructor
  · intro h
    obtain ⟨head, rest, rfl⟩ := (contains_iff _ _).mp h
    obtain ⟨segment, after, hsplit, hsegment⟩ :=
      (startsWith_join_iff separator
        (join (String.singleton separator) (parts ++ [final]) ++ rest) parts final hparts hfinal).mp
        (startsWith_append _ rest)
    refine ⟨split head separator, segment, after, split_ne_nil separator head, ?_, hsegment⟩
    rw [← String.append_assoc, String.append_assoc, split_append_singleton, hsplit]
  · rintro ⟨before, segment, after, hbefore, hsplit, hsegment⟩
    have hbehind : split (join (String.singleton separator) (parts ++ segment :: after)) separator =
        parts ++ segment :: after := by
      refine split_join separator _ (by simp) ?_
      intro part hpart
      refine not_mem_of_mem_split separator text part ?_
      rw [hsplit]
      exact List.mem_append_right _ hpart
    obtain ⟨rest, hrest⟩ := (startsWith_iff _ _).mp
      ((startsWith_join_iff separator _ parts final hparts hfinal).mpr
        ⟨segment, after, hbehind, hsegment⟩)
    rw [← join_split text separator, hsplit, join_append _ _ _ hbefore (by simp), hrest, contains_iff]
    refine ⟨join (String.singleton separator) before, rest, ?_⟩
    simp only [String.append_assoc]

end Split

end Pact.Library
