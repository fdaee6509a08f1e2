import Pact.Journal.State
import Pact.Library.Text

namespace Pact.Journal

open Pact.Library Pact.Common

section Keys

variable (platform : Platform) (hw other : HardwareIdentity)

-- The serial that takes part in the key. An empty one counts as absent.
def keySerial : Option String :=
  (hw.bmcSerial.filter fun serial => serial ≠ "").map platform.toLowercase

def SameHardware : Prop :=
  platform.toLowercase hw.macAddress = platform.toLowercase other.macAddress ∧
    keySerial platform hw = keySerial platform other

def serialText : Option String → String
  | none => ""
  | some serial => ":bmc:" ++ serial

theorem hwCanonicalKey_eq :
    hwCanonicalKey platform hw =
      "mac:" ++ (platform.toLowercase hw.macAddress ++ serialText (keySerial platform hw)) := by
  unfold hwCanonicalKey keySerial
  cases hw.bmcSerial with
  | none => simp [serialText]
  | some serial =>
    by_cases hempty : serial = ""
    · simp [hempty, serialText, Option.filter]
    · simp [hempty, serialText, Option.filter, String.append_assoc]

-- The first serial spells out what the second MAC has beyond the first, and then the second
-- serial. The delimiter begins and ends with the same character, so that two of them may overlap.
def Spells (beyond : String) (serial later : Option String) : Prop :=
  ∃ text, serial = some text ∧
    ((∃ more, beyond = ":bmc:" ++ more ∧ text = more ++ serialText later) ∨
      ∃ last, beyond = ":bmc" ∧ later = some last ∧ text = "bmc:" ++ last)

theorem delimiter_eq_append (beyond text last : List Char)
    (h : ":bmc:".toList ++ text = beyond ++ (":bmc:".toList ++ last)) :
    beyond = [] ∧ text = last ∨ beyond = ":bmc".toList ∧ text = "bmc:".toList ++ last ∨
      ∃ more, beyond = ":bmc:".toList ++ more ∧ text = more ++ (":bmc:".toList ++ last) := by
  rcases beyond with _ | ⟨first, _ | ⟨second, _ | ⟨third, _ | ⟨fourth, _ | ⟨fifth, more⟩⟩⟩⟩⟩
  · exact .inl ⟨rfl, by simpa using h⟩
  · simp at h
  · simp at h
  · simp at h
  · simp only [String.reduceToList, List.cons_append, List.nil_append, List.cons.injEq] at h
    obtain ⟨rfl, rfl, rfl, rfl, -, htext⟩ := h
    exact .inr (.inl ⟨rfl, htext⟩)
  · simp only [String.reduceToList, List.cons_append, List.nil_append, List.cons.injEq] at h
    obtain ⟨rfl, rfl, rfl, rfl, rfl, htext⟩ := h
    exact .inr (.inr ⟨more, rfl, htext⟩)

theorem serialText_eq_append_iff (beyond : String) (serial later : Option String) :
    serialText serial = beyond ++ serialText later ↔
      beyond = "" ∧ serial = later ∨ Spells beyond serial later := by
  constructor
  · intro h
    cases serial with
    | none =>
      cases later with
      | none => exact .inl ⟨by simpa [serialText, eq_comm] using h, rfl⟩
      | some last => simp [serialText] at h
    | some text =>
      cases later with
      | none =>
        exact .inr ⟨text, rfl, .inl ⟨text, by simpa [serialText] using h.symm, by simp [serialText]⟩⟩
      | some last =>
        simp only [serialText, ← String.toList_inj, String.toList_append] at h
        rcases delimiter_eq_append beyond.toList text.toList last.toList h with
          ⟨hbeyond, htext⟩ | ⟨hbeyond, htext⟩ | ⟨more, hbeyond, htext⟩
        · rw [String.toList_inj] at htext
          exact .inl ⟨by simpa using hbeyond, congrArg some htext⟩
        · refine .inr ⟨text, rfl, .inr ⟨last, String.toList_inj.mp hbeyond, rfl, ?_⟩⟩
          exact String.toList_inj.mp (htext.trans String.toList_append.symm)
        · refine .inr ⟨text, rfl, .inl ⟨String.ofList more, ?_, ?_⟩⟩ <;>
            simp only [← String.toList_inj, serialText, String.toList_append,
              String.toList_ofList, hbeyond, htext]
  · rintro (⟨rfl, hsame⟩ | ⟨_, hsome, ⟨more, rfl, rfl⟩ | ⟨_, rfl, hlast, rfl⟩⟩)
    · rw [hsame, String.empty_append]
    · rw [hsome, serialText, String.append_assoc]
    · rw [hsome, hlast, serialText, serialText, ← String.append_assoc, ← String.append_assoc]
      rfl

-- The second MAC swallows the delimiter that ends the first one, and some of its serial.
def Swallows : Prop :=
  ∃ beyond, platform.toLowercase other.macAddress = platform.toLowercase hw.macAddress ++ beyond ∧
    Spells beyond (keySerial platform hw) (keySerial platform other)

theorem hwCanonicalKey_eq_iff :
    hwCanonicalKey platform hw = hwCanonicalKey platform other ↔
      SameHardware platform hw other ∨ Swallows platform hw other ∨ Swallows platform other hw := by
  rw [hwCanonicalKey_eq, hwCanonicalKey_eq, String.append_right_inj, append_eq_append_iff]
  simp only [serialText_eq_append_iff]
  constructor
  · rintro (⟨beyond, hmac, ⟨rfl, hserial⟩ | hspells⟩ | ⟨beyond, hmac, ⟨rfl, hserial⟩ | hspells⟩)
    · rw [String.append_empty] at hmac
      exact .inl ⟨hmac.symm, hserial⟩
    · exact .inr (.inl ⟨beyond, hmac, hspells⟩)
    · rw [String.append_empty] at hmac
      exact .inl ⟨hmac, hserial.symm⟩
    · exact .inr (.inr ⟨beyond, hmac, hspells⟩)
  · rintro (⟨hmac, hserial⟩ | ⟨beyond, hmac, hspells⟩ | ⟨beyond, hmac, hspells⟩)
    · exact .inl ⟨"", by rw [String.append_empty, hmac], .inl ⟨rfl, hserial⟩⟩
    · exact .inl ⟨beyond, hmac, .inr hspells⟩
    · exact .inr ⟨beyond, hmac, .inr hspells⟩

theorem Spells.beyond_ne {beyond : String} {serial later : Option String}
    (h : Spells beyond serial later) : beyond ≠ "" := by
  rintro rfl
  obtain ⟨text, _, ⟨more, hbeyond, _⟩ | ⟨last, hbeyond, _⟩⟩ := h
  · exact append_ne ":bmc:" more "" (by decide) hbeyond.symm
  · exact absurd hbeyond (by decide)

theorem Swallows.mac_ne (h : Swallows platform hw other) :
    platform.toLowercase other.macAddress ≠ platform.toLowercase hw.macAddress := by
  obtain ⟨beyond, hmac, hspells⟩ := h
  intro hsame
  rw [hsame] at hmac
  refine hspells.beyond_ne (String.append_right_inj (platform.toLowercase hw.macAddress) |>.mp ?_)
  rw [String.append_empty]
  exact hmac.symm

-- Two keys stand for different hardware exactly where no MAC reaches into the other's serial.
theorem hardware_keys_injective_iff :
    (hwCanonicalKey platform hw = hwCanonicalKey platform other ↔ SameHardware platform hw other) ↔
      ¬Swallows platform hw other ∧ ¬Swallows platform other hw := by
  rw [hwCanonicalKey_eq_iff]
  constructor
  · intro hexact
    refine ⟨fun hswallows => ?_, fun hswallows => ?_⟩
    · exact hswallows.mac_ne _ _ _ (hexact.mp (.inr (.inl hswallows))).1.symm
    · exact hswallows.mac_ne _ _ _ (hexact.mp (.inr (.inr hswallows))).1
  · rintro ⟨hfirst, hsecond⟩
    rw [or_iff_left (not_or.mpr ⟨hfirst, hsecond⟩)]

end Keys

-- The BMC serial of a server, and a MAC that ends in the same text.
def racked : HardwareIdentity := ⟨"aa:bb", some "SN-1", .empty⟩

def forged : HardwareIdentity := ⟨"aa:bb:bmc:SN-1", none, .empty⟩

-- A node without a serial takes the place of another one: that one cannot be registered any more.
theorem hardware_keys_collide :
    hwCanonicalKey .ascii racked = hwCanonicalKey .ascii forged ∧
    ¬SameHardware .ascii racked forged ∧
    (replay .ascii .default
      [⟨0, .RegisterNode { NodeEnrollment.sample "node-1" "" with hardwareIdentity := forged }⟩,
        ⟨0, .RegisterNode { NodeEnrollment.sample "node-2" "" with hardwareIdentity := racked }⟩]).2 =
      [.EnrollmentResult "node-1" .Registered none,
        .ValidationError "HARDWARE_IDENTITY_CONFLICT: hardware already registered to node-1"] := by
  refine ⟨by decide +kernel, ?_, by decide +kernel⟩
  rintro ⟨hmac, _⟩
  exact absurd hmac (by decide +kernel)

end Pact.Journal
