import Mathlib

namespace Pact.Library

inductive JsonField
  | Number (value : Nat)
  | Text (value : String)
  | Texts (values : List String)
  deriving DecidableEq

abbrev JsonRecord := List (String × JsonField)

namespace JsonRecord

-- A field that is missing or given twice is an error.
def field (name : String) (record : JsonRecord) : Option JsonField :=
  match record.filter fun (other, _) => other = name with
  | [(_, value)] => some value
  | _ => none

def number (name : String) (record : JsonRecord) : Option Nat :=
  match field name record with
  | some (.Number value) => some value
  | _ => none

def text (name : String) (record : JsonRecord) : Option String :=
  match field name record with
  | some (.Text value) => some value
  | _ => none

def texts (name : String) (record : JsonRecord) : Option (List String) :=
  match field name record with
  | some (.Texts values) => some values
  | _ => none

end JsonRecord

theorem mapM_encoded {A B R : Type} (encode : A → R) (decode : R → Option B) (value : A → B)
    (h : ∀ entry, decode (encode entry) = some (value entry)) (entries : List A) :
    (entries.map encode).mapM decode = some (entries.map value) := by
  induction entries with
  | nil => rfl
  | cons entry entries ih => simp [h, ih]

end Pact.Library
