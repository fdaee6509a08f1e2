import Mathlib

namespace Pact.Library

section Register

variable {K V : Type} [DecidableEq K]

-- What a store holds under a key after these writes in turn.
def lastWrite (key : K) (writes : List (K × V)) : Option V :=
  ((writes.filter fun write => write.1 = key).getLast?).map Prod.snd

@[simp] theorem lastWrite_nil (key : K) : lastWrite key ([] : List (K × V)) = none := rfl

theorem lastWrite_concat (key : K) (writes : List (K × V)) (write : K × V) :
    lastWrite key (writes ++ [write]) =
      if write.1 = key then some write.2 else lastWrite key writes := by
  unfold lastWrite
  rw [List.filter_append]
  by_cases hkey : write.1 = key
  · simp [hkey]
  · simp [hkey]

end Register

end Pact.Library
