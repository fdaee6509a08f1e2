import Pact.Agent.Shell.Exec

namespace Pact.Agent.Shell

def emptyBuffer : List UInt8 := List.replicate 8192 0

-- A read fills the buffer from its start and leaves the rest as it was.
def readInto (buffer bytes : List UInt8) : List UInt8 :=
  (bytes ++ buffer.drop bytes.length).take buffer.length

-- None stands for the panic of a slice that ends beyond the buffer.
def sliceTo (buffer : List UInt8) (bound : Nat) : Option (List UInt8) :=
  if bound ≤ buffer.length then some (buffer.take bound) else none

-- The reading loop with the panics that its arithmetic could have: a sum beyond the greatest
-- usize, a difference below zero, a slice beyond the buffer. What is kept when a read does not
-- come back is what was kept before it.
def tryReadOutput (usizeMax maxBytes : Nat) :
    List UInt8 → List UInt8 → List Read → Option (List UInt8)
  | _, output, [] => some output
  | _, output, .Failed :: _ => some output
  | _, output, .Pending :: _ => some output
  | buffer, output, .Data bytes :: rest =>
    if bytes = [] then some output
    else if output.length + bytes.length > usizeMax then none
    else if output.length + bytes.length > maxBytes then
      if output.length > maxBytes then none
      else (sliceTo (readInto buffer bytes) (maxBytes - output.length)).map (output ++ ·)
    else
      (sliceTo (readInto buffer bytes) bytes.length).bind fun slice =>
        tryReadOutput usizeMax maxBytes (readInto buffer bytes) (output ++ slice) rest

-- A way in which the reads can cut the bytes that a child writes to a pipe.
structure CutInto (output : List UInt8) (chunks : List (List UInt8)) : Prop where
  whole : chunks.flatten = output
  nonempty : ∀ chunk ∈ chunks, chunk ≠ []
  bounded : ∀ chunk ∈ chunks, chunk.length ≤ 8192

theorem length_readInto (buffer bytes : List UInt8) (hbytes : bytes.length ≤ buffer.length) :
    (readInto buffer bytes).length = buffer.length := by
  simp only [readInto, List.length_take, List.length_append, List.length_drop]
  omega

theorem sliceTo_readInto (buffer bytes : List UInt8) (bound : Nat)
    (hbytes : bytes.length ≤ buffer.length) (hbound : bound ≤ bytes.length) :
    sliceTo (readInto buffer bytes) bound = some (bytes.take bound) := by
  have hlength := length_readInto buffer bytes hbytes
  rw [sliceTo, if_pos (by omega), readInto, List.take_take, Nat.min_eq_left (by omega),
    List.take_append_of_le_length hbound]

-- From any output so far that is within the limit, by induction on the chunks still to come. The
-- loop has not read more than the limit, so the difference is never below zero.
theorem readOutput_chunks (maxBytes : Nat) (chunks : List (List UInt8)) (output : List UInt8)
    (hnonempty : ∀ chunk ∈ chunks, chunk ≠ []) (hlimit : output.length ≤ maxBytes) :
    readOutput maxBytes output (chunks.map .Data) =
      some (output ++ chunks.flatten.take (maxBytes - output.length)) := by
  induction chunks generalizing output with
  | nil => simp only [List.map_nil, readOutput, List.flatten_nil, List.take_nil, List.append_nil]
  | cons chunk chunks ih =>
    have hchunk : chunk ≠ [] := hnonempty chunk List.mem_cons_self
    simp only [List.map_cons, readOutput, if_neg hchunk, List.flatten_cons]
    by_cases hover : output.length + chunk.length > maxBytes
    · rw [if_pos hover, List.take_append_of_le_length (by omega)]
    · have hkept : chunk.take (maxBytes - output.length) = chunk :=
        List.take_of_length_le (by omega)
      rw [if_neg hover, ih (output ++ chunk)
        (fun other hmem => hnonempty other (List.mem_cons_of_mem _ hmem))
        (by rw [List.length_append]; omega)]
      rw [List.append_assoc, List.take_append, hkept, List.length_append, Nat.sub_sub]

theorem tryReadOutput_chunks (usizeMax maxBytes : Nat) (chunks : List (List UInt8))
    (buffer output : List UInt8) (hnonempty : ∀ chunk ∈ chunks, chunk ≠ [])
    (hbounded : ∀ chunk ∈ chunks, chunk.length ≤ buffer.length)
    (hlimit : output.length ≤ maxBytes)
    (hsize : output.length + chunks.flatten.length ≤ usizeMax) :
    tryReadOutput usizeMax maxBytes buffer output (chunks.map .Data) =
      readOutput maxBytes output (chunks.map .Data) := by
  induction chunks generalizing buffer output with
  | nil => rfl
  | cons chunk chunks ih =>
    have hchunk : chunk ≠ [] := hnonempty chunk List.mem_cons_self
    have hfits : chunk.length ≤ buffer.length := hbounded chunk List.mem_cons_self
    rw [List.flatten_cons, List.length_append] at hsize
    simp only [List.map_cons, tryReadOutput, readOutput, if_neg hchunk,
      if_neg (show ¬output.length + chunk.length > usizeMax by omega),
      if_neg (show ¬output.length > maxBytes by omega)]
    by_cases hover : output.length + chunk.length > maxBytes
    · rw [if_pos hover, if_pos hover, sliceTo_readInto buffer chunk _ hfits (by omega)]
      rfl
    · rw [if_neg hover, if_neg hover, sliceTo_readInto buffer chunk _ hfits (by omega),
        Option.bind_some, List.take_length]
      refine ih (readInto buffer chunk) (output ++ chunk) ?_ ?_ ?_ ?_
      · exact fun other hmem => hnonempty other (List.mem_cons_of_mem _ hmem)
      · intro other hmem
        rw [length_readInto buffer chunk hfits]
        exact hbounded other (List.mem_cons_of_mem _ hmem)
      · rw [List.length_append]
        omega
      · rw [List.length_append]
        omega

section Captured

variable {output : List UInt8} {chunks : List (List UInt8)}

theorem CutInto.readOutput_eq (hcut : CutInto output chunks) (maxBytes : Nat) :
    readOutput maxBytes [] (chunks.map .Data) =
      some (output.take (min output.length maxBytes)) := by
  rw [readOutput_chunks maxBytes chunks [] hcut.nonempty (Nat.zero_le _), hcut.whole,
    List.nil_append, List.length_nil, Nat.sub_zero, Nat.min_comm, ← List.take_eq_take_min]

theorem CutInto.tryReadOutput_eq (hcut : CutInto output chunks) (usizeMax maxBytes : Nat)
    (hsize : output.length ≤ usizeMax) :
    tryReadOutput usizeMax maxBytes emptyBuffer [] (chunks.map .Data) =
      some (output.take (min output.length maxBytes)) := by
  have hbounded : ∀ chunk ∈ chunks, chunk.length ≤ emptyBuffer.length := by
    rw [emptyBuffer, List.length_replicate]
    exact hcut.bounded
  rw [tryReadOutput_chunks usizeMax maxBytes chunks emptyBuffer [] hcut.nonempty hbounded
    (Nat.zero_le _) (by rw [hcut.whole, List.length_nil]; omega), hcut.readOutput_eq]

end Captured

-- Whatever the child writes to its pipes and however the reads cut it, the result holds the first
-- bytes of each, up to the limit. No step of the two loops panics, on a machine whose words can
-- count the bytes written.
theorem captured_output_first_bytes (output errors : List UInt8)
    (outputChunks errorChunks : List (List UInt8)) (houtput : CutInto output outputChunks)
    (herrors : CutInto errors errorChunks) (code : Option Int) (command : String)
    (args : List String) (config : ExecConfig) :
    executeCommand (.ok ⟨outputChunks.map .Data, errorChunks.map .Data, .Exited code⟩) command
        args config =
      ([.Spawn command args],
        some (.ok ⟨output.take (min output.length config.maxOutputBytes),
          errors.take (min errors.length config.maxOutputBytes), code.getD (-1)⟩)) ∧
    (∀ usizeMax, output.length ≤ usizeMax →
      tryReadOutput usizeMax config.maxOutputBytes emptyBuffer [] (outputChunks.map .Data) =
        some (output.take (min output.length config.maxOutputBytes))) ∧
    ∀ usizeMax, errors.length ≤ usizeMax →
      tryReadOutput usizeMax config.maxOutputBytes emptyBuffer [] (errorChunks.map .Data) =
        some (errors.take (min errors.length config.maxOutputBytes)) := by
  refine ⟨?_, ?_, ?_⟩
  · simp only [executeCommand, Child.captured, houtput.readOutput_eq, herrors.readOutput_eq,
      Option.map_some]
  · intro usizeMax hsize
    exact houtput.tryReadOutput_eq usizeMax config.maxOutputBytes hsize
  · intro usizeMax hsize
    exact herrors.tryReadOutput_eq usizeMax config.maxOutputBytes hsize

theorem captured_output_first_bytes_cut :
    CutInto [1, 2, 3] [[1], [2, 3]] ∧ CutInto [] [] ∧
    executeCommand (.ok ⟨[.Data [1], .Data [2, 3]], [], .Exited (some 0)⟩) "cat" [] ⟨300, 2⟩ =
      ([.Spawn "cat" []], some (.ok ⟨[1, 2], [], 0⟩)) := by
  have houtput : CutInto [1, 2, 3] [[1], [2, 3]] := ⟨rfl, by decide, by decide⟩
  have herrors : CutInto [] [] := ⟨rfl, by decide, by decide⟩
  exact ⟨houtput, herrors, (captured_output_first_bytes [1, 2, 3] [] [[1], [2, 3]] [] houtput
    herrors (some 0) "cat" [] ⟨300, 2⟩).1⟩

end Pact.Agent.Shell
