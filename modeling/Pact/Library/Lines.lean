import Pact.Library.Text

namespace Pact.Library

-- The lines of a text: each ends in a line feed, with or without a carriage return before it,
-- and what follows the last line feed is a line of its own unless it is empty.
def lines (text : String) : List String :=
  let parts := split text '\n'
  parts.dropLast.map (fun line => (stripSuffix line "\r").getD line) ++
    (parts.getLast?.filter (· ≠ "")).toList

def unlines (parts : List String) : String :=
  parts.foldr (fun line rest => line ++ "\n" ++ rest) ""

def splitWhitespace (text : String) : List String :=
  ((text.toList.splitOnP isWhitespace).filter (· ≠ [])).map String.ofList

-- At most so many parts, the last of them with the separators that are left.
def splitn (separator : Char) : Nat → String → List String
  | 0, _ => []
  | 1, text => [text]
  | parts + 2, text =>
    match splitOnce text separator with
    | none => [text]
    | some (first, rest) => first :: splitn separator (parts + 1) rest

theorem lines_append (line rest : String) (hline : '\n' ∉ line.toList) :
    lines (line ++ "\n" ++ rest) = (stripSuffix line "\r").getD line :: lines rest := by
  have hsplit : split (line ++ "\n" ++ rest) '\n' = line :: split rest '\n' :=
    split_append line rest '\n' hline
  have hparts : split rest '\n' ≠ [] := split_ne_nil '\n' rest
  simp only [lines, hsplit, List.dropLast_cons_of_ne_nil hparts, List.map_cons,
    List.getLast?_cons_of_ne_nil hparts, List.cons_append]

end Pact.Library
