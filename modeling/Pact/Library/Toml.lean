import Pact.Library.Lines
import Pact.Library.Map

namespace Pact.Library

-- A TOML library: the top table of a text, and what a value gives where a text, a table, or a
-- record with fields of these names is expected.
structure TomlLibrary where
  Value : Type
  parse : String → Option (Map String Value)
  asText : Value → Option String
  asTable : Value → Option (Map String Value)
  asRecord : List String → Value → Option (Map String Value)

namespace Toml

-- The first character of a line that is no blank.
def mark (line : String) : Option Char := line.toList.find? fun c => c ≠ ' ' && c ≠ '\t'

def opensTable (line : String) : Bool := mark line = some '['

def isSilent (line : String) : Bool := mark line = none || mark line = some '#'

def isBareKey (name : String) : Bool :=
  name ≠ "" && name.toList.all fun c => c.isAlphanum || c = '_' || c = '-'

end Toml

-- What the grammar says of the top table: an entry comes from a line before the first header or
-- from a header. A bare name in brackets makes the entry of that name and no other.
structure TomlLibrary.Lawful (toml : TomlLibrary) : Prop where
  declared : ∀ text table key value, toml.parse text = some table → table.get key = some value →
    (∃ line ∈ (split text '\n').takeWhile (fun line => !Toml.opensTable line),
      Toml.isSilent line = false) ∨
    ∃ line ∈ split text '\n', Toml.opensTable line = true ∧
      ∀ name, Toml.isBareKey name = true → line = "[" ++ name ++ "]" → name = key

end Pact.Library
