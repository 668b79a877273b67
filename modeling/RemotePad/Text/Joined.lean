/-!
# Joined texts

`joinWith` puts a separator between texts, `splitOn` cuts a text at every separator.
-/

namespace RemotePad

/-- Texts with a separator between them. -/
def joinWith (separator : Char) : List (List Char) → List Char
  | [] => []
  | [t] => t
  | t :: rest => t ++ separator :: joinWith separator rest

/-- The parts of a text between separators; a text without a separator is one part. -/
def splitOn (separator : Char) : List Char → List (List Char)
  | [] => [[]]
  | c :: rest =>
    if c = separator then [] :: splitOn separator rest
    else
      match splitOn separator rest with
      | [] => [[c]]
      | part :: parts => (c :: part) :: parts

end RemotePad
