/-!
# Texts with separators

`pieces` cuts a text at every separator.
-/

namespace LexSpan

/-- The piece before the first separator, and the pieces behind the separators. -/
def cut (separator : Char) : List Char → List Char × List (List Char)
  | [] => ([], [])
  | c :: cs =>
    let (piece, pieces) := cut separator cs
    if c = separator then ([], piece :: pieces) else (c :: piece, pieces)

/-- The pieces of a text between separators. There is always one, and each may be empty. -/
def pieces (separator : Char) (text : String) : List String :=
  let (piece, pieces) := cut separator text.toList
  (piece :: pieces).map String.ofList

end LexSpan
