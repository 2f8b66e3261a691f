import LexSpan.CharClass

/-!
# Sets of characters

A `CharSet` is a set of characters put together from the named classes, from listed characters and
by complement. `members` lists the code points of a set within bounds, and `runs` groups ascending
numbers into maximal runs.
-/

namespace LexSpan

/-- A description of a set of characters. -/
inductive CharSet where
  | all
  | none
  | named (kind : CharClass)
  | oneOf (chars : List Char)
  | noneOf (chars : List Char)
  | complement (set : CharSet)

/-- The last code point. -/
def lastCodePoint : Nat := 0x10ffff

namespace CharSet

/-- Whether `c` is in the set. -/
def contains (c : Char) : CharSet → Bool
  | all => true
  | none => false
  | named kind => kind.contains c
  | oneOf chars => chars.contains c
  | noneOf chars => !chars.contains c
  | complement set => !set.contains c

/-- Whether `n` is the code point of a character of the set; a surrogate is no character. -/
def containsCodePoint (set : CharSet) (n : Nat) : Bool :=
  decide n.isValidChar && set.contains (Char.ofNat n)

/-- The code points of the set from `first` to `last`, ascending. -/
def members (set : CharSet) (first last : Nat) : List Nat :=
  (List.range' first (min (last + 1) (lastCodePoint + 1) - first)).filter set.containsCodePoint

end CharSet

/-- Adds a number to runs of consecutive numbers, the newest run first. -/
def addToRuns (runs : List (Nat × Nat)) (n : Nat) : List (Nat × Nat) :=
  match runs with
  | [] => [(n, n)]
  | (first, last) :: older => if n = last + 1 then (first, n) :: older else (n, n) :: runs

/-- The maximal runs of consecutive numbers in an ascending list, by their first and last. -/
def runs (ns : List Nat) : List (Nat × Nat) := (ns.foldl addToRuns []).reverse

end LexSpan
