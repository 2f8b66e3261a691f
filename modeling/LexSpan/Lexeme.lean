import LexSpan.Shape
import LexSpan.Token

/-!
# Lexemes

The tokens that a text is split into: each has one of six kinds, and each kind one shape.
-/

namespace LexSpan

/-- The kinds of token in a text. -/
inductive Kind where
  | whiteSpace
  | newLine
  | identifier
  | number
  | string
  | symbol
deriving DecidableEq

namespace Kind

/-- The name of a kind in what the program prints. -/
def name : Kind → String
  | whiteSpace => "whitespace"
  | newLine => "newline"
  | identifier => "identifier"
  | number => "number"
  | string => "string"
  | symbol => "symbol"

/-- Whether tokens of this kind only separate others. -/
def isTrivia : Kind → Bool
  | whiteSpace | newLine => true
  | _ => false

/-- How tokens of this kind are read. A symbol is whatever character nothing else starts with. -/
def shape : Kind → Shape
  | whiteSpace => .run isWhiteSpace
  | newLine => .run isNewLine
  | identifier => .identifier
  | number => .decimal
  | string => .quoted none
  | symbol => .anyChar

/-- The order in which the kinds are tried. -/
def order : List Kind := [string, whiteSpace, newLine, identifier, number, symbol]

end Kind

/-- A token with its kind. -/
structure Lexeme extends Token where
  kind : Kind
deriving DecidableEq

end LexSpan
