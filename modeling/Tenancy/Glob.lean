/-!
# Globs

A glob is a pattern for a whole text: an asterisk stands for any run of
characters and a question mark for one, neither of them for a line feed, and
every other character stands for itself.  Matching fills one row of a table for
each piece of the pattern, so its cost is the product of the two lengths.
-/

namespace Tenancy

/-- A pattern for whole texts. -/
structure Glob where
  pattern : String
  deriving Repr, DecidableEq, Inhabited

namespace Glob

/-- What one character of a pattern stands for. -/
inductive Piece where
  | run
  | any
  | exactly (char : Char)
  deriving Repr, DecidableEq

/-- The piece of a character of a pattern. -/
def Piece.ofChar : Char → Piece
  | '*' => .run
  | '?' => .any
  | char => .exactly char

/-- Whether a piece other than a run takes a character. -/
def Piece.takes : Piece → Char → Bool
  | .run, char => char != '\n'
  | .any, char => char != '\n'
  | .exactly wanted, char => char == wanted

/-- The pieces of a pattern. -/
def pieces (glob : Glob) : List Piece := glob.pattern.toList.map Piece.ofChar

/-- Whether the first entry of a row is set. -/
def headIsSet (row : List Bool) : Bool := row.head?.getD false

/-- The row of a run in front of a pattern, from the row of the pattern: the run
takes nothing, or a character and goes on. -/
def runRow : List Char → List Bool → List Bool
  | char :: chars, here :: row =>
      let rest := runRow chars row
      (here || (char != '\n' && headIsSet rest)) :: rest
  | _, row => row

/-- The row of a piece for one character in front of a pattern, from the row of
the pattern: the piece takes a character. -/
def takeRow (piece : Piece) : List Char → List Bool → List Bool
  | char :: chars, _ :: row => (piece.takes char && headIsSet row) :: takeRow piece chars row
  | _, _ => [false]

/-- For every suffix of a text, the longest first, whether the pieces match
it. -/
def rows (chars : List Char) : List Piece → List Bool
  | [] => chars.map (fun _ => false) ++ [true]
  | .run :: rest => runRow chars (rows chars rest)
  | piece :: rest => takeRow piece chars (rows chars rest)

/-- Whether a glob matches the whole of a text. -/
def isMatch (glob : Glob) (text : String) : Bool :=
  headIsSet (rows text.toList glob.pieces)

end Glob

/-- A list of globs, any of which may match. -/
structure Globs where
  globs : List Glob
  deriving Repr, DecidableEq, Inhabited

namespace Globs

/-- The globs with the given patterns. -/
def ofPatterns (patterns : List String) : Globs := ⟨patterns.map Glob.mk⟩

/-- The patterns in their order. -/
def patterns (globs : Globs) : List String := globs.globs.map Glob.pattern

/-- Whether there is no glob. -/
def isEmpty (globs : Globs) : Bool := globs.globs.isEmpty

/-- Whether some glob matches a text. -/
def isMatch (globs : Globs) (text : String) : Bool := globs.globs.any (·.isMatch text)

end Globs

end Tenancy
