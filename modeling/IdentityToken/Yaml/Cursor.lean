/-!
# Places in a YAML text

A cursor is the rest of a text with the place where it begins. Line breaks of several spellings are
made one before a text is read (`normalize?`), which also refuses control characters.
-/

namespace IdentityToken.Yaml

def isBlank (c : Char) : Bool := c == ' ' || c == '\t'

/-- A line break, after other spellings were made `\n`. -/
def isBreak (c : Char) : Bool := c == '\n' || c == '\u2028' || c == '\u2029'

def isAllowed (c : Char) : Bool :=
  let n := c.toNat
  n == 0x09 || n == 0x0A || n == 0x0D || (0x20 ≤ n && n ≤ 0x7E) || n == 0x85 ||
    (0xA0 ≤ n && n ≤ 0xFFFD)
    || 0x10000 ≤ n

/-- A text whose line breaks are `\n` and the two separators of Unicode; none if a character is not
allowed. -/
def normalize? : List Char → Option (List Char)
  | [] => some []
  | c :: rest =>
    if !isAllowed c then none
    else if c = '\r' then
      match rest with
      | '\n' :: rest => (normalize? rest).map ('\n' :: ·)
      | rest => (normalize? rest).map ('\n' :: ·)
    else if c = '\u0085' then (normalize? rest).map ('\n' :: ·)
    else (normalize? rest).map (c :: ·)

/-- The rest of a text and where it begins: how many octets and lines are before, and how many
characters in the line. -/
structure Cursor where
  rest : List Char
  index : Nat := 0
  line : Nat := 0
  column : Nat := 0

namespace Cursor

def peek? (c : Cursor) (n : Nat) : Option Char := c.rest[n]?

def isAt (c : Cursor) (n : Nat) (d : Char) : Bool := c.peek? n == some d

/-- Whether a blank, a line break or the end of the text is at a distance. -/
def isGapAt (c : Cursor) (n : Nat) : Bool := (c.peek? n).all fun d => isBlank d || isBreak d

def isLineEnd (c : Cursor) : Bool := (c.peek? 0).all isBreak

def size (cs : List Char) : Nat := (String.ofList cs).utf8ByteSize

def skip (c : Cursor) (n : Nat) : Cursor :=
  { c with
    rest := c.rest.drop n
    index := c.index + size (c.rest.take n)
    column := c.column + n }

def skipBreak (c : Cursor) : Cursor :=
  { rest := c.rest.drop 1
    index := c.index + size (c.rest.take 1)
    line := c.line + 1
    column := 0 }

/-- The characters in front that have a property, and the place after them. -/
def span (c : Cursor) (p : Char → Bool) : List Char × Cursor :=
  let found := c.rest.takeWhile p
  (found, c.skip found.length)

def skipWhile (c : Cursor) (p : Char → Bool) : Cursor := (c.span p).2

/-- The place after a comment, if there is one. -/
def skipComment (c : Cursor) : Cursor :=
  if c.isAt 0 '#' then c.skipWhile (!isBreak ·) else c

/-- The place after a mark of the order of octets, which a line may start with. It takes up a
column. -/
def skipOrderMark (c : Cursor) : Cursor :=
  if c.column = 0 ∧ c.isAt 0 '\ufeff' then c.skip 1 else c

/-- Whether three marks that open or close a document stand at the start of this line. -/
def isDocumentMark (c : Cursor) : Bool :=
  let three (d : Char) := c.isAt 0 d && c.isAt 1 d && c.isAt 2 d
  c.column == 0 && (three '-' || three '.') && c.isGapAt 3

end Cursor

end IdentityToken.Yaml
