import IdentityToken.Yaml.Cursor
/-!
# Scalars of YAML

A scalar is written plain, between quotation marks of two kinds, or as a block of lines. Lines of
plain and quoted scalars are folded: a single line break is a space, and of several the first is
dropped (`Gap.text`).
-/

namespace IdentityToken.Yaml

inductive Style where
  | plain
  | singleQuoted
  | doubleQuoted
  | literal
  | folded
deriving DecidableEq

/-- What stands between two words of a scalar. The first line break is missing if it was escaped. -/
inductive Gap where
  | blanks (cs : List Char)
  | breaks (first : Option Char) (more : List Char)

namespace Gap

def text : Gap → List Char
  | blanks cs => cs
  | breaks (some '\n') [] => [' ']
  | breaks (some '\n') more => more
  | breaks first more => first.toList ++ more

def isBroken : Gap → Bool
  | blanks _ => false
  | breaks _ _ => true

/-- Extends a gap by the blanks and line breaks in front. At the start of a line no tab may stand
before the given column. -/
def scan (margin : Nat) : Nat → Gap → Cursor → Option (Gap × Cursor)
  | 0, g, c => some (g, c)
  | fuel + 1, g, c =>
    match c.peek? 0 with
    | none => some (g, c)
    | some d =>
      if isBlank d then
        match g with
        | .blanks cs => scan margin fuel (.blanks (cs ++ [d])) (c.skip 1)
        | g => if d = '\t' ∧ c.column < margin then none else scan margin fuel g (c.skip 1)
      else if isBreak d then
        match g with
        | .blanks _ => scan margin fuel (.breaks (some d) []) c.skipBreak
        | .breaks first more => scan margin fuel (.breaks first (more ++ [d])) c.skipBreak
      else some (g, c)

end Gap

/-! ## Plain scalars -/

/-- The word at the front of a plain scalar. It ends at a blank, at a colon before a blank, and
inside brackets at their marks; a colon before such a mark is an error. -/
def plainWord (inFlow : Bool) : List Char → Option (List Char)
  | [] => some []
  | c :: rest =>
    if isBlank c || isBreak c then some []
    else if inFlow && c == ':' &&
        (rest.head?.any fun d => d ∈ [',', '?', '[', ']', '\x7b', '\x7d']) then none
    else if c == ':' && (rest.head?.all fun d => isBlank d || isBreak d) then some []
    else if inFlow && c ∈ [',', '[', ']', '\x7b', '\x7d'] then some []
    else (plainWord inFlow rest).map (c :: ·)

/-- A plain scalar from a place on, with the gap after it. Outside of brackets its lines start at
the given column at least. -/
def plain (inFlow : Bool) (margin : Nat) :
    Nat → List Char → Gap → Cursor → Option (List Char × Gap × Cursor)
  | 0, _, _, _ => none
  | fuel + 1, text, gap, c =>
    if c.isDocumentMark || c.isAt 0 '#' then some (text, gap, c)
    else do
      let word ← plainWord inFlow c.rest
      let (text, gap) :=
        if word.isEmpty then (text, gap) else (text ++ gap.text ++ word, .blanks [])
      let c := c.skip word.length
      if c.rest.isEmpty || !c.isGapAt 0 then some (text, gap, c)
      else
        let (gap, c) ← gap.scan margin c.rest.length c
        if !inFlow && c.column < margin then some (text, gap, c)
        else plain inFlow margin fuel text gap c

/-! ## Quoted scalars -/

/-- A word between single quotation marks, and the rest. A mark inside is written twice. -/
def singleWord : List Char → List Char × List Char
  | [] => ([], [])
  | '\'' :: '\'' :: rest => let (word, rest) := singleWord rest; ('\'' :: word, rest)
  | '\'' :: rest => ([], '\'' :: rest)
  | c :: rest =>
    if isBlank c || isBreak c then ([], c :: rest)
    else let (word, rest) := singleWord rest; (c :: word, rest)

def hexValue? (c : Char) : Option Nat :=
  if '0' ≤ c ∧ c ≤ '9' then some (c.toNat - 0x30)
  else if 'a' ≤ c ∧ c ≤ 'f' then some (c.toNat - 0x57)
  else if 'A' ≤ c ∧ c ≤ 'F' then some (c.toNat - 0x37)
  else none

def hexChar? (ds : List Char) : Option Char := do
  let n ← ds.foldlM (fun n d => (hexValue? d).map (16 * n + ·)) 0
  if 0xD800 ≤ n ∧ n ≤ 0xDFFF ∨ 0x10FFFF < n then none else some (Char.ofNat n)

/-- The character that an escape denotes, given what stands after the reverse solidus, and the
rest. -/
def escape? : List Char → Option (Char × List Char)
  | [] => none
  | c :: rest =>
    let coded (n : Nat) : Option (Char × List Char) :=
      if rest.length < n then none else (hexChar? (rest.take n)).map (·, rest.drop n)
    match c with
    | 'x' => coded 2
    | 'u' => coded 4
    | 'U' => coded 8
    | _ => (named c).map (·, rest)
where
  named : Char → Option Char
    | '0' => some '\x00'
    | 'a' => some '\x07'
    | 'b' => some '\x08'
    | 't' => some '\t'
    | '\t' => some '\t'
    | 'n' => some '\n'
    | 'v' => some '\x0b'
    | 'f' => some '\x0c'
    | 'r' => some '\r'
    | 'e' => some '\x1b'
    | ' ' => some ' '
    | '"' => some '"'
    | '/' => some '/'
    | '\\' => some '\\'
    | 'N' => some '\u0085'
    | '_' => some '\u00a0'
    | 'L' => some '\u2028'
    | 'P' => some '\u2029'
    | _ => none

/-- A word between double quotation marks, the rest, and whether an escaped line break follows. -/
def doubleWord : Nat → List Char → Option (List Char × List Char × Bool)
  | 0, _ => none
  | _ + 1, [] => some ([], [], false)
  | fuel + 1, c :: rest =>
    if isBlank c || isBreak c || c == '"' then some ([], c :: rest, false)
    else if c == '\\' then
      if rest.head?.any isBreak then some ([], rest, true)
      else do
        let (e, rest) ← escape? rest
        let (word, rest, broken) ← doubleWord fuel rest
        some (e :: word, rest, broken)
    else do
      let (word, rest, broken) ← doubleWord fuel rest
      some (c :: word, rest, broken)

def quoted (double : Bool) : Nat → List Char → Cursor → Option (List Char × Cursor)
  | 0, _, _ => none
  | fuel + 1, text, c =>
    if c.isDocumentMark || c.rest.isEmpty then none
    else do
      let (word, rest, broken) ←
        if double then doubleWord (c.rest.length + 1) c.rest
        else
          let (word, rest) := singleWord c.rest
          some (word, rest, false)
      let c := c.skip (c.rest.length - rest.length)
      let (gap, c) : Gap × Cursor :=
        if broken then (.breaks none [], c.skipBreak) else (.blanks [], c)
      if c.isAt 0 (if double then '"' else '\'') then some (text ++ word, c.skip 1)
      else
        let (gap, c) ← gap.scan 0 c.rest.length c
        quoted double fuel (text ++ word ++ gap.text) c

/-! ## Block scalars -/

/-- What becomes of the line breaks at the end of a block scalar. -/
inductive Chomping where
  | strip
  | clip
  | keep
deriving DecidableEq

/-- The header of a block scalar: the chomping and how many columns it is indented further, if that
is given. -/
def blockHeader (c : Cursor) : Option (Chomping × Option Nat × Cursor) := do
  let chomping (c : Cursor) : Option Chomping × Cursor :=
    if c.isAt 0 '+' then (some .keep, c.skip 1)
    else if c.isAt 0 '-' then (some .strip, c.skip 1)
    else (none, c)
  let columns (c : Cursor) : Option (Option Nat × Cursor) :=
    match c.peek? 0 with
    | some d =>
      if d = '0' then none
      else if d.isDigit then some (some (d.toNat - 0x30), c.skip 1)
      else some (none, c)
    | none => some (none, c)
  let (first, c) := chomping c
  let (indented, c) ← columns c
  let (second, c) := if first.isNone && indented.isSome then chomping c else (first, c)
  let c := (c.skipWhile isBlank).skipComment
  if !c.isLineEnd then none
  else
    let c := if c.rest.isEmpty then c else c.skipBreak
    some (second.getD .clip, indented, c)

/-- The line breaks in front, and the column where the lines of a block start: if it is zero, it is
taken from the widest line of blanks, and is at least `margin` and one. -/
def blockBreaks (margin : Nat) :
    Nat → Nat → Nat → List Char → Cursor → Option (List Char × Nat × Cursor)
  | 0, _, _, _, _ => none
  | fuel + 1, column, widest, breaks, c =>
    let spaces := (c.rest.takeWhile (· == ' ')).length
    let c := c.skip (if column = 0 then spaces else min spaces (column - c.column))
    let widest := max widest c.column
    if (column = 0 ∨ c.column < column) ∧ c.isAt 0 '\t' then none
    else
      match c.peek? 0 with
      | some d =>
        if isBreak d then blockBreaks margin fuel column widest (breaks ++ [d]) c.skipBreak
        else some (breaks, if column = 0 then max widest (max margin 1) else column, c)
      | none => some (breaks, if column = 0 then max widest (max margin 1) else column, c)

/-- The lines of a block scalar. `last` is the line break of the line before, `blank` says whether
that line starts with a blank, and `breaks` are the breaks of empty lines since. -/
def blockLines (folded : Bool) (chomping : Chomping) (margin column : Nat) :
    Nat → List Char → List Char → Bool → List Char → Cursor → Option (List Char × Cursor)
  | 0, _, _, _, _, _ => none
  | fuel + 1, text, last, blank, breaks, c =>
    if c.column = column ∧ !c.rest.isEmpty then do
      let blankNow := (c.peek? 0).any isBlank
      let joint :=
        if folded && last == ['\n'] && !blank && !blankNow then if breaks.isEmpty then [' '] else []
        else last
      let (line, c) := c.span (!isBreak ·)
      let (last, c) : List Char × Cursor :=
        match c.peek? 0 with
        | some d => ([d], c.skipBreak)
        | none => ([], c)
      let (more, _, c) ← blockBreaks margin (c.rest.length + 1) column 0 [] c
      blockLines folded chomping margin column fuel (text ++ joint ++ breaks ++ line) last blankNow
        more c
    else
      some (match chomping with
        | .strip => text
        | .clip => text ++ last
        | .keep => text ++ last ++ breaks, c)

def block (folded : Bool) (margin : Nat) (c : Cursor) : Option (List Char × Cursor) := do
  let (chomping, indented, c) ← blockHeader c
  let column := (indented.map (margin - 1 + ·)).getD 0
  let (breaks, column, c) ← blockBreaks margin (c.rest.length + 1) column 0 [] c
  blockLines folded chomping margin column (c.rest.length + 1) [] [] false breaks c

end IdentityToken.Yaml
