import IdentityToken.Yaml.Property
/-!
# Tokens of YAML

A text is a sequence of tokens. Indentation opens and closes block collections, and a key without a
mark of its own is recognised only at the colon after it: its tokens are inserted then.
`Token.ofText?` gives the tokens of a text.
-/

namespace IdentityToken.Yaml

inductive Token where
  | directive (d : Directive)
  | documentStart
  | documentEnd
  | blockSequenceStart
  | blockMappingStart
  | blockEnd
  | flowSequenceStart
  | flowSequenceEnd
  | flowMappingStart
  | flowMappingEnd
  | blockEntry
  | flowEntry
  | key
  | value
  | alias (name : String)
  | anchor (name : String)
  | tag (t : Tag)
  | scalar (style : Style) (text : String)

/-- A place where a key without a mark may begin, or has to begin because of the indentation. -/
structure KeyStart where
  position : Nat
  index : Nat
  line : Nat
  column : Nat
  required : Bool

/-- The state of reading tokens. What was read and what is open is listed from the latest and the
innermost on. A margin is the column of a block collection plus one. -/
structure Lexer where
  cursor : Cursor
  tokens : List Token := []
  keys : List (Option KeyStart) := [none]
  margins : List Nat := []
  keyAllowed : Bool := true

namespace Lexer

def inFlow (s : Lexer) : Bool := 1 < s.keys.length

/-- The column of the innermost block collection plus one, and zero outside of all. -/
def margin (s : Lexer) : Nat := s.margins.headD 0

def push (s : Lexer) (t : Token) : Lexer := { s with tokens := t :: s.tokens }

/-- Inserts a token before those from a position on. -/
def insert (s : Lexer) (position : Nat) (t : Token) : Lexer :=
  let later := s.tokens.length - position
  { s with tokens := s.tokens.take later ++ t :: s.tokens.drop later }

/-- Gives up the possible keys that began in an earlier line or too far away. -/
def dropStaleKeys (s : Lexer) : Option Lexer := do
  let keys ← s.keys.mapM fun k =>
    match k with
    | none => some none
    | some k =>
      if k.line < s.cursor.line ∨ k.index + 1024 < s.cursor.index then
        if k.required then none else some none
      else some (some k)
  some { s with keys }

/-- Gives up the possible key of the innermost brackets. -/
def dropKey (s : Lexer) : Option Lexer :=
  match s.keys with
  | some k :: keys => if k.required then none else some { s with keys := none :: keys }
  | _ => some s

def saveKey (s : Lexer) : Option Lexer :=
  if s.keyAllowed then do
    let s ← s.dropKey
    let c := s.cursor
    let k : KeyStart :=
      ⟨s.tokens.length, c.index, c.line, c.column, !s.inFlow && s.margin == c.column + 1⟩
    some { s with keys := some k :: s.keys.drop 1 }
  else some s

/-- Opens a block collection at a column, if it is further in than all others. -/
def openBlock (s : Lexer) (column position : Nat) (t : Token) : Lexer :=
  if !s.inFlow && s.margin ≤ column then
    { s.insert position t with margins := (column + 1) :: s.margins }
  else s

/-- Closes the block collections of greater margins. -/
def closeBlocks (s : Lexer) (margin : Nat) : Lexer :=
  if s.inFlow then s
  else
    let closed := (s.margins.takeWhile (margin < ·)).length
    { s with
      margins := s.margins.drop closed
      tokens := List.replicate closed .blockEnd ++ s.tokens }

/-- Passes over blanks, comments, line breaks and a mark of the order of octets in front of a line.
A new line outside of brackets may begin with a key. -/
def skipGap (s : Lexer) : Nat → Lexer
  | 0 => s
  | fuel + 1 =>
    let c := s.cursor.skipOrderMark.skipWhile fun d =>
      d == ' ' || d == '\t' && (s.inFlow || !s.keyAllowed)
    let c := c.skipComment
    if (c.peek? 0).any isBreak then
      { s with cursor := c.skipBreak, keyAllowed := s.keyAllowed || !s.inFlow }.skipGap fuel
    else { s with cursor := c }

def mark (s : Lexer) (n : Nat) (t : Token) : Lexer := { s.push t with cursor := s.cursor.skip n }

def documentMark (s : Lexer) (t : Token) : Option Lexer := do
  let s ← (s.closeBlocks 0).dropKey
  some { s.mark 3 t with keyAllowed := false }

def directive (s : Lexer) : Option Lexer := do
  let s ← (s.closeBlocks 0).dropKey
  let (d, c) ← Yaml.directive (s.cursor.skip 1)
  some { s.push (.directive d) with cursor := c, keyAllowed := false }

def openFlow (s : Lexer) (t : Token) : Option Lexer := do
  let s ← s.saveKey
  some { s.mark 1 t with keys := none :: s.keys, keyAllowed := true }

def closeFlow (s : Lexer) (t : Token) : Option Lexer := do
  let s ← s.dropKey
  some { s.mark 1 t with keys := if s.inFlow then s.keys.drop 1 else s.keys, keyAllowed := false }

def flowEntry (s : Lexer) : Option Lexer := do
  let s ← s.dropKey
  some { s.mark 1 .flowEntry with keyAllowed := true }

def blockEntry (s : Lexer) : Option Lexer := do
  if !s.inFlow && !s.keyAllowed then none
  else
    let s := s.openBlock s.cursor.column s.tokens.length .blockSequenceStart
    let s ← s.dropKey
    some { s.mark 1 .blockEntry with keyAllowed := true }

def key (s : Lexer) : Option Lexer := do
  if !s.inFlow && !s.keyAllowed then none
  else
    let s := s.openBlock s.cursor.column s.tokens.length .blockMappingStart
    let s ← s.dropKey
    some { s.mark 1 .key with keyAllowed := !s.inFlow }

/-- The mark of a value. If a key may have begun before, it did. -/
def value (s : Lexer) : Option Lexer :=
  match s.keys with
  | some k :: keys =>
    let s := (s.insert k.position .key).openBlock k.column k.position .blockMappingStart
    some { s.mark 1 .value with keys := none :: keys, keyAllowed := false }
  | _ =>
    if !s.inFlow && !s.keyAllowed then none
    else
      let s := s.openBlock s.cursor.column s.tokens.length .blockMappingStart
      some { s.mark 1 .value with keyAllowed := !s.inFlow }

/-- Something that a key may begin with, read from a place after its first characters. -/
def content {α : Type} (s : Lexer) (skipped : Nat) (read : Cursor → Option (α × Cursor))
    (t : α → Token) : Option Lexer := do
  let s ← s.saveKey
  let (x, c) ← read (s.cursor.skip skipped)
  some { s.push (t x) with cursor := c, keyAllowed := false }

def quotedScalar (s : Lexer) (double : Bool) : Option Lexer :=
  s.content 1 (fun c => quoted double (c.rest.length + 1) [] c) fun text =>
    .scalar (if double then .doubleQuoted else .singleQuoted) (String.ofList text)

/-- A block scalar. No key can be a block. -/
def blockScalar (s : Lexer) (folded : Bool) : Option Lexer := do
  let s ← s.dropKey
  let (text, c) ← block folded s.margin (s.cursor.skip 1)
  some { s.push (.scalar (if folded then .folded else .literal) (String.ofList text)) with
    cursor := c, keyAllowed := true }

/-- A plain scalar. If it ends with a line, a key may follow. -/
def plainScalar (s : Lexer) : Option Lexer := do
  let s ← s.saveKey
  let (text, gap, c) ← plain s.inFlow s.margin (s.cursor.rest.length + 1) [] (.blanks []) s.cursor
  some { s.push (.scalar .plain (String.ofList text)) with cursor := c, keyAllowed := gap.isBroken }

/-- The characters that have a meaning of their own at the start of a token. -/
def indicators : List Char :=
  ['-', '?', ':', ',', '[', ']', '\x7b', '\x7d', '#', '&', '*', '!', '|', '>', '\'', '"', '%', '@',
    '\x60']

def token (s : Lexer) (d : Char) : Option Lexer :=
  let c := s.cursor
  if c.column = 0 ∧ d = '%' then s.directive
  else if c.isDocumentMark then s.documentMark (if d = '-' then .documentStart else .documentEnd)
  else if d = '[' then s.openFlow .flowSequenceStart
  else if d = '\x7b' then s.openFlow .flowMappingStart
  else if d = ']' then s.closeFlow .flowSequenceEnd
  else if d = '\x7d' then s.closeFlow .flowMappingEnd
  else if d = ',' then s.flowEntry
  else if d = '-' ∧ c.isGapAt 1 then s.blockEntry
  else if d = '?' ∧ (s.inFlow ∨ c.isGapAt 1) then s.key
  else if d = ':' ∧ (s.inFlow ∨ c.isGapAt 1) then s.value
  else if d = '*' then s.content 1 anchorName .alias
  else if d = '&' then s.content 1 anchorName .anchor
  else if d = '!' then s.content 0 (tag s.inFlow) .tag
  else if d = '|' ∧ !s.inFlow then s.blockScalar false
  else if d = '>' ∧ !s.inFlow then s.blockScalar true
  else if d = '\'' then s.quotedScalar false
  else if d = '"' then s.quotedScalar true
  else if d ∉ indicators ∧ !isBlank d ∨ d = '-' ∨ (d = '?' ∨ d = ':') ∧ !s.inFlow then s.plainScalar
  else none

def run : Nat → Lexer → Option Lexer
  | 0, _ => none
  | fuel + 1, s => do
    let s ← (s.skipGap (s.cursor.rest.length + 1)).dropStaleKeys
    match s.cursor.peek? 0 with
    | none =>
      (s.closeBlocks 0).dropKey
    | some d => run fuel (← (s.closeBlocks (s.cursor.column + 1)).token d)

end Lexer

def Token.ofText? (text : String) : Option (List Token) := do
  let cs ← normalize? text.toList
  let s ← Lexer.run (cs.length + 1) { cursor := { rest := cs } }
  some s.tokens.reverse

end IdentityToken.Yaml
