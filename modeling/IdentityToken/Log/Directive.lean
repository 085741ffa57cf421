import IdentityToken.Log.Pattern
import IdentityToken.Text.Split
import IdentityToken.Text.Utf8
/-!
# Directives of a filter

A directive is spelled `target[span{field=pattern}]=level`, and all of its parts may be left out. It
is for the events whose source has a name that begins with the target. A directive with a span is
for what happens during a named stretch of a run, and one with a pattern is for the values of a
field. `Directive.ofText` reads a directive.
-/

namespace IdentityToken.Log

/-- What a directive asks of the fields of an event. -/
structure FieldTest where
  name : String
  hasPattern : Bool
deriving DecidableEq

/-- A rule of a filter: what is shown of the sources whose names begin with the target. -/
structure Directive where
  target : Option String := none
  span : Option String := none
  field : Option FieldTest := none
  rank : Nat := 5
deriving DecidableEq

/-- Why a text is no directive. It is torn if a part would begin or end inside a character. -/
inductive DirectiveError where
  | malformed
  | torn
deriving DecidableEq

/-! ## Levels -/

def levelNames : List (String × Nat) :=
  [("off", 0), ("error", 1), ("warn", 2), ("info", 3), ("debug", 4), ("trace", 5)]

/-- The rank of a level that is given by its number, which may have a plus sign, or by its name in
any case. -/
def rank? (text : String) : Option Nat :=
  let digits := match text.toList with
    | '+' :: ds => ds
    | ds => ds
  if !digits.isEmpty && digits.all Char.isDigit then
    let n := digits.foldl (fun n d => 10 * n + (d.toNat - 0x30)) 0
    if n ≤ 5 then some n else none
  else levelNames.lookup (String.ofList (text.toList.map Char.toLower))

/-! ## Values -/

def spanDigits (cs : List Char) : Nat × List Char :=
  ((cs.takeWhile Char.isDigit).length, cs.dropWhile Char.isDigit)

/-- Whether a text spells a number without a sign: digits with or without a point and a power of
ten, infinity, or no number. -/
def isUnsignedNumber (s : String) : Bool :=
  let cs := s.toList.map Char.toLower
  let (whole, rest) := spanDigits cs
  let (fraction, rest) := match rest with
    | '.' :: rest => spanDigits rest
    | rest => (0, rest)
  let isPower := match rest with
    | [] => true
    | 'e' :: rest =>
      let ds := match rest with
        | '+' :: ds => ds
        | '-' :: ds => ds
        | ds => ds
      !ds.isEmpty && ds.all Char.isDigit
    | _ => false
  String.ofList cs ∈ ["inf", "infinity", "nan"] || 0 < whole + fraction && isPower

/-- Whether a text can stand for the values of a field: it is a number or a pattern. -/
def isValue (s : String) : Bool :=
  isPattern s ||
    match s.toList with
    | '+' :: cs => isUnsignedNumber (String.ofList cs)
    | _ => false

namespace FieldTest

/-- The test that a text between braces spells: a name, perhaps with the pattern of its values. What
follows a second equals sign does not matter. -/
def ofText? (text : String) : Option FieldTest :=
  if text = "" then none
  else
    match Text.split '=' text with
    | [] => none
    | [name] => some ⟨name, false⟩
    | name :: value :: _ => if isValue value then some ⟨name, true⟩ else none

end FieldTest

namespace Directive

/-- Whether a character begins in front of the octet at a place, or the text ends there. -/
def isBoundary (b : Bytes) (place : Nat) : Bool := b[place]?.all fun o => o &&& 0xC0 != 0x80

def part (b : Bytes) (start stop : Nat) : Except DirectiveError String :=
  if isBoundary b start && isBoundary b stop then
    match Text.ofUtf8? ((b.take stop).drop start) with
    | some s => .ok s
    | none => .error .torn
  else .error .torn

def ascii (c : Char) : UInt8 := c.toNat.toUInt8

/-- The first place from a given one on where one of some marks stands, with that mark. -/
def mark? (b : Bytes) (start : Nat) (marks : List Char) : Option (Nat × Char) := do
  let before := (b.drop start).takeWhile fun o => marks.all fun c => o != ascii c
  let place := start + before.length
  some (place, ← marks.find? fun c => b[place]? == some (ascii c))

/-- The rank that is spelled from a place on; everything is shown if nothing is. -/
def rankFrom (text : Bytes) (start : Nat) : Except DirectiveError Nat := do
  let level ← part text start text.length
  if level = "" then .ok 5
  else
    match rank? level with
    | some n => .ok n
    | none => .error .malformed

def isNameStart (c : Char) : Bool := c ∈ ['-', ':', '_'] || Text.isAlphanumeric c

/-- The directive with the level that an equals sign gives, if there is one. -/
def withLevel (text marks : Bytes) (place : Nat) (d : Directive) :
    Except DirectiveError Directive := do
  match marks[place]? with
  | none => .ok d
  | some o =>
    if o = ascii '=' then .ok { d with rank := ← rankFrom text (place + 1) }
    else .error .malformed

/-- The directive with the field that is spelled from a place on after an opening brace. -/
def withField (text marks : Bytes) (place : Nat) (d : Directive) :
    Except DirectiveError Directive := do
  match mark? marks place ['\x7d'] with
  | none => .error .malformed
  | some (stop, _) =>
    match FieldTest.ofText? (← part text place stop) with
    | none => .error .malformed
    | some test =>
      if marks[stop + 1]? = some (ascii ']') then
        withLevel text marks (stop + 2) { d with field := some test }
      else .error .malformed

/-- The directive with the span that is spelled from a place on after an opening bracket. -/
def withSpan (text marks : Bytes) (place : Nat) (d : Directive) :
    Except DirectiveError Directive := do
  match mark? marks place [']', '\x7b'] with
  | none => .error .malformed
  | some (stop, mark) =>
    let name ← part text place stop
    if mark = ']' then withLevel text marks (stop + 1) { d with span := some name }
    else withField text marks (stop + 1) { d with span := if name = "" then none else some name }

/-- The directive that a text spells. White space around it belongs to its parts, but the places of
its marks are counted without the white space in front. -/
def ofText (s : String) : Except DirectiveError Directive := do
  let text := Text.utf8 s
  let trimmed := Text.trim s
  let marks := Text.utf8 trimmed
  match trimmed.toList with
  | [] => .error .malformed
  | c :: _ =>
    if c = '[' then withSpan text marks 1 {}
    else if !isNameStart c then .error .malformed
    else
      match mark? marks 0 ['=', '['] with
      | none =>
        match rank? s with
        | some n => .ok { rank := n }
        | none => .ok { target := some s }
      | some (stop, mark) =>
        let d : Directive := { target := some (← part text 0 stop) }
        if mark = '=' then withLevel text marks stop d else withSpan text marks (stop + 1) d

end Directive

end IdentityToken.Log
