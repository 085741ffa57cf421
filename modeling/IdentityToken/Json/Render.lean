import IdentityToken.Json.Basic
import IdentityToken.Text.Utf8
/-!
# JSON as text

A value is written in one of two layouts: `compact`, without blanks, or `indented`, with a line for
each item and two spaces for each level. Strings escape what must be escaped and nothing else.
-/

namespace IdentityToken.Json

/-- Where blanks stand in a written value: before an item at a level and the mark that closes it,
and between a name and its value. -/
structure Layout where
  line : Nat → List Char
  colon : List Char

namespace Layout

def compact : Layout := ⟨fun _ => [], [':']⟩

def indented : Layout := ⟨fun level => '\n' :: List.replicate (2 * level) ' ', [':', ' ']⟩

end Layout

def hexDigit (n : Nat) : Char := Nat.digitChar n

/-- A character inside a string: quotation mark, reverse solidus and control characters are escaped,
the usual ones by a letter. -/
def escape (c : Char) : List Char :=
  if c = '"' then ['\\', '"']
  else if c = '\\' then ['\\', '\\']
  else if c.toNat = 0x08 then ['\\', 'b']
  else if c.toNat = 0x09 then ['\\', 't']
  else if c.toNat = 0x0A then ['\\', 'n']
  else if c.toNat = 0x0C then ['\\', 'f']
  else if c.toNat = 0x0D then ['\\', 'r']
  else if c.toNat < 0x20 then
    ['\\', 'u', '0', '0', hexDigit (c.toNat / 16), hexDigit (c.toNat % 16)]
  else [c]

def quoted (s : String) : List Char := '"' :: s.toList.flatMap escape ++ ['"']

mutual

/-- A tree as text that starts at a level. -/
def Raw.render (l : Layout) (level : Nat) : Raw → List Char
  | .null => ['n', 'u', 'l', 'l']
  | .bool true => ['t', 'r', 'u', 'e']
  | .bool false => ['f', 'a', 'l', 's', 'e']
  | .number n => n.render
  | .string s => quoted s
  | .array [] => ['[', ']']
  | .array (x :: xs) =>
    '[' :: l.line (level + 1) ++ x.render l (level + 1) ++ Raw.renderItems l (level + 1) xs
      ++ l.line level ++ [']']
  | .object [] => ['{', '}']
  | .object ((k, x) :: ms) =>
    '{' :: l.line (level + 1) ++ quoted k ++ l.colon ++ x.render l (level + 1)
      ++ Raw.renderMembers l (level + 1) ms ++ l.line level ++ ['}']

def Raw.renderItems (l : Layout) (level : Nat) : List Raw → List Char
  | [] => []
  | x :: xs => ',' :: l.line level ++ x.render l level ++ Raw.renderItems l level xs

def Raw.renderMembers (l : Layout) (level : Nat) : List (String × Raw) → List Char
  | [] => []
  | (k, x) :: ms =>
    ',' :: l.line level ++ quoted k ++ l.colon ++ x.render l level ++ Raw.renderMembers l level ms

end

def render (l : Layout) (x : Json) : String := String.ofList (x.raw.render l 0)

def compact (x : Json) : String := x.render .compact

def pretty (x : Json) : String := x.render .indented

example : compact (array [null, string "a\n\x01\"", object ∅]) =
    "[null,\"a\\n\\u0001\\\"\",\x7b\x7d]" := by
  decide +kernel

end IdentityToken.Json
