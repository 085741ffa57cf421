import IdentityToken.Json.Basic
import IdentityToken.Json.Scan
/-!
# Reading JSON

`Scan.value d` reads a value in which at most `d` arrays and objects stand around each other.
`Scan.anyValue` passes over a value of any depth whose content does not matter. `Json.ofBytes?`
reads a whole text.
-/

namespace IdentityToken.Json

namespace Scan

/-- A value that is neither an array nor an object. -/
def scalar : Scan Json := fun b =>
  match b with
  | [] => none
  | c :: _ =>
    if c = ascii 'n' then (word ['n', 'u', 'l', 'l'] b).map (null, ·)
    else if c = ascii 't' then (word ['t', 'r', 'u', 'e'] b).map (bool true, ·)
    else if c = ascii 'f' then (word ['f', 'a', 'l', 's', 'e'] b).map (bool false, ·)
    else if c = ascii '"' then (string b).map fun (s, rest) => (Json.string s, rest)
    else (number b).map fun (n, rest) => (Json.number n, rest)

/-- A value after leading blanks, at most as many arrays and objects deep as given. Of members with
one name the last is kept. -/
def value : Nat → Scan Json
  | 0 => fun b => scalar (skipBlanks b)
  | depth + 1 => fun b =>
    let b := skipBlanks b
    match b with
    | [] => none
    | c :: _ =>
      if c = ascii '[' then
        (items '[' ']' (fun _ => value depth) b).map fun (xs, rest) => (array xs, rest)
      else if c = ascii '{' then
        (members (fun _ => value depth) b).map fun (ms, rest) => (object (.ofList ms), rest)
      else scalar b

def anyScalar : Scan Unit := fun b =>
  match b with
  | [] => none
  | c :: _ =>
    if c = ascii 'n' then (word ['n', 'u', 'l', 'l'] b).map ((), ·)
    else if c = ascii 't' then (word ['t', 'r', 'u', 'e'] b).map ((), ·)
    else if c = ascii 'f' then (word ['f', 'a', 'l', 's', 'e'] b).map ((), ·)
    else if c = ascii '"' then anyString b
    else (literal b).map fun (_, rest) => ((), rest)

/-- The rest after a value of which only the form matters, at most as deep as given. -/
def anyValueWithin : Nat → Scan Unit
  | 0 => fun b => anyScalar (skipBlanks b)
  | depth + 1 => fun b =>
    let b := skipBlanks b
    match b with
    | [] => none
    | c :: _ =>
      if c = ascii '[' then
        (items '[' ']' (fun _ => anyValueWithin depth) b).map fun (_, rest) => ((), rest)
      else if c = ascii '{' then
        (items '{' '}' (fun _ => member anyString fun _ => anyValueWithin depth) b).map
          fun (_, rest) => ((), rest)
      else anyScalar b

/-- The rest after a value of which only the form matters. Each level takes an octet, so that depth
is no limit. -/
def anyValue : Scan Unit := fun b => anyValueWithin b.length b

end Scan

def maxDepth : Nat := 127

def ofBytes? (b : Bytes) : Option Json := Scan.complete (Scan.value maxDepth) b

def ofString? (s : String) : Option Json := ofBytes? (Text.utf8 s)

end IdentityToken.Json
