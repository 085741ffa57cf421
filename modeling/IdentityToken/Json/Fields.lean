import IdentityToken.Fields
import IdentityToken.Json.Read
/-!
# Records as JSON

A record with fixed fields is read from an object, where its fields may stand in any order among
others that do not matter, or from an array that lists its fields in their order.
-/

namespace IdentityToken.Json

/-- Reads a record from an object or an array. `names` are the names of the fields in their order,
and `field` reads the field of a name. What is found is listed by name; members of other names are
passed over. -/
def Scan.fields {α : Type} (names : List String) (field : String → Scan α) :
    Scan (List (String × α)) := fun b =>
  let b := skipBlanks b
  if (eat '[' b).isSome then
    items '[' ']' (fun index b => do
      let name ← names[index]?
      let (x, rest) ← field name b
      some ((name, x), rest)) b
  else do
    let (found, rest) ← members (fun name b =>
      if name ∈ names then (field name b).map fun (x, rest) => (some x, rest)
      else (anyValue b).map fun (_, rest) => (none, rest)) b
    some (found.filterMap fun (name, x) => x.map (name, ·), rest)

def fields? {α : Type} (names : List String) (field : String → Scan α) (b : Bytes) :
    Option (List (String × α)) :=
  Scan.complete (Scan.fields names field) b

end IdentityToken.Json
