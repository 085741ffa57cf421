/-!
# Named fields

Values that are listed by name, as a record is written down. Each name should occur at most once.
-/

namespace IdentityToken.Fields

/-- The only value that is listed under a name: none if there are several, and `some none` if there
is no such value. -/
def unique? {α : Type} (name : String) (found : List (String × α)) : Option (Option α) :=
  match found.filter (·.1 == name) with
  | [] => some none
  | [(_, x)] => some (some x)
  | _ => none

end IdentityToken.Fields
