/-!
# Text cut at a character

`split` cuts a text at each occurrence of a character, and `join` puts the pieces together again
(`join_split`). `splitFirst?` cuts at the first occurrence only.
-/

namespace IdentityToken.Text

/-- The pieces of a list between the occurrences of `c`: first the one in front, then the others. -/
def splitList (c : Char) : List Char → List Char × List (List Char)
  | [] => ([], [])
  | d :: rest =>
    let (piece, pieces) := splitList c rest
    if d = c then ([], piece :: pieces) else (d :: piece, pieces)

/-- The pieces of a text between the occurrences of `c`; there is one more of them than of `c`. -/
def split (c : Char) (s : String) : List String :=
  let (piece, pieces) := splitList c s.toList
  String.ofList piece :: pieces.map String.ofList

def joinTail (c : Char) : List String → List Char
  | [] => []
  | s :: rest => c :: s.toList ++ joinTail c rest

def join (c : Char) : List String → String
  | [] => ""
  | s :: rest => String.ofList (s.toList ++ joinTail c rest)

def splitFirst? (c : Char) (s : String) : Option (String × String) :=
  match s.toList.dropWhile (· != c) with
  | [] => none
  | _ :: rest => some (String.ofList (s.toList.takeWhile (· != c)), String.ofList rest)

theorem append_joinTail_splitList (c : Char) (l : List Char) :
    (splitList c l).1 ++ joinTail c ((splitList c l).2.map String.ofList) = l := by
  induction l with
  | nil => rfl
  | cons d l ih =>
    simp only [splitList]
    split
    · next h => simpa [joinTail, h] using ih
    · simpa using ih

theorem join_split (c : Char) (s : String) : join c (split c s) = s := by
  simp [split, join, append_joinTail_splitList]

example : split '.' "a..b" = ["a", "", "b"] := by decide

end IdentityToken.Text
