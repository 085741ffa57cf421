import IdentityToken.Yaml.Token
/-!
# Documents of YAML

A document is a tree of scalars, sequences and mappings. An alias stands for the node that carries
its anchor, so that a tree is read together with a table of anchored nodes. `Document.ofText?` reads
a text that holds at most one document.
-/

namespace IdentityToken.Yaml

/-- A node of a document. An alias is the node with an anchor, given by its number. -/
inductive Node where
  | scalar (style : Style) (tag : Option Bytes) (text : String)
  | sequence (items : List Node)
  | mapping (pairs : List (Node × Node))
  | alias (number : Nat)

/-- The only document of a text with its anchored nodes, the one that begins last first. Of two for
one number the first counts. -/
structure Document where
  root : Option Node
  anchored : List (Nat × Node)

def standardAddress : Bytes := Text.utf8 "tag:yaml.org,2002:"

/-- What is known while a document is read. -/
structure Reader where
  tokens : List Token
  handles : List (String × Bytes) := []
  numbers : List (String × Nat) := []
  anchored : List (Nat × Node) := []

namespace Reader

def next (r : Reader) : Reader := { r with tokens := r.tokens.drop 1 }

/-- Numbers an anchor: by how many names are known. -/
def number (r : Reader) (name : Option String) : Option Nat × Reader :=
  match name with
  | none => (none, r)
  | some name =>
    let n := r.numbers.length
    (some n, { r with numbers := (name, n) :: r.numbers.filter (·.1 ≠ name) })

/-- Notes the node of an anchor that stands in front of it. The anchored nodes within it begin
later. -/
def anchor (before : Reader) (number : Option Nat) (found : Node × Reader) : Node × Reader :=
  match number with
  | none => found
  | some n =>
    let (x, r) := found
    let within := r.anchored.take (r.anchored.length - before.anchored.length)
    (x, { r with anchored := within ++ (n, x) :: before.anchored })

/-- The octets of a tag; none if its handle has no address. -/
def resolve (r : Reader) (t : Tag) : Option Bytes :=
  if t.handle = "" then some t.rest
  else ((r.handles.lookup t.handle).map (· ++ t.rest))

/-- The anchor and the tag in front of a node, in any order. -/
def properties (r : Reader) : Option (Option String × Option Bytes × Reader) := do
  match r.tokens with
  | .anchor name :: .tag t :: _ => some (some name, some (← r.resolve t), r.next.next)
  | .anchor name :: _ => some (some name, none, r.next)
  | .tag t :: .anchor name :: _ => some (some name, some (← r.resolve t), r.next.next)
  | .tag t :: _ => some (none, some (← r.resolve t), r.next)
  | _ => some (none, none, r)

def empty : Node := .scalar .plain none ""

mutual

/-- A node. Block collections are allowed only outside of brackets, and a sequence that is not
indented only as the value or the key of a mapping. -/
def node (isBlock isFlush : Bool) : Nat → Reader → Option (Node × Reader)
  | 0, _ => none
  | fuel + 1, r =>
    match r.tokens with
    | .alias name :: _ => do some (.alias (← r.numbers.lookup name), r.next)
    | _ => do
      let (name, tag, r) ← r.properties
      let mayBeEmpty := name.isSome || tag.isSome
      let (n, r) := r.number name
      let found ← match isBlock, r.tokens with
        | _, .blockEntry :: _ => do
          if isFlush then
            let (xs, r) ← flushItems fuel r
            some (.sequence xs, r)
          else if mayBeEmpty then some (.scalar .plain tag "", r)
          else none
        | _, .scalar style text :: _ => some (.scalar style tag text, r.next)
        | _, .flowSequenceStart :: _ => do
          let (xs, r) ← flowItems true fuel r.next
          some (.sequence xs, r)
        | _, .flowMappingStart :: _ => do
          let (ps, r) ← flowPairs true fuel r.next
          some (.mapping ps, r)
        | true, .blockSequenceStart :: _ => do
          let (xs, r) ← blockItems fuel r.next
          some (.sequence xs, r)
        | true, .blockMappingStart :: _ => do
          let (ps, r) ← blockPairs fuel r.next
          some (.mapping ps, r)
        | _, _ => if mayBeEmpty then some (.scalar .plain tag "", r) else none
      some (anchor r n found)

def blockItems : Nat → Reader → Option (List Node × Reader)
  | 0, _ => none
  | fuel + 1, r =>
    match r.tokens with
    | .blockEntry :: rest => do
      let (x, r) ← match rest with
        | .blockEntry :: _ => some (empty, r.next)
        | .blockEnd :: _ => some (empty, r.next)
        | _ => node true false fuel r.next
      let (xs, r) ← blockItems fuel r
      some (x :: xs, r)
    | .blockEnd :: _ => some ([], r.next)
    | _ => none

/-- The items of a sequence that is not indented. -/
def flushItems : Nat → Reader → Option (List Node × Reader)
  | 0, _ => none
  | fuel + 1, r =>
    match r.tokens with
    | .blockEntry :: rest => do
      let (x, r) ← match rest with
        | .blockEntry :: _ => some (empty, r.next)
        | .key :: _ => some (empty, r.next)
        | .value :: _ => some (empty, r.next)
        | .blockEnd :: _ => some (empty, r.next)
        | _ => node true false fuel r.next
      let (xs, r) ← flushItems fuel r
      some (x :: xs, r)
    | _ => some ([], r)

/-- A key or a value of a block mapping after its mark; it is empty if none follows. -/
def blockPart : Nat → Reader → Option (Node × Reader)
  | 0, _ => none
  | fuel + 1, r =>
    match r.tokens with
    | .key :: _ => some (empty, r)
    | .value :: _ => some (empty, r)
    | .blockEnd :: _ => some (empty, r)
    | _ => node true true fuel r

def blockPairs : Nat → Reader → Option (List (Node × Node) × Reader)
  | 0, _ => none
  | fuel + 1, r =>
    match r.tokens with
    | .key :: _ => do
      let (k, r) ← blockPart fuel r.next
      let (v, r) ← match r.tokens with
        | .value :: _ => blockPart fuel r.next
        | _ => some (empty, r)
      let (ps, r) ← blockPairs fuel r
      some ((k, v) :: ps, r)
    | .blockEnd :: _ => some ([], r.next)
    | _ => none

def flowItems (isFirst : Bool) : Nat → Reader → Option (List Node × Reader)
  | 0, _ => none
  | fuel + 1, r =>
    match r.tokens with
    | .flowSequenceEnd :: _ => some ([], r.next)
    | _ => do
      let r ← if isFirst then some r
        else match r.tokens with
          | .flowEntry :: _ => some r.next
          | _ => none
      match r.tokens with
      | .flowSequenceEnd :: _ => some ([], r.next)
      | .key :: _ =>
        let (p, r) ← flowPair fuel r.next
        let (xs, r) ← flowItems false fuel r
        some (.mapping [p] :: xs, r)
      | _ =>
        let (x, r) ← node false false fuel r
        let (xs, r) ← flowItems false fuel r
        some (x :: xs, r)

/-- A single pair as an item of a sequence between brackets, after the mark of its key. A missing
key takes the mark that follows with it. -/
def flowPair : Nat → Reader → Option ((Node × Node) × Reader)
  | 0, _ => none
  | fuel + 1, r => do
    let (k, r) ← match r.tokens with
      | .value :: _ => some (empty, r.next)
      | .flowEntry :: _ => some (empty, r.next)
      | .flowSequenceEnd :: _ => some (empty, r.next)
      | _ => node false false fuel r
    let (v, r) ← match r.tokens with
      | .value :: .flowEntry :: _ => some (empty, r.next)
      | .value :: .flowSequenceEnd :: _ => some (empty, r.next)
      | .value :: _ => node false false fuel r.next
      | _ => some (empty, r)
    some ((k, v), r)

def flowPairs (isFirst : Bool) : Nat → Reader → Option (List (Node × Node) × Reader)
  | 0, _ => none
  | fuel + 1, r =>
    match r.tokens with
    | .flowMappingEnd :: _ => some ([], r.next)
    | _ => do
      let r ← if isFirst then some r
        else match r.tokens with
          | .flowEntry :: _ => some r.next
          | _ => none
      match r.tokens with
      | .flowMappingEnd :: _ => some ([], r.next)
      | .key :: rest =>
        let (k, r) ← match rest with
          | .value :: _ => some (empty, r.next)
          | .flowEntry :: _ => some (empty, r.next)
          | .flowMappingEnd :: _ => some (empty, r.next)
          | _ => node false false fuel r.next
        let (v, r) ← match r.tokens with
          | .value :: .flowEntry :: _ => some (empty, r.next)
          | .value :: .flowMappingEnd :: _ => some (empty, r.next)
          | .value :: _ => node false false fuel r.next
          | _ => some (empty, r)
        let (ps, r) ← flowPairs false fuel r
        some ((k, v) :: ps, r)
      | _ =>
        let (k, r) ← node false false fuel r
        let (ps, r) ← flowPairs false fuel r
        some ((k, empty) :: ps, r)

end

/-- Reads the directives in front of a document: at most one version, and each handle once. -/
def directives (r : Reader) (versionSeen : Bool) : List Token → Option Reader
  | .directive (.version major minor) :: rest =>
    if versionSeen ∨ major ≠ 1 ∨ minor ≠ 1 ∧ minor ≠ 2 then none else directives r true rest
  | .directive (.handle name address) :: rest =>
    if (r.handles.lookup name).isSome then none
    else directives { r with handles := (name, address) :: r.handles } versionSeen rest
  | rest => some { r with tokens := rest }

def standardHandles : List (String × Bytes) := [("!", Text.utf8 "!"), ("!!", standardAddress)]

/-- The root of a document after its opening mark. -/
def content (r : Reader) : Option (Node × Reader) :=
  match r.tokens with
  | [] => some (empty, r)
  | .directive _ :: _ => some (empty, r)
  | .documentStart :: _ => some (empty, r)
  | .documentEnd :: _ => some (empty, r)
  | _ => node true false (8 * r.tokens.length + 8) r

end Reader

/-- The only document of a text; the text may also hold none. -/
def Document.ofText? (text : String) : Option Document := do
  let tokens ← Token.ofText? text
  if tokens.isEmpty then some ⟨none, []⟩
  else
    let r ← Reader.directives { tokens } false tokens
    let hasDirectives := r.tokens.length < tokens.length
    let r := { r with handles := r.handles ++ Reader.standardHandles }
    let (root, r) ← match r.tokens with
      | .documentStart :: _ => r.next.content
      | _ => if hasDirectives then none else Reader.node true false (8 * tokens.length + 8) r
    let rest := r.tokens.dropWhile fun t =>
      match t with
      | .documentEnd => true
      | _ => false
    if rest.isEmpty then some ⟨some root, r.anchored⟩ else none

end IdentityToken.Yaml
