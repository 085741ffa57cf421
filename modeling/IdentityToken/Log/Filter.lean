import IdentityToken.Log
import IdentityToken.Log.Directive
/-!
# Which events are shown

A filter is a list of directives, separated by commas. Of those that are for an event the most
specific one decides whether it is shown. Without any directive only errors are shown.
-/

namespace IdentityToken

namespace Log

def sourceName : Party → String
  | .issuer => "tessera_jwt::generator"
  | .validator => "tessera_jwt::validator"

/-- A filter: the directives that are for single events. -/
abbrev Filter := List Directive

namespace Filter

/-- Whether a directive is for single events. No event happens during a span, and values are
compared for spans only. -/
def isForEvents (d : Directive) : Bool := d.span.isNone && d.field.all (!·.hasPattern)

/-- The filter of directives; without any it shows errors. -/
def ofDirectives (found : List Directive) : Filter :=
  if found.isEmpty then [{ rank := 1 }] else found.filter isForEvents

def ofText (text : String) : Except DirectiveError Filter := do
  if text = "" then .ok (ofDirectives [])
  else .ok (ofDirectives (← (Text.split ',' text).mapM Directive.ofText))

def understood (text : String) : Except DirectiveError (Option Directive) :=
  match Directive.ofText text with
  | .ok d => .ok (some d)
  | .error .malformed => .ok none
  | .error .torn => .error .torn

/-- The filter that a text says, as far as it can be understood. -/
def ofTextLoosely (text : String) : Except DirectiveError Filter := do
  let found ← ((Text.split ',' text).filter (· ≠ "")).mapM understood
  .ok (ofDirectives (found.filterMap id))

/-- The filter that the environment asks for, or else a configured level. -/
def choose (asked : Option String) (configured : String) : Except DirectiveError Filter :=
  match asked.map ofText with
  | none => ofTextLoosely configured
  | some (.error .malformed) => ofTextLoosely configured
  | some found => found

def appliesTo (e : Event) (d : Directive) : Bool :=
  d.target.all (fun t => t.toList.isPrefixOf (sourceName e.party).toList)
    && d.field.all fun f => f.name ∈ e.fieldNames

/-- Whether a directive is at least as specific as another: first a longer target counts, then
whether there is a field, then the order of the names. -/
def atLeast (d b : Directive) : Bool :=
  let reach (d : Directive) : Nat := (d.target.map (·.utf8ByteSize + 1)).getD 0
  let name (d : Directive) : String := (d.field.map FieldTest.name).getD ""
  if reach d ≠ reach b then reach b < reach d
  else if d.field.isSome ≠ b.field.isSome then d.field.isSome
  else name b ≤ name d

/-- The directive that decides for an event: the most specific one, and of equal ones the last. -/
def decisive? (f : Filter) (e : Event) : Option Directive :=
  (f.filter (appliesTo e)).foldl (fun best d =>
    match best with
    | none => some d
    | some b => if atLeast d b then some d else some b) none

def shows (f : Filter) (e : Event) : Bool := (f.decisive? e).any fun d => e.level.rank ≤ d.rank

end Filter

end Log

end IdentityToken
