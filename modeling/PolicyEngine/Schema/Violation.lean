import PolicyEngine.Document.Text
import PolicyEngine.Pattern.Parser

/-! Violations: what a document breaks of a schema, or what a schema gets wrong itself, and where in
the document this came up. -/
namespace PolicyEngine

/-- The keywords of schemas that limit a value. -/
inductive Keyword where
  | type
  | required
  | properties
  | additionalProperties
  | items
  | additionalItems
  | minItems
  | maxItems
  | enum
  | minimum
  | maximum
  | pattern
  | format
  deriving Repr, DecidableEq

namespace Keyword

def name : Keyword → String
  | type => "type"
  | required => "required"
  | properties => "properties"
  | additionalProperties => "additionalProperties"
  | items => "items"
  | additionalItems => "additionalItems"
  | minItems => "minItems"
  | maxItems => "maxItems"
  | enum => "enum"
  | minimum => "minimum"
  | maximum => "maximum"
  | pattern => "pattern"
  | format => "format"

end Keyword

/-- A bound on numbers. -/
inductive Bound where
  | least
  | greatest
  deriving Repr, DecidableEq

namespace Bound

def keyword : Bound → Keyword
  | least => .minimum
  | greatest => .maximum

def isBroken (bound : Bound) (x limit : Float) : Bool :=
  match bound with
  | least => x < limit
  | greatest => limit < x

def relation : Bound → String
  | least => "less than"
  | greatest => "greater than"

end Bound

/-- A step from a value to a part of it. Items that a list of item schemas leaves over are told
apart from those it covers. -/
inductive Step where
  | property (key : String)
  | item (i : Nat)
  | additionalItem (i : Nat)
  deriving Repr, DecidableEq

namespace Step

def render : Step → String
  | property key => key
  | item i => s!"items[{i}]"
  | additionalItem i => s!"additionalItems[{i}]"

/-- The text of a place, its steps joined by points. The root is the empty text, and nothing is
joined to an empty text. -/
def renderPlace (place : List Step) : String :=
  place.foldl (fun text step => if text.isEmpty then step.render else text ++ "." ++ step.render) ""

end Step

inductive Violation.Cause where
  | refused
  | notASchema (schema : Value)
  | malformed (keyword : Keyword) (value : Value)
  | malformedRequired (entry : Value)
  | unknownType (name : String)
  | wrongType (expected : String) (found : Value)
  | noneOfTypes (expected : List String) (found : Value)
  | missingProperty (key : String)
  | additionalProperty (key : String)
  | additionalItem (i : Nat)
  | tooFewItems (size least : Nat)
  | tooManyItems (size most : Nat)
  | notListed (value allowed : Value)
  | notNumeric (bound : Bound) (value : Value)
  | outOfBounds (bound : Bound) (x limit : Float)
  | invalidPattern (source : String) (fault : PatternFault)
  | notMatched (text source : String)
  | invalidDateTime (text : String)

structure Violation where
  place : List Step
  cause : Violation.Cause

namespace Violation

namespace Cause

def message : Cause → String
  | refused => "value not allowed (schema is false)"
  | notASchema schema => s!"invalid schema: expected object or boolean, found {schema.kind}"
  | malformed keyword value => s!"invalid '{keyword.name}' in schema: {value.display}"
  | malformedRequired entry => s!"invalid entry {entry.display} in 'required'"
  | unknownType name => s!"unknown type '{name}' in schema"
  | wrongType expected found => s!"expected {expected}, found {found.kind}"
  | noneOfTypes expected found =>
    "expected one of [" ++ ", ".intercalate expected ++ s!"], found {found.kind}"
  | missingProperty key => s!"required property '{key}' is missing"
  | additionalProperty key => s!"additional property '{key}' is not allowed"
  | additionalItem i => s!"additional item at index {i} is not allowed"
  | tooFewItems size least => s!"array has {size} items, fewer than minItems ({least})"
  | tooManyItems size most => s!"array has {size} items, more than maxItems ({most})"
  | notListed value allowed =>
    s!"value '{value.display}' is not one of the allowed values {allowed.display}"
  | notNumeric bound value => s!"value '{value.display}' is not numeric ({bound.keyword.name})"
  | outOfBounds bound x limit =>
    "value " ++ Number.display x ++ s!" is {bound.relation} {bound.keyword.name} " ++ Number.display limit
  | invalidPattern source fault => s!"invalid pattern '{source}' in schema: {fault.message}"
  | notMatched text source => s!"string '{text}' does not match pattern '{source}'"
  | invalidDateTime text => s!"invalid date-time '{text}': no such date and time"

end Cause

/-- A violation by a value itself, not by one of its parts. -/
def here (cause : Cause) : Violation := ⟨[], cause⟩

/-- The same violation seen from one level further up. -/
def under (step : Step) (v : Violation) : Violation := ⟨step :: v.place, v.cause⟩

def path (v : Violation) : String := Step.renderPlace v.place

def message (v : Violation) : String := v.cause.message

/-- The message after the path; at the root the message alone. -/
def render (v : Violation) : String :=
  if v.path.isEmpty then v.message else v.path ++ ": " ++ v.message

instance : ToString Violation := ⟨render⟩

def toJson (v : Violation) : Json :=
  .object [("path", .string v.path), ("message", .string v.message)]

/-- Several violations in one line. -/
def renderAll (vs : List Violation) : String := "; ".intercalate (vs.map render)

@[simp] theorem path_here (cause : Cause) : (here cause).path = "" := rfl

@[simp] theorem place_under (step : Step) (v : Violation) : (v.under step).place = step :: v.place := rfl

end Violation

end PolicyEngine
