import PolicyEngine.Schema.Basic
import PolicyEngine.DateTime

/-! Validation: all violations of a schema in a document, in the order of the keywords and of the
document's parts. Only the schema `false` leaves the other keywords out. -/
namespace PolicyEngine.Schema
open Violation (here)

/-- The keywords of a schema that is an object. -/
abbrev Keywords := List (String × Value)

def keyword? (keywords : Keywords) (k : Keyword) : Option Value := Fields.get? k.name keywords

/-- Whether a value is of a named type; no answer for a name that is no type. -/
def hasType? (v : Value) (type : String) : Option Bool :=
  if type = "integer" then
    match v with
    | .number x => some (Number.toInt? x).isSome
    | _ => some false
  else if type ∈ ["string", "number", "boolean", "object", "array", "null"] then some (v.kind = type)
  else none

/-- The texts of a list that holds nothing else. -/
def texts? (items : List Value) : Option (List String) := items.mapM Value.string?

def typeViolations (type v : Value) : List Violation :=
  match type with
  | .string name =>
    match hasType? v name with
    | some true => []
    | some false => [here (.wrongType name v)]
    | none => [here (.unknownType name)]
  | .array items =>
    match texts? items with
    | none => [here (.malformed .type type)]
    | some names =>
      if names.any fun name => hasType? v name == some true then [] else [here (.noneOfTypes names v)]
  | _ => [here (.malformed .type type)]

/-- Whether the keyword `type`, if given, names a kind of containers. -/
def admits (keywords : Keywords) (kind : String) : Bool :=
  match keyword? keywords .type with
  | none => true
  | some (.string name) => name = kind
  | some (.array items) => items.any fun item => item.string? == some kind
  | some _ => false

/-! Containers -/

def requiredViolations (keywords : Keywords) (fields : List (String × Value)) : List Violation :=
  match keyword? keywords .required with
  | none => []
  | some (.array entries) => entries.filterMap fun entry =>
      match entry with
      | .string key => if Fields.contains key fields then none else some (here (.missingProperty key))
      | _ => some (here (.malformedRequired entry))
  | some other => [here (.malformed .required other)]

def propertiesViolations (keywords : Keywords) : List Violation :=
  match keyword? keywords .properties with
  | none | some (.object _) => []
  | some other => [here (.malformed .properties other)]

def itemsViolations (keywords : Keywords) : List Violation :=
  match keyword? keywords .items with
  | none | some (.array _) | some (.object _) | some (.bool _) => []
  | some other => [here (.malformed .items other)]

/-- What becomes of a part of a container: it is checked, refused as such, or left alone. -/
inductive PartRule where
  | check (step : Step) (schema : Value)
  | refuse (cause : Violation.Cause)
  | permit

/-- The rule for a part that is not listed. Only `false` and objects say something about it. -/
def additionalRule (additional : Option Value) (step : Step) (cause : Violation.Cause) : PartRule :=
  match additional with
  | some (.bool false) => .refuse cause
  | some (.object sub) => .check step (.object sub)
  | _ => .permit

def propertyRule (keywords : Keywords) (key : String) : PartRule :=
  match (keyword? keywords .properties).bind fun properties => properties.field? key with
  | some sub => .check (.property key) sub
  | none => additionalRule (keyword? keywords .additionalProperties) (.property key) (.additionalProperty key)

def itemRule (keywords : Keywords) (i : Nat) : PartRule :=
  match keyword? keywords .items with
  | some (.array tuple) =>
    match tuple[i]? with
    | some sub => .check (.item i) sub
    | none => additionalRule (keyword? keywords .additionalItems) (.additionalItem i) (.additionalItem i)
  | some (.object sub) => .check (.item i) (.object sub)
  | some (.bool b) => .check (.item i) (.bool b)
  | _ => .permit

/-- Counts of items stop at this number. -/
def maxCount : Nat := Nat.pow 2 64 - 1

/-- A count of items: a number that is not negative, cut to an integer, or its text between
blanks. -/
def itemCount? : Value → Option Nat
  | .number x =>
    match Number.view x with
    | .finite p => if p.negative && p.significand != 0 then none else some (min p.floor maxCount)
    | _ => none
  | .string s => Number.naturalBelow? (maxCount + 1) (Text.trimChars s.toList)
  | _ => none

def countViolations (keywords : Keywords) (k : Keyword) (broken : Nat → Option Violation.Cause) :
    List Violation :=
  match keyword? keywords k with
  | none => []
  | some raw =>
    match itemCount? raw with
    | none => [here (.malformed k raw)]
    | some count => ((broken count).map here).toList

def sizeViolations (keywords : Keywords) (size : Nat) : List Violation :=
  countViolations keywords .minItems (fun least =>
      if size < least then some (.tooFewItems size least) else none) ++
    countViolations keywords .maxItems fun most =>
      if most < size then some (.tooManyItems size most) else none

/-! Values -/

def enumViolations (allowed v : Value) : List Violation :=
  match allowed with
  | .array options => if options.any (· == v) then [] else [here (.notListed v allowed)]
  | _ => [here (.malformed .enum allowed)]

def boundViolations (bound : Bound) (limit v : Value) : List Violation :=
  match limit, v with
  | .number limit, .number x => if bound.isBroken x limit then [here (.outOfBounds bound x limit)] else []
  | .number _, _ => [here (.notNumeric bound v)]
  | _, _ => [here (.malformed bound.keyword limit)]

/-- Only texts are held to a pattern. -/
def patternViolations (patterns : PatternTable) (pattern v : Value) : List Violation :=
  match pattern, v with
  | .string source, .string text =>
    match patterns.compiled source with
    | .error fault => [here (.invalidPattern source fault)]
    | .ok p => if p.isMatch text then [] else [here (.notMatched text source)]
  | .string _, _ => []
  | _, _ => [here (.malformed .pattern pattern)]

/-- Of the formats only `date-time` is held to. -/
def formatViolations (format v : Value) : List Violation :=
  match format, v with
  | .string name, .string text =>
    if name = "date-time" && (DateTime.ofText? text).isNone then [here (.invalidDateTime text)] else []
  | .string _, _ => []
  | _, _ => [here (.malformed .format format)]

/-- The violations of a keyword, none where it is not given. -/
def ofKeyword (keywords : Keywords) (k : Keyword) (f : Value → List Violation) : List Violation :=
  ((keyword? keywords k).map f).getD []

/-- The keywords that apply to values of every kind, after those for containers. -/
def valueViolations (patterns : PatternTable) (keywords : Keywords) (v : Value) : List Violation :=
  ofKeyword keywords .enum (enumViolations · v) ++
    ofKeyword keywords .minimum (boundViolations .least · v) ++
    ofKeyword keywords .maximum (boundViolations .greatest · v) ++
    ofKeyword keywords .pattern (patternViolations patterns · v) ++
    ofKeyword keywords .format (formatViolations · v)

mutual

/-- All violations of a schema by a value. Parts are looked at only where `type` admits their
container. -/
def violations (patterns : PatternTable) (schema v : Value) : List Violation :=
  match schema with
  | .bool true => []
  | .bool false => [here .refused]
  | .object keywords =>
    let ofParts : List Violation := match v with
      | .object fields =>
        if admits keywords "object" then
          requiredViolations keywords fields ++ propertiesViolations keywords ++
            fieldViolations patterns keywords fields
        else []
      | .array items =>
        if admits keywords "array" then
          itemsViolations keywords ++ itemViolations patterns keywords 0 items ++
            sizeViolations keywords items.length
        else []
      | _ => []
    ofKeyword keywords .type (typeViolations · v) ++ ofParts ++ valueViolations patterns keywords v
  | other => [here (.notASchema other)]

def fieldViolations (patterns : PatternTable) (keywords : Keywords) :
    List (String × Value) → List Violation
  | [] => []
  | (key, child) :: rest =>
    (match propertyRule keywords key with
      | .check step sub => (violations patterns sub child).map (·.under step)
      | .refuse cause => [here cause]
      | .permit => []) ++ fieldViolations patterns keywords rest

def itemViolations (patterns : PatternTable) (keywords : Keywords) (i : Nat) :
    List Value → List Violation
  | [] => []
  | child :: rest =>
    (match itemRule keywords i with
      | .check step sub => (violations patterns sub child).map (·.under step)
      | .refuse cause => [here cause]
      | .permit => []) ++ itemViolations patterns keywords (i + 1) rest

end

/-- All violations in a document. -/
def validate (s : Schema) (doc : Value) : List Violation := violations s.patterns s.root doc

def accepts (s : Schema) (doc : Value) : Bool := (s.validate doc).isEmpty

@[simp] theorem violations_true (patterns : PatternTable) (v : Value) :
    violations patterns (.bool true) v = [] := by unfold violations; rfl

@[simp] theorem violations_false (patterns : PatternTable) (v : Value) :
    violations patterns (.bool false) v = [here .refused] := by unfold violations; rfl

end PolicyEngine.Schema
