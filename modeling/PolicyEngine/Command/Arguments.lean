/-! Arguments of a command line: options under long names, each with or without a value, and values
in place. An argument that starts with a hyphen is an option, up to the first `--`. -/
namespace PolicyEngine

structure OptionSpec where
  name : String
  takesValue : Bool
  repeatable : Bool
  accepts : String → Bool

/-- What may stand in an argument list: options, values in place, or a word that ends the list. -/
structure ArgumentSpec where
  options : List OptionSpec
  places : List (String → Bool)
  endsAt : String → Bool
  hasVersion : Bool

/-- The options with their values in the order given, and the values in place. -/
structure Arguments where
  options : List (String × String)
  places : List String

/-- Why an argument list is not read to its end. -/
inductive ArgumentStop where
  | help
  | version
  | misuse
  deriving Repr, DecidableEq

namespace Arguments

def empty : Arguments := ⟨[], []⟩

def has (a : Arguments) (name : String) : Bool := a.options.any fun o => o.1 = name

/-- All values of an option. -/
def values (a : Arguments) (name : String) : List String :=
  a.options.filterMap fun o => if o.1 = name then some o.2 else none

def value? (a : Arguments) (name : String) : Option String := (a.values name).head?

def place? (a : Arguments) (i : Nat) : Option String := a.places[i]?

/-- Whether an argument is read as an option. A hyphen alone is a value. -/
def looksLikeOption (arg : String) : Bool :=
  match arg.toList with
  | '-' :: _ :: _ => true
  | _ => false

/-- The name and the attached value of a long option. -/
def splitLong (cs : List Char) : String × Option String :=
  let name := cs.takeWhile (· ≠ '=')
  (String.ofList name, (cs.drop name.length).tail?.map String.ofList)

/-- Takes in an option with its value; a second one only if it may be repeated. -/
def add (a : Arguments) (o : OptionSpec) (value : String) : Except ArgumentStop Arguments :=
  if (a.has o.name && !o.repeatable) || !o.accepts value then .error .misuse
  else .ok { a with options := a.options ++ [(o.name, value)] }

/-- Takes in a value in the next free place. -/
def addPlace (a : Arguments) (spec : ArgumentSpec) (value : String) : Except ArgumentStop Arguments :=
  match spec.places[a.places.length]? with
  | some accepts => if accepts value then .ok { a with places := a.places ++ [value] } else .error .misuse
  | none => .error .misuse

/-- What an option without a value of its own says: to stop, or its specification. -/
def bare? (spec : ArgumentSpec) (name : String) : Except ArgumentStop OptionSpec :=
  if name = "help" then .error .help
  else if name = "version" && spec.hasVersion then .error .version
  else match spec.options.find? fun o => o.name = name with
    | some o => .ok o
    | none => .error .misuse

def shortStop (spec : ArgumentSpec) (cs : List Char) : ArgumentStop :=
  if cs.head? = some 'h' then .help
  else if cs.head? = some 'V' && spec.hasVersion then .version
  else .misuse

/-- Reads arguments up to the end or to a word that ends the list, which is left with the rest. -/
def read (spec : ArgumentSpec) (placesOnly : Bool) (a : Arguments) :
    List String → Except ArgumentStop (Arguments × List String)
  | [] => .ok (a, [])
  | arg :: rest =>
    if placesOnly || !looksLikeOption arg then
      if !placesOnly && spec.endsAt arg then .ok (a, arg :: rest)
      else (addPlace a spec arg).bind fun a => read spec placesOnly a rest
    else match arg.toList with
      | ['-', '-'] => read spec true a rest
      | '-' :: '-' :: long =>
        match splitLong long with
        | (name, some value) =>
          match spec.options.find? fun o => o.name = name && o.takesValue with
          | some o => (add a o value).bind fun a => read spec placesOnly a rest
          | none => .error .misuse
        | (name, none) =>
          match bare? spec name with
          | .error stop => .error stop
          | .ok o =>
            if !o.takesValue then (add a o "").bind fun a => read spec placesOnly a rest
            else match rest with
              | [] => .error .misuse
              | value :: rest =>
                if looksLikeOption value then .error .misuse
                else (add a o value).bind fun a => read spec placesOnly a rest
      | cs => .error (shortStop spec cs.tail)

end Arguments

end PolicyEngine
