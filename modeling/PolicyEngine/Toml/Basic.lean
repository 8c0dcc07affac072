import PolicyEngine.Fields

/-! TOML documents as tables of tables, and how statements build them. A key is given one value, and
a table is declared once, however its parts are spread over a text. -/
namespace PolicyEngine

/-- How a table came to be. A dotted table is opened by a key with points, an implied one by the
header of a table inside it. -/
inductive Toml.Origin where
  | inBraces
  | dotted
  | implied
  | declared
  deriving Repr, DecidableEq

inductive Toml where
  | string (s : String)
  | integer (i : Int)
  /-- A boolean, a float, a date or a time: only its form is checked. -/
  | scalar
  | array (items : List Toml)
  | table (origin : Toml.Origin) (entries : List (String × Toml))
  /-- Tables under one header, the last one first. -/
  | tables (elements : List (List (String × Toml)))

namespace Toml

abbrev Entries := List (String × Toml)

/-- A key with the tables that it leads through. -/
structure KeyPath where
  tables : List String
  name : String
  deriving Repr, DecidableEq

def KeyPath.all (p : KeyPath) : List String := p.tables ++ [p.name]

inductive Statement where
  | header (path : KeyPath)
  | element (path : KeyPath)
  | assign (path : KeyPath) (value : Toml)

/-- Changes the table at the end of a path, opening those that are missing. `f` is also told whether
that table is dotted. What a header declared is not open to dotted keys. -/
def within (dotted : Bool) (f : Bool → Entries → Option Entries) (isDotted : Bool) :
    List String → Entries → Option Entries
  | [], entries => f isDotted entries
  | key :: rest, entries =>
    match Fields.get? key entries with
    | none =>
      (within dotted f dotted rest []).map fun inner =>
        Fields.insert key (.table (if dotted then .dotted else .implied) inner) entries
    | some (.table origin inner) =>
      if origin = .inBraces || (dotted && origin = .declared) then none
      else (within dotted f (origin = .dotted) rest inner).map fun inner =>
        Fields.insert key (.table origin inner) entries
    | some (.tables (last :: earlier)) =>
      (within dotted f false rest last).map fun last => Fields.insert key (.tables (last :: earlier)) entries
    | some _ => none

/-- Gives a key its value. Points may only lead into dotted tables. -/
def assign (path : KeyPath) (value : Toml) (entries : Entries) : Option Entries :=
  within true (fun isDotted inner =>
      if isDotted = path.tables.isEmpty || Fields.contains path.name inner then none
      else some (Fields.insert path.name value inner))
    false path.tables entries

/-- Declares a table. -/
def declare (path : KeyPath) (entries : Entries) : Option Entries :=
  within false (fun _ inner =>
      match Fields.get? path.name inner with
      | none => some (Fields.insert path.name (.table .declared []) inner)
      | some (.table .implied sub) => some (Fields.insert path.name (.table .declared sub) inner)
      | some _ => none)
    false path.tables entries

/-- Adds an empty table to those under a header. -/
def addElement (path : KeyPath) (entries : Entries) : Option Entries :=
  within false (fun _ inner =>
      match Fields.get? path.name inner with
      | none => some (Fields.insert path.name (.tables [[]]) inner)
      | some (.tables elements) => some (Fields.insert path.name (.tables ([] :: elements)) inner)
      | some _ => none)
    false path.tables entries

/-- Runs statements. Keys go into the table of the last header. -/
def build (current : List String) (entries : Entries) : List Statement → Option Entries
  | [] => some entries
  | .header path :: rest => (declare path entries).bind fun e => build path.all e rest
  | .element path :: rest => (addElement path entries).bind fun e => build path.all e rest
  | .assign path value :: rest =>
    (within false (fun _ => assign path value) false current entries).bind fun e => build current e rest

/-- The entries of a table in braces. -/
def ofPairs? (pairs : List (KeyPath × Toml)) : Option Toml :=
  (pairs.foldlM (fun entries p => assign p.1 p.2 entries) []).map (.table .inBraces)

def string? : Toml → Option String
  | .string s => some s
  | _ => none

def integer? : Toml → Option Int
  | .integer i => some i
  | _ => none

end Toml

end PolicyEngine
