import PolicyEngine.Toml.Scalar

/-! TOML texts: one statement a line. Arrays may go over several lines, tables in braces may not. -/
namespace PolicyEngine.Toml

def skipBlanks (cs : List Char) : List Char := cs.dropWhile isBlank

/-- The text after a comment, if one starts here. -/
def skipComment (cs : List Char) : List Char :=
  match cs with
  | '#' :: rest => rest.dropWhile isPlain
  | _ => cs

/-- The text after the end of a line, or of the whole text. -/
def lineEnd? (cs : List Char) : Option (List Char) :=
  let rest := skipComment (skipBlanks cs)
  if rest.isEmpty then some []
  else if 0 < breakLength rest then some (rest.drop (breakLength rest))
  else none

/-- Passes blanks, comments and line breaks. -/
def skipSpace (cs : List Char) : List Char :=
  let rest := skipComment (skipLines cs)
  if rest.length < cs.length then skipSpace rest else cs
termination_by cs.length

def isKeyChar (c : Char) : Bool := c.isAlphanum || c = '-' || c = '_'

/-- Reads a key without points. -/
def readName (cs : List Char) : Option (Reading String) :=
  match cs with
  | [] => none
  | c :: rest =>
    if c = '"' || c = '\'' then (readLine c rest).map fun (text, rest) => (String.ofList text, rest)
    else
      let name := cs.takeWhile isKeyChar
      if name.isEmpty then none else some (String.ofList name, cs.drop name.length)

/-- Reads a key and the blanks around it. -/
def readKey (cs : List Char) : Option (Reading KeyPath) :=
  match readName (skipBlanks cs) with
  | none => none
  | some (name, rest) =>
    match skipBlanks rest with
    | '.' :: more =>
      if more.length < cs.length then
        (readKey more).map fun (path, rest) => (⟨name :: path.tables, path.name⟩, rest)
      else none
    | rest => some (⟨[], name⟩, rest)
termination_by cs.length

/-- Reads a key, its equals sign and the blanks after it. -/
def readAssigned (cs : List Char) : Option (Reading KeyPath) :=
  match readKey cs with
  | some (path, '=' :: rest) => some (path, skipBlanks rest)
  | _ => none

/-- How many arrays and tables in braces may be open at once. -/
def maxDepth : Nat := 79

mutual

def readValue (depth : Nat) (cs : List Char) : Option (Reading Toml) :=
  match depth, cs with
  | 0, '[' :: _ | 0, '{' :: _ => none
  | depth + 1, '[' :: rest => (readItems depth rest).map fun (items, rest) => (.array items, rest)
  | depth + 1, '{' :: rest =>
    match skipBlanks rest with
    | '}' :: rest => some (.table .inBraces [], rest)
    | _ => do
      let (pairs, rest) ← readPairs depth rest
      return (← ofPairs? pairs, rest)
  | _, _ => readScalar cs
termination_by (depth, 0)

/-- Reads items up to the closing bracket. -/
def readItems (depth : Nat) (cs : List Char) : Option (Reading (List Toml)) :=
  match skipSpace cs with
  | ']' :: rest => some ([], rest)
  | start =>
    match readValue depth start with
    | none => none
    | some (item, rest) =>
      match skipSpace rest with
      | ']' :: rest => some ([item], rest)
      | ',' :: more =>
        if more.length < cs.length then (readItems depth more).map fun (items, rest) => (item :: items, rest)
        else none
      | _ => none
termination_by (depth, cs.length + 1)

/-- Reads keys with their values up to the closing brace. -/
def readPairs (depth : Nat) (cs : List Char) : Option (Reading (List (KeyPath × Toml))) :=
  match readAssigned cs with
  | none => none
  | some (path, start) =>
    match readValue depth start with
    | none => none
    | some (value, rest) =>
      match skipBlanks rest with
      | '}' :: rest => some ([(path, value)], rest)
      | ',' :: more =>
        if more.length < cs.length then
          (readPairs depth more).map fun (pairs, rest) => ((path, value) :: pairs, rest)
        else none
      | _ => none
termination_by (depth, cs.length + 1)

end

/-- Reads one statement, not the end of its line. -/
def readStatement (cs : List Char) : Option (Reading Statement) :=
  match cs with
  | '[' :: '[' :: rest =>
    match readKey rest with
    | some (path, ']' :: ']' :: rest) => some (.element path, rest)
    | _ => none
  | '[' :: rest =>
    match readKey rest with
    | some (path, ']' :: rest) => some (.header path, rest)
    | _ => none
  | _ => do
    let (path, start) ← readAssigned cs
    let (value, rest) ← readValue maxDepth start
    return (.assign path value, rest)

/-- Reads statements to the end of the text. -/
def readStatements (cs : List Char) : Option (List Statement) :=
  let start := skipSpace cs
  if start.isEmpty then some []
  else match readStatement start with
    | none => none
    | some (statement, rest) =>
      match lineEnd? rest with
      | none => none
      | some next =>
        if next.length < cs.length then (readStatements next).map (statement :: ·) else none
termination_by cs.length

/-- The entries of a text. -/
def ofText? (text : String) : Option Entries := do
  let cs := match text.toList with
    | c :: rest => if c.toNat = 0xfeff then rest else c :: rest
    | [] => []
  build [] [] (← readStatements cs)

end PolicyEngine.Toml
