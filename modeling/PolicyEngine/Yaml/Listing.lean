import PolicyEngine.Yaml.Token

/-! YAML documents of two levels: names, each with a list of texts. Blocks and brackets may be mixed, and aliases
may stand for texts and lists. Every scalar counts as a text, and a missing list as an empty one; what is deeper,
shallower or malformed is no listing, as are several documents in one text. -/
namespace PolicyEngine.Yaml

abbrev Entry := String × List String

/-! Trees -/

/-- A text, or an alias. Anchors and aliases go by names, or by numbers in their place. -/
inductive Leaf (ν : Type) where
  | aliasOf (target : ν)
  | text (anchor : Option ν) (text : String) (plain : Bool)

/-- What belongs to a name. -/
inductive Branch (ν : Type) where
  | leaf (leaf : Leaf ν)
  | list (anchor : Option ν) (items : List (Leaf ν))

/-- A document: the names in it, and what belongs to each. -/
structure Tree (ν : Type) where
  anchor : Option ν
  entries : List (Leaf ν × Branch ν)

namespace Leaf

variable {ν : Type}

/-- A text that has been left out. -/
def missing : Leaf ν := .text none "" true

/-- Whether the leaf says no more than a missing one. A text in quotes does. -/
def isBare : Leaf ν → Bool
  | aliasOf _ => false
  | text _ content plain => plain && content.isEmpty

/-- Whether the leaf stands for another node. -/
def isAlias : Leaf ν → Bool
  | aliasOf _ => true
  | text .. => false

end Leaf

/-- How many events make up a branch: one for each text, and two around a list. -/
def Branch.eventCount {ν : Type} : Branch ν → Nat
  | leaf _ => 1
  | list _ items => items.length + 2

def Tree.eventCount {ν : Type} (t : Tree ν) : Nat := t.entries.foldl (fun n e => n + e.2.eventCount + 1) 2

/-! Nodes and what stands around them -/

/-- Whether a node that should stand before this token is missing. -/
def Token.endsNode : Token → Bool
  | entry | key | value | blockEnd | comma | braceClose => true
  | _ => false

/-- The anchor of a node, and whether there is an anchor or a tag at all. -/
structure Properties where
  anchor : Option String
  any : Bool

/-- Reads the anchor and the tag of a node, in any order. A tag must have one of the handles. -/
def readProperties? (handles : List String) : List Token → Option (Properties × List Token)
  | .anchor name :: .tag handle :: rest | .tag handle :: .anchor name :: rest =>
    if handle ∈ handles then some (⟨some name, true⟩, rest) else none
  | .anchor name :: rest => some (⟨some name, true⟩, rest)
  | .tag handle :: rest => if handle ∈ handles then some (⟨none, true⟩, rest) else none
  | tokens => some (⟨none, false⟩, tokens)

theorem length_readProperties? {handles : List String} {tokens rest : List Token} {p : Properties}
    (h : readProperties? handles tokens = some (p, rest)) :
    rest.length ≤ tokens.length ∧ (p.any → rest.length < tokens.length) := by
  fun_cases readProperties? handles tokens <;> grind [readProperties?]

section Reading

variable (handles : List String)

/-- Reads a text or an alias. Behind an anchor or a tag the text may be missing. -/
def readLeaf? (tokens : List Token) : Option (Leaf String × List Token) :=
  match tokens with
  | .aliasOf name :: rest => some (.aliasOf name, rest)
  | _ =>
    match readProperties? handles tokens with
    | some (properties, .scalar text plain :: rest) => some (.text properties.anchor text plain, rest)
    | some (properties, rest) => if properties.any then some (.text properties.anchor "" true, rest) else none
    | none => none

theorem length_readLeaf? {tokens rest : List Token} {leaf : Leaf String}
    (h : readLeaf? handles tokens = some (leaf, rest)) : rest.length < tokens.length := by
  simp only [readLeaf?] at h
  split at h
  · cases h
    exact Nat.lt_succ_self _
  · split at h
    · next hp =>
      cases h
      exact (length_readProperties? hp).1
    · next hp =>
      split at h
      · next hany =>
        cases h
        exact (length_readProperties? hp).2 hany
      · cases h
    · cases h

/-- Reads a text, an alias or nothing. -/
def readLeaf (tokens : List Token) : Option (Leaf String × List Token) :=
  if tokens.head?.any Token.endsNode then some (.missing, tokens) else readLeaf? handles tokens

theorem length_readLeaf {tokens rest : List Token} {leaf : Leaf String}
    (h : readLeaf handles tokens = some (leaf, rest)) : rest.length ≤ tokens.length := by
  simp only [readLeaf] at h
  split at h
  · cases h
    exact Nat.le_refl _
  · exact Nat.le_of_lt (length_readLeaf? handles h)

/-- Reads texts in brackets, up to the closing one. -/
def readBracketed (tokens : List Token) : Option (List (Leaf String) × List Token) :=
  if tokens.head? = some .bracketClose then some ([], tokens.tail)
  else
    match h : readLeaf? handles tokens with
    | some (item, .bracketClose :: rest) => some ([item], rest)
    | some (item, .comma :: rest) =>
      have := length_readLeaf? handles h
      (readBracketed rest).map fun (items, after) => (item :: items, after)
    | _ => none
termination_by tokens.length
decreasing_by
  simp only [List.length_cons] at this
  omega

theorem length_readBracketed {tokens rest : List Token} {items : List (Leaf String)}
    (h : readBracketed handles tokens = some (items, rest)) : rest.length ≤ tokens.length := by
  fun_induction readBracketed handles tokens generalizing items rest with
  | case1 =>
    cases h
    simp
  | case2 _ _ item after hread =>
    cases h
    have hlt := length_readLeaf? handles hread
    simp only [List.length_cons] at hlt
    omega
  | case3 _ _ item after _ hlt ih =>
    obtain ⟨⟨others, _⟩, hothers, ⟨⟩⟩ := Option.map_eq_some_iff.1 h
    have hle := ih hothers
    simp only [List.length_cons] at hlt
    omega
  | case4 => cases h

/-- Reads items, each after its hyphen. -/
def readItems (tokens : List Token) : Option (List (Leaf String) × List Token) :=
  match tokens with
  | .entry :: rest =>
    match h : readLeaf handles rest with
    | some (item, next) =>
      have := length_readLeaf handles h
      (readItems next).map fun (items, after) => (item :: items, after)
    | none => none
  | _ => some ([], tokens)
termination_by tokens.length

theorem length_readItems {tokens rest : List Token} {items : List (Leaf String)}
    (h : readItems handles tokens = some (items, rest)) : rest.length ≤ tokens.length := by
  fun_induction readItems handles tokens generalizing items rest with
  | case1 rest item next _ hle ih =>
    obtain ⟨⟨others, _⟩, hothers, ⟨⟩⟩ := Option.map_eq_some_iff.1 h
    have hnext := ih hothers
    simp only [List.length_cons]
    omega
  | case2 => cases h
  | case3 =>
    cases h
    exact Nat.le_refl _

/-- Reads what belongs to a name. The hyphens of a list may stand in the column of the name, where they open no
block of their own. -/
def readBranch (tokens : List Token) : Option (Branch String × List Token) :=
  match readProperties? handles tokens with
  | some (properties, .bracketOpen :: rest) =>
    (readBracketed handles rest).map fun (items, after) => (.list properties.anchor items, after)
  | some (properties, .entry :: rest) =>
    (readItems handles (.entry :: rest)).map fun (items, after) => (.list properties.anchor items, after)
  | some (properties, .sequenceStart :: rest) =>
    match readItems handles rest with
    | some (items, .blockEnd :: after) => some (.list properties.anchor items, after)
    | _ => none
  | _ => (readLeaf handles tokens).map fun (leaf, rest) => (.leaf leaf, rest)

theorem length_readBranch {tokens rest : List Token} {branch : Branch String}
    (h : readBranch handles tokens = some (branch, rest)) : rest.length ≤ tokens.length := by
  simp only [readBranch] at h
  split at h
  · next hp =>
    obtain ⟨⟨items, _⟩, hitems, ⟨⟩⟩ := Option.map_eq_some_iff.1 h
    exact Nat.le_trans (length_readBracketed handles hitems) (Nat.le_of_succ_le (length_readProperties? hp).1)
  · next hp =>
    obtain ⟨⟨items, _⟩, hitems, ⟨⟩⟩ := Option.map_eq_some_iff.1 h
    exact Nat.le_trans (length_readItems handles hitems) (length_readProperties? hp).1
  · next hp =>
    have hle := (length_readProperties? hp).1
    split at h
    · next hitems =>
      cases h
      have hrest := length_readItems handles hitems
      simp only [List.length_cons] at hle hrest
      omega
    · cases h
  · obtain ⟨⟨leaf, _⟩, hleaf, ⟨⟩⟩ := Option.map_eq_some_iff.1 h
    exact length_readLeaf handles hleaf

/-- Reads a name and, after a colon, what belongs to it. -/
def readEntry (tokens : List Token) : Option ((Leaf String × Branch String) × List Token) :=
  match readLeaf handles tokens with
  | some (name, .value :: rest) => (readBranch handles rest).map fun (branch, after) => ((name, branch), after)
  | some (name, rest) => some ((name, .leaf .missing), rest)
  | none => none

theorem length_readEntry {tokens rest : List Token} {entry : Leaf String × Branch String}
    (h : readEntry handles tokens = some (entry, rest)) : rest.length ≤ tokens.length := by
  simp only [readEntry] at h
  split at h
  · next hname =>
    obtain ⟨⟨branch, _⟩, hbranch, ⟨⟩⟩ := Option.map_eq_some_iff.1 h
    have hle := length_readLeaf handles hname
    simp only [List.length_cons] at hle
    exact Nat.le_trans (length_readBranch handles hbranch) (by omega)
  · next hname =>
    cases h
    exact length_readLeaf handles hname
  · cases h

/-- Reads the entries of a block, up to its end. -/
def readEntries (tokens : List Token) : Option (List (Leaf String × Branch String) × List Token) :=
  match tokens with
  | .blockEnd :: rest => some ([], rest)
  | .key :: rest =>
    match h : readEntry handles rest with
    | some (entry, next) =>
      have := length_readEntry handles h
      (readEntries next).map fun (entries, after) => (entry :: entries, after)
    | none => none
  | _ => none
termination_by tokens.length

/-- Reads an entry in braces. Without a mark for a key there is only a name, to which the empty list belongs. -/
def readMember? (tokens : List Token) : Option ((Leaf String × Branch String) × List Token) :=
  match tokens with
  | .key :: rest => readEntry handles rest
  | _ => (readLeaf? handles tokens).map fun (name, rest) => ((name, .leaf .missing), rest)

theorem length_readMember? {tokens rest : List Token} {entry : Leaf String × Branch String}
    (h : readMember? handles tokens = some (entry, rest)) : rest.length < tokens.length := by
  simp only [readMember?] at h
  split at h
  · exact Nat.lt_succ_of_le (length_readEntry handles h)
  · obtain ⟨⟨name, _⟩, hname, ⟨⟩⟩ := Option.map_eq_some_iff.1 h
    exact length_readLeaf? handles hname

/-- Reads entries in braces, up to the closing one. -/
def readBraced (tokens : List Token) : Option (List (Leaf String × Branch String) × List Token) :=
  if tokens.head? = some .braceClose then some ([], tokens.tail)
  else
    match h : readMember? handles tokens with
    | some (entry, .braceClose :: rest) => some ([entry], rest)
    | some (entry, .comma :: rest) =>
      have := length_readMember? handles h
      (readBraced rest).map fun (entries, after) => (entry :: entries, after)
    | _ => none
termination_by tokens.length
decreasing_by
  simp only [List.length_cons] at this
  omega

/-- Reads the node that a document is made of. Where it is missing there are no entries. -/
def readTree (tokens : List Token) : Option (Tree String × List Token) := do
  let (properties, rest) ← readProperties? handles tokens
  match rest with
  | .mappingStart :: rest =>
    let (entries, after) ← readEntries handles rest
    some (⟨properties.anchor, entries⟩, after)
  | .braceOpen :: rest =>
    let (entries, after) ← readBraced handles rest
    some (⟨properties.anchor, entries⟩, after)
  | _ =>
    let (leaf, after) ← readLeaf? handles tokens
    if leaf.isBare then some (⟨none, []⟩, after) else none

end Reading

/-! Documents -/

/-- The handles that need no directive. -/
def defaultHandles : List String := ["", "!", "!!"]

/-- Passes over the directives of a document and its marker, and gathers the handles that they declare. -/
def readDirectives? (versioned : Bool) (declared : List String) : List Token → Option (List String × List Token)
  | .version major minor :: rest =>
    if versioned || major ≠ 1 || (minor ≠ 1 && minor ≠ 2) then none else readDirectives? true declared rest
  | .tagHandle handle :: rest =>
    if handle ∈ declared then none else readDirectives? versioned (handle :: declared) rest
  | .documentStart :: rest => some (declared, rest)
  | _ => none

/-- Reads a document from its first token on. With a marker in front it may be empty. -/
def readDocument? (tokens : List Token) : Option (Tree String × List Token) :=
  match tokens with
  | [] => some (⟨none, []⟩, [])
  | .version .. :: _ | .tagHandle _ :: _ | .documentStart :: _ => do
    let (declared, content) ← readDirectives? false [] tokens
    match content with
    | [] | .documentEnd :: _ => some (⟨none, []⟩, content)
    | _ => readTree (declared ++ defaultHandles) content
  | _ => readTree defaultHandles tokens

/-- The tree of a text with one document. -/
def tree? (text : String) : Option (Tree String) := do
  let (tree, rest) ← readDocument? (← tokens? text)
  if rest.all (· = .documentEnd) then some tree else none

/-! Anchors and aliases -/

/-- Names of anchors with the number that each has at a place of a document. -/
abbrev Numbering := List (String × Nat)

/-- Numbers an anchor by how many names there are before it. A name that comes up again gets a new number, which may
be in use already. -/
def numberAnchor : Option String → StateT Numbering Option (Option Nat)
  | none => return none
  | some name => do
    let numbering ← get
    set ((name, numbering.length) :: numbering.filter (·.1 ≠ name))
    return some numbering.length

def Leaf.number : Leaf String → StateT Numbering Option (Leaf Nat)
  | aliasOf name => do return .aliasOf (← (← get).lookup name)
  | text anchor content plain => do return .text (← numberAnchor anchor) content plain

def Branch.number : Branch String → StateT Numbering Option (Branch Nat)
  | leaf l => do return .leaf (← l.number)
  | list anchor items => do return .list (← numberAnchor anchor) (← items.mapM Leaf.number)

/-- The tree with numbers for the names of its anchors. An alias must come after its anchor. -/
def Tree.number (t : Tree String) : Option (Tree Nat) :=
  let numbered : StateT Numbering Option (Tree Nat) := do
    return ⟨← numberAnchor t.anchor, ← t.entries.mapM fun e => do return (← e.1.number, ← e.2.number)⟩
  numbered.run' []

def Leaf.anchored : Leaf Nat → List (Nat × Branch Nat)
  | aliasOf _ => []
  | text anchor content plain => anchor.toList.map (·, .leaf (.text anchor content plain))

def Branch.anchored : Branch Nat → List (Nat × Branch Nat)
  | leaf l => l.anchored
  | list anchor items => anchor.toList.map (·, .list anchor items) ++ items.flatMap Leaf.anchored

/-- The nodes with a number, the last one first. -/
def Tree.anchored (t : Tree Nat) : List (Nat × Branch Nat) :=
  (t.entries.flatMap fun e => e.1.anchored ++ e.2.anchored).reverse

/-- How many times an alias may be followed for each event of a document. -/
def maxRepetition : Nat := 100

section Targets

variable (targets : List (Nat × Branch Nat))

def Leaf.content? : Leaf Nat → Option String
  | aliasOf n =>
    match targets.lookup n with
    | some (.leaf (.text _ content _)) => some content
    | _ => none
  | text _ content _ => some content

/-- What an alias stands for. -/
def Branch.target? : Branch Nat → Option (Branch Nat)
  | leaf (.aliasOf n) => targets.lookup n
  | branch => some branch

/-- The list that a branch without an alias is. -/
def Branch.items? : Branch Nat → Option (List (Leaf Nat))
  | leaf l => if l.isBare then some [] else none
  | list _ items => some items

/-- The entry that a name and its branch make, and how many aliases are followed for it. -/
def resolve? (e : Leaf Nat × Branch Nat) : Option (Entry × Nat) := do
  let items ← (← e.2.target? targets).items?
  let aliases := match e.2 with
    | .leaf l => [e.1, l] ++ items
    | .list .. => e.1 :: items
  some ((← e.1.content? targets, ← items.mapM (Leaf.content? targets)), aliases.countP Leaf.isAlias)

end Targets

/-- The entries of a tree, its aliases followed. -/
def Tree.listing? (t : Tree Nat) : Option (List Entry) := do
  let entries ← t.entries.mapM (resolve? t.anchored)
  let followed := entries.foldl (fun n e => n + e.2) 0
  if followed ≤ maxRepetition * t.eventCount then some (entries.map (·.1)) else none

/-- The entries of a text, in its order. -/
def listing? (text : String) : Option (List Entry) := do (← (← tree? text).number).listing?

example : listing? "? a\n: &x\n  - >-\n    b\n    c\n  - !t d\ne: *x\n" =
    some [("a", ["b c", "d"]), ("e", ["b c", "d"])] := by decide +kernel

end PolicyEngine.Yaml
