import PolicyEngine.Json.Number
import PolicyEngine.Text.Basic

/-! JSON texts as read. The tree keeps numbers as spelled and texts as the characters and UTF-16
units between the quotes, so that a part nobody looks at is only held to the grammar. -/
namespace PolicyEngine.Json

/-- A piece of a quoted text: a character, or the code unit of a `\u` escape. -/
inductive Piece where
  | char (c : Char)
  | unit (code : Nat)
  deriving Repr, DecidableEq

inductive Node where
  | null
  | bool (b : Bool)
  | number (text : NumberText)
  | string (pieces : List Piece)
  | array (items : List Node)
  | object (members : List (List Piece × Node))
  deriving Repr

namespace Piece

def isHighSurrogate (code : Nat) : Bool := 0xd800 ≤ code && code < 0xdc00

def isLowSurrogate (code : Nat) : Bool := 0xdc00 ≤ code && code < 0xe000

/-- The characters of a text. A surrogate unit counts only as the half of a pair. -/
def decode : List Piece → Option (List Char)
  | [] => some []
  | .char c :: rest => (decode rest).map (c :: ·)
  | .unit high :: .unit low :: rest =>
    if isHighSurrogate high then
      if isLowSurrogate low then
        (decode rest).map (Char.ofNat (0x10000 + (high - 0xd800) * 0x400 + (low - 0xdc00)) :: ·)
      else none
    else if isLowSurrogate high then none
    else (decode (.unit low :: rest)).map (Char.ofNat high :: ·)
  | .unit code :: rest =>
    if isHighSurrogate code || isLowSurrogate code then none
    else (decode rest).map (Char.ofNat code :: ·)

def text? (pieces : List Piece) : Option String := (decode pieces).map String.ofList

end Piece

/-- The text that a node stands for. -/
def Node.text? : Node → Option String
  | .string pieces => Piece.text? pieces
  | _ => none

/-- The texts of an array that holds nothing else. -/
def Node.texts? : Node → Option (List String)
  | .array items => items.mapM Node.text?
  | _ => none

def isBlank (c : Char) : Bool := c = ' ' || c = '\t' || c = '\n' || c = '\r'

def skipBlanks (cs : List Char) : List Char := cs.dropWhile isBlank

theorem length_skipBlanks_le (cs : List Char) : (skipBlanks cs).length ≤ cs.length :=
  (List.dropWhile_sublist _).length_le

/-- The character of a one letter escape. -/
def simpleEscape? (c : Char) : Option Char :=
  if c = '"' ∨ c = '\\' ∨ c = '/' then some c
  else if c = 'b' then some (Char.ofNat 8)
  else if c = 'f' then some (Char.ofNat 12)
  else if c = 'n' then some '\n'
  else if c = 'r' then some '\r'
  else if c = 't' then some '\t'
  else none

/-- Reads up to the closing quote. -/
def readQuoted : List Char → Option (List Piece × List Char)
  | [] => none
  | '"' :: rest => some ([], rest)
  | '\\' :: 'u' :: a :: b :: c :: d :: rest => do
    let code ← Text.hexNumber? [a, b, c, d]
    let (pieces, after) ← readQuoted rest
    some (.unit code :: pieces, after)
  | '\\' :: e :: rest => do
    let c ← simpleEscape? e
    let (pieces, after) ← readQuoted rest
    some (.char c :: pieces, after)
  | c :: rest =>
    if c.toNat < 0x20 || c = '\\' then none
    else (readQuoted rest).map fun (pieces, after) => (.char c :: pieces, after)

/-- A leading minus: whether there is one, and the text after it. -/
def takeMinus : List Char → Bool × List Char
  | '-' :: cs => (true, cs)
  | cs => (false, cs)

/-- Reads an exponent if one starts here. -/
def readExponent : List Char → Option (Option (Bool × List Char) × List Char)
  | [] => some (none, [])
  | e :: cs =>
    if e = 'e' ∨ e = 'E' then
      let (negative, unsigned) := Number.takeSign cs
      let (digits, after) := Number.digitRun unsigned
      if digits.isEmpty then none else some (some (negative, digits), after)
    else some (none, e :: cs)

/-- Reads a number. A zero is not followed by another digit, and a point or an exponent has digits. -/
def readNumber (cs : List Char) : Option (NumberText × List Char) :=
  let (negative, unsigned) := takeMinus cs
  let (whole, afterWhole) := Number.digitRun unsigned
  let (fraction, afterFraction) := Number.takeFraction afterWhole
  if whole.isEmpty || (whole.head? = some '0' && whole.length != 1) then none
  else if afterWhole.head? = some '.' && fraction.isEmpty then none
  else (readExponent afterFraction).map fun (exponent, after) =>
    (⟨negative, whole, fraction, exponent⟩, after)

/-- The text after a given word. -/
def afterWord (word : List Char) (cs : List Char) : Option (List Char) :=
  if word.isPrefixOf cs then some (cs.drop word.length) else none

/-- Reads a literal, a number or a quoted text. -/
def readLeaf (cs : List Char) : Option (Node × List Char) :=
  match cs with
  | [] => none
  | c :: rest =>
    if c = '"' then (readQuoted rest).map fun (pieces, after) => (.string pieces, after)
    else if c = 'n' then (afterWord ['u', 'l', 'l'] rest).map (.null, ·)
    else if c = 't' then (afterWord ['r', 'u', 'e'] rest).map (.bool true, ·)
    else if c = 'f' then (afterWord ['a', 'l', 's', 'e'] rest).map (.bool false, ·)
    else (readNumber cs).map fun (n, after) => (.number n, after)

theorem length_readQuoted {cs after : List Char} {pieces : List Piece}
    (h : readQuoted cs = some (pieces, after)) : after.length < cs.length := by
  fun_induction readQuoted cs generalizing pieces after with
  | case1 => simp at h
  | case2 rest => simp_all
  | case3 a b c d rest ih =>
    simp only [Option.bind_eq_bind, Option.bind_eq_some_iff, Prod.exists] at h
    obtain ⟨_, _, ps, r, hr, h⟩ := h
    have := ih hr
    simp only [Option.some.injEq, Prod.mk.injEq] at h
    simp only [List.length_cons, ← h.2]
    omega
  | case4 e rest _ ih =>
    simp only [Option.bind_eq_bind, Option.bind_eq_some_iff, Prod.exists] at h
    obtain ⟨_, _, ps, r, hr, h⟩ := h
    have := ih hr
    simp only [Option.some.injEq, Prod.mk.injEq] at h
    simp only [List.length_cons, ← h.2]
    omega
  | case5 c rest => simp at h
  | case6 c rest _ _ _ _ ih =>
    simp only [Option.map_eq_some_iff, Prod.exists, Prod.mk.injEq] at h
    obtain ⟨ps, r, hr, _, rfl⟩ := h
    have := ih hr
    simp only [List.length_cons]
    omega

theorem length_digitRun_le (cs : List Char) : (Number.digitRun cs).2.length ≤ cs.length :=
  (List.dropWhile_sublist _).length_le

theorem length_takeFraction_le (cs : List Char) : (Number.takeFraction cs).2.length ≤ cs.length := by
  unfold Number.takeFraction
  split
  · next rest => exact Nat.le_succ_of_le (length_digitRun_le rest)
  · simp

theorem length_takeSign_le (cs : List Char) : (Number.takeSign cs).2.length ≤ cs.length := by
  unfold Number.takeSign
  split <;> simp

theorem length_takeMinus_le (cs : List Char) : (takeMinus cs).2.length ≤ cs.length := by
  unfold takeMinus
  split <;> simp

theorem length_digitRun_lt {cs : List Char} (h : (Number.digitRun cs).1 ≠ []) :
    (Number.digitRun cs).2.length < cs.length := by
  have split := congrArg List.length (Number.digitRun_append cs)
  have := List.length_pos_iff.2 h
  simp only [List.length_append] at split
  omega

theorem length_readExponent_le {cs after : List Char} {e : Option (Bool × List Char)}
    (h : readExponent cs = some (e, after)) : after.length ≤ cs.length := by
  cases cs with
  | nil => simp_all [readExponent]
  | cons c cs =>
    have := length_digitRun_le (Number.takeSign cs).2
    have := length_takeSign_le cs
    simp only [readExponent] at h
    split at h
    · split at h
      · simp at h
      · simp only [Option.some.injEq, Prod.mk.injEq] at h
        simp only [← h.2, List.length_cons]
        omega
    · simp_all

theorem length_readNumber {cs after : List Char} {n : NumberText}
    (h : readNumber cs = some (n, after)) : after.length < cs.length := by
  simp only [readNumber] at h
  split at h
  · simp at h
  · next hw =>
    simp only [Bool.or_eq_true, not_or, List.isEmpty_iff] at hw
    split at h
    · simp at h
    · simp only [Option.map_eq_some_iff, Prod.exists, Prod.mk.injEq] at h
      obtain ⟨_, r, hr, _, rfl⟩ := h
      have := length_takeMinus_le cs
      have := length_digitRun_lt hw.1
      have := length_takeFraction_le (Number.digitRun (takeMinus cs).2).2
      have := length_readExponent_le hr
      omega

theorem length_afterWord_le {word cs after : List Char} (h : afterWord word cs = some after) :
    after.length ≤ cs.length := by
  simp only [afterWord, Option.ite_none_right_eq_some, Option.some.injEq] at h
  simp [← h.2]

theorem length_readLeaf {cs after : List Char} {n : Node} (h : readLeaf cs = some (n, after)) :
    after.length < cs.length := by
  cases cs with
  | nil => simp [readLeaf] at h
  | cons c rest =>
    simp only [readLeaf] at h
    simp only [List.length_cons]
    split at h
    · simp only [Option.map_eq_some_iff, Prod.exists, Prod.mk.injEq] at h
      obtain ⟨ps, r, hr, _, rfl⟩ := h
      have := length_readQuoted hr
      omega
    · split at h
      · simp only [Option.map_eq_some_iff, Prod.mk.injEq] at h
        obtain ⟨r, hr, _, rfl⟩ := h
        have := length_afterWord_le hr
        omega
      · split at h
        · simp only [Option.map_eq_some_iff, Prod.mk.injEq] at h
          obtain ⟨r, hr, _, rfl⟩ := h
          have := length_afterWord_le hr
          omega
        · split at h
          · simp only [Option.map_eq_some_iff, Prod.mk.injEq] at h
            obtain ⟨r, hr, _, rfl⟩ := h
            have := length_afterWord_le hr
            omega
          · simp only [Option.map_eq_some_iff, Prod.exists, Prod.mk.injEq] at h
            obtain ⟨n, r, hr, _, rfl⟩ := h
            simpa using length_readNumber hr

/-- What a reader leaves of a text. -/
abbrev Rest (cs : List Char) := { rest : List Char // rest.length < cs.length }

mutual

/-- Reads one value that starts at the first character. -/
def readValue (cs : List Char) : Option (Node × Rest cs) :=
  match cs with
  | [] => none
  | c :: rest =>
    if c = '[' then
      match h : skipBlanks rest with
      | ']' :: after =>
        some (.array [], ⟨after, by
          have := length_skipBlanks_le rest
          simp only [h, List.length_cons] at *; omega⟩)
      | _ => (readItems rest).map fun (items, after) =>
          (.array items, ⟨after.1, Nat.lt_succ_of_lt after.2⟩)
    else if c = '{' then
      match h : skipBlanks rest with
      | '}' :: after =>
        some (.object [], ⟨after, by
          have := length_skipBlanks_le rest
          simp only [h, List.length_cons] at *; omega⟩)
      | _ => (readMembers rest).map fun (members, after) =>
          (.object members, ⟨after.1, Nat.lt_succ_of_lt after.2⟩)
    else
      match h : readLeaf (c :: rest) with
      | some (leaf, after) => some (leaf, ⟨after, length_readLeaf h⟩)
      | none => none
termination_by 2 * cs.length
decreasing_by all_goals simp only [List.length_cons]; omega

/-- Reads items up to the closing bracket. -/
def readItems (cs : List Char) : Option (List Node × Rest cs) :=
  match readValue (skipBlanks cs) with
  | none => none
  | some (item, ⟨rest, hrest⟩) =>
    have hle := length_skipBlanks_le cs
    have hskip := length_skipBlanks_le rest
    match h : skipBlanks rest with
    | ']' :: after => some ([item], ⟨after, by simp only [h, List.length_cons] at hskip; omega⟩)
    | ',' :: more =>
      (readItems more).map fun (items, after) =>
        (item :: items, ⟨after.1, by
          have := after.2
          simp only [h, List.length_cons] at hskip; omega⟩)
    | _ => none
termination_by 2 * cs.length + 1
decreasing_by
  · have hle := length_skipBlanks_le cs
    omega
  · simp only [h, List.length_cons] at hskip
    omega

/-- Reads members up to the closing brace. -/
def readMembers (cs : List Char) : Option (List (List Piece × Node) × Rest cs) :=
  have hcs := length_skipBlanks_le cs
  match hkey : skipBlanks cs with
  | '"' :: afterQuote =>
    match hquoted : readQuoted afterQuote with
    | none => none
    | some (key, afterKey) =>
      have hq := length_readQuoted hquoted
      have hk := length_skipBlanks_le afterKey
      match hcolon : skipBlanks afterKey with
      | ':' :: afterColon =>
        have ha := length_skipBlanks_le afterColon
        match readValue (skipBlanks afterColon) with
        | none => none
        | some (value, ⟨rest, hrest⟩) =>
          have hskip := length_skipBlanks_le rest
          match h : skipBlanks rest with
          | '}' :: after =>
            some ([(key, value)], ⟨after, by
              simp only [hkey, hcolon, h, List.length_cons] at *; omega⟩)
          | ',' :: more =>
            (readMembers more).map fun (members, after) =>
              ((key, value) :: members, ⟨after.1, by
                have := after.2
                simp only [hkey, hcolon, h, List.length_cons] at *; omega⟩)
          | _ => none
      | _ => none
  | _ => none
termination_by 2 * cs.length + 1
decreasing_by
  · simp only [hkey, hcolon, List.length_cons] at *
    omega
  · simp only [hkey, hcolon, h, List.length_cons] at *
    omega

end

/-- Reads a text that is one value between blanks. -/
def Node.ofChars? (cs : List Char) : Option Node :=
  match readValue (skipBlanks cs) with
  | some (node, rest) => if (skipBlanks rest.1).isEmpty then some node else none
  | none => none

def Node.ofText? (text : String) : Option Node := Node.ofChars? text.toList

end PolicyEngine.Json
