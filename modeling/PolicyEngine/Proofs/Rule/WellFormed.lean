import PolicyEngine.Proofs.Rule.Fallback

/-! Well-formed rules. What parsing ends in is described node by node: which rules a compound rule is made of, where
lists stand, which terms an `EXP` has, and which literals and paths there are. -/
namespace PolicyEngine

def Path.StartsWithKey (p : Path) : Prop := ∃ name rest, p.segments = .key name :: rest ∧ name ≠ ""

namespace Operand

def isList : Operand → Bool
  | .list _ => true
  | _ => false

/-- Whether an operand may be a term of an `EXP`. -/
def isNumeric : Operand → Bool
  | .path _ | .literal (.number _) | .aggregate .. | .exp _ | .arith .. => true
  | _ => false

/-- The terms of an `EXP`. -/
def terms : Operand → List Operand
  | .exp term => [term]
  | .arith left _ right => [left, right]
  | _ => []

def path? : Operand → Option Path
  | .path p | .aggregate _ p => some p
  | _ => none

/-- An operand and all the terms within it. -/
def parts : Operand → List Operand
  | .exp term => .exp term :: term.parts
  | .arith left op right => .arith left op right :: (left.parts ++ right.parts)
  | operand => [operand]

/-- What may be said of each part of an operand by itself. -/
structure IsFormed (operand : Operand) : Prop where
  literals : ∀ v, operand = .literal v → v.isScalar ∧ ∀ x, v = .number x → x.isFinite
  terms : ∀ term ∈ operand.terms, term.isNumeric
  paths : ∀ p ∈ operand.path?, p.StartsWithKey

end Operand

namespace Rule

def isOr : Rule → Bool
  | .or _ _ => true
  | _ => false

/-- A rule and all the rules within it. -/
def nodes : Rule → List Rule
  | .or left right => .or left right :: (left.nodes ++ right.nodes)
  | .conditional condition action => .conditional condition action :: (condition.nodes ++ action.nodes)
  | rule => [rule]

/-- The operands of a rule itself, without those of the rules within it. -/
def operands : Rule → List Operand
  | .set _ value => [value]
  | .compare left _ right => [left, right]
  | _ => []

/-- The path of a rule that is in none of its operands. -/
def path? : Rule → Option Path
  | .set target _ => some target
  | .nullCheck p _ => some p
  | _ => none

/-- What the rules and operands of a rule may be. -/
def IsShaped : Rule → Prop
  | .or left _ => left.isOr = false
  | .set _ value => value.isList = false
  | .conditional condition action =>
    condition.isOr = false ∧ action.isOr = false ∧ condition.isConditional = false
  | .nullCheck _ _ => True
  | .compare left op right => left.isList = false ∧
    (right.isList = true ↔ op = .memberOf ∨ op = .notMemberOf) ∧ ¬ IsNullCheck left op right

structure IsFormed (node : Rule) : Prop where
  shape : node.IsShaped
  operands : ∀ operand ∈ node.operands, ∀ part ∈ operand.parts, part.IsFormed
  paths : ∀ p ∈ node.path?, p.StartsWithKey

end Rule

/-! Canonical rules are well formed -/

theorem Path.IsPlain.startsWithKey {depth : Nat} {p : Path} (h : p.IsPlain depth) : p.StartsWithKey := by
  refine ⟨p.root, p.rest, rfl, ?_⟩
  intro hempty
  exact h.root.nonempty (by rw [hempty]; rfl)

namespace Operand

variable {operand : Operand}

theorem IsTerm.isNumeric (h : operand.IsTerm) : operand.isNumeric = true := by
  cases h <;> rfl

theorem isFormed_literal {v : Value} (scalar : v.isScalar) (finite : ∀ x, v = .number x → x.isFinite) :
    (Operand.literal v).IsFormed where
  literals w hw := by
    cases hw
    exact ⟨scalar, finite⟩
  terms := by simp [Operand.terms]
  paths := by simp [path?]

theorem isFormed_path {p : Path} (h : p.StartsWithKey) : (Operand.path p).IsFormed where
  literals := by simp
  terms := by simp [Operand.terms]
  paths := by simpa [path?] using h

theorem isFormed_aggregate {op : AggregateOp} {p : Path} (h : p.StartsWithKey) :
    (Operand.aggregate op p).IsFormed where
  literals := by simp
  terms := by simp [Operand.terms]
  paths := by simpa [path?] using h

theorem isFormed_list (items : List String) : (Operand.list items).IsFormed where
  literals := by simp
  terms := by simp [Operand.terms]
  paths := by simp [path?]

theorem IsTerm.isFormed (h : operand.IsTerm) : ∀ part ∈ operand.parts, part.IsFormed := by
  induction h with
  | path plain => exact List.forall_mem_singleton.2 (isFormed_path plain.startsWithKey)
  | @number x finite =>
    refine List.forall_mem_singleton.2 (isFormed_literal rfl fun y hy => ?_)
    cases hy
    exact finite
  | exp h ih =>
    refine List.forall_mem_cons.2 ⟨⟨by simp, ?_, by simp [path?]⟩, ih⟩
    simpa [Operand.terms] using h.isNumeric
  | arith hleft hright ihLeft ihRight =>
    refine List.forall_mem_cons.2 ⟨⟨by simp, ?_, by simp [path?]⟩, List.forall_mem_append.2 ⟨ihLeft, ihRight⟩⟩
    simp [Operand.terms, hleft.isNumeric, hright.isNumeric]
  | aggregate plain => exact List.forall_mem_singleton.2 (isFormed_aggregate plain.startsWithKey)

theorem IsCanonical.isFormed (h : operand.IsCanonical) : ∀ part ∈ operand.parts, part.IsFormed := by
  cases h with
  | path plain => exact List.forall_mem_singleton.2 (isFormed_path plain.startsWithKey)
  | literal scalar finite => exact List.forall_mem_singleton.2 (isFormed_literal scalar finite)
  | call _ term => exact term.isFormed

theorem IsCanonical.isList (h : operand.IsCanonical) : operand.isList = false := by
  cases h with
  | call _ term => cases term <;> rfl
  | _ => rfl

end Operand

namespace Rule

variable {rule : Rule}

theorem isOr_of_hasOr (h : rule.hasOr = false) : rule.isOr = false := by
  cases rule with
  | or left right => cases h
  | _ => rfl

/-- By induction on the rule. A membership is the one comparison with a list on its right side. -/
theorem IsCanonical.isFormed (h : rule.IsCanonical) : ∀ node ∈ rule.nodes, node.IsFormed := by
  induction h with
  | or tight hleft hright ihLeft ihRight =>
    refine List.forall_mem_cons.2 ⟨⟨isOr_of_hasOr tight, ?_, ?_⟩, List.forall_mem_append.2 ⟨ihLeft, ihRight⟩⟩
    · simp [operands]
    · simp [path?]
  | set plain hvalue =>
    refine List.forall_mem_singleton.2 ⟨hvalue.isList, ?_, ?_⟩
    · simpa [operands] using hvalue.isFormed
    · simpa [path?] using plain.startsWithKey
  | conditional simple tight tightAction hcondition haction ihCondition ihAction =>
    refine List.forall_mem_cons.2 ⟨⟨⟨isOr_of_hasOr tight, isOr_of_hasOr tightAction, simple⟩, ?_, ?_⟩,
      List.forall_mem_append.2 ⟨ihCondition, ihAction⟩⟩
    · simp [operands]
    · simp [path?]
  | nullCheck plain =>
    refine List.forall_mem_singleton.2 ⟨trivial, ?_, ?_⟩
    · simp [operands]
    · simpa [path?] using plain.startsWithKey
  | compare member notMember noCheck hleft hright =>
    refine List.forall_mem_singleton.2 ⟨⟨hleft.isList, ?_, noCheck⟩, ?_, ?_⟩
    · simp [hright.isList, member, notMember]
    · exact List.forall_mem_cons.2 ⟨hleft.isFormed, List.forall_mem_singleton.2 hright.isFormed⟩
    · simp [path?]
  | @membership left op items hop hleft =>
    refine List.forall_mem_singleton.2 ⟨⟨hleft.isList, ?_, ?_⟩, ?_, ?_⟩
    · exact iff_of_true rfl hop
    · rintro ⟨-, -, hnull⟩
      cases hnull
    · have hlist := List.forall_mem_singleton.2 (Operand.isFormed_list items)
      exact List.forall_mem_cons.2 ⟨hleft.isFormed, List.forall_mem_singleton.2 hlist⟩
    · simp [path?]

/-- What parsing ends in is well formed, so its evaluation never comes to an answer for what stands out of place. -/
theorem parse_wellFormed {text : String} (h : parse text = .ok rule) :
    (∀ node ∈ rule.nodes, node.IsFormed) ∧ ∀ f doc, rule.evaluateWith f doc = rule.evaluate doc := by
  have hcanonical := isCanonical_of_parse h
  exact ⟨hcanonical.isFormed, fun f doc => congrFun (hcanonical.evaluateWith f) doc⟩

/-- A parenthesis that was never opened leaves the `OR` behind it in the open. -/
theorem parse_wellFormed_unbalanced : ∃ rule,
    parse "IF $.a NOT IN [x] THEN SET $.b = EXP($.c * 2) OR $.d != )x OR $.e == y" = .ok rule ∧ rule.nodes.length = 7 ∧
      (∀ node ∈ rule.nodes, node.IsFormed) ∧ ∀ f doc, rule.evaluateWith f doc = rule.evaluate doc := by
  have hlength : (parse "IF $.a NOT IN [x] THEN SET $.b = EXP($.c * 2) OR $.d != )x OR $.e == y").toOption.any
      (fun rule => rule.nodes.length == 7) = true := by decide +kernel
  obtain ⟨rule, hparse, hnodes⟩ := exists_eq_ok_of_any hlength
  exact ⟨rule, hparse, eq_of_beq hnodes, parse_wellFormed hparse⟩

end Rule

end PolicyEngine
