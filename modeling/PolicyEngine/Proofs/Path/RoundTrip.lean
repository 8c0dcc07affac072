import PolicyEngine.Proofs.Path.Grammar
import PolicyEngine.Proofs.Rule.Characters

/-! A path that was read from a text is rendered as a text that reads back to it. The rendered text may
differ from the one read, in the digits of its indices alone, so the lexer takes it just as well. -/
namespace PolicyEngine
open Lexer (Closed)

/-- A key that paths can spell where `depth` parentheses are open. -/
structure IsName (depth : Nat) (name : String) : Prop where
  nonempty : name.toList ≠ []
  point : '.' ∉ name.toList
  opening : '[' ∉ name.toList
  closing : ']' ∉ name.toList
  closed : Closed depth name.toList

def Segment.IsPlain (depth : Nat) : Segment → Prop
  | .key name => IsName depth name
  | .index i => i < Path.indexBound

namespace Path

structure IsPlain (depth : Nat) (p : Path) : Prop where
  root : IsName depth p.root
  rest : ∀ s ∈ p.rest, s.IsPlain depth

theorem IsPlain.imp {depth depth' : Nat} {p : Path} (h : p.IsPlain depth)
    (hclosed : ∀ cs, Closed depth cs → Closed depth' cs) : p.IsPlain depth' := by
  have hname : ∀ name, IsName depth name → IsName depth' name := fun name hname =>
    ⟨hname.nonempty, hname.point, hname.opening, hname.closing, hclosed _ hname.closed⟩
  refine ⟨hname p.root h.root, fun s hs => ?_⟩
  have hsegment := h.rest s hs
  cases s with
  | key name => exact hname name hsegment
  | index i => exact hsegment

theorem IsPlain.outside {depth : Nat} {p : Path} (h : p.IsPlain depth) : p.IsPlain 0 :=
  h.imp fun _ hclosed => hclosed.outside

theorem IsPlain.inside {depth : Nat} {p : Path} (h : p.IsPlain (depth + 1)) : p.IsPlain 1 :=
  h.imp fun _ hclosed => Lexer.closed_succ.1 hclosed

theorem IsPlain.deeper {depth : Nat} {p : Path} (h : p.IsPlain 1) : p.IsPlain (depth + 1) :=
  h.imp fun _ hclosed => Lexer.closed_succ.2 hclosed

/-! Texts of paths -/

def body (p : Path) : List Char := p.root.toList ++ segmentChars p.rest

theorem toList_render (p : Path) : p.render.toList = '$' :: '.' :: p.body := by
  rw [render, toList_renderPlace, segments, segmentChars_key, body]

theorem IsPlain.spellable {depth : Nat} {p : Path} (h : p.IsPlain depth) : ∀ s ∈ p.segments, IsSpellable s := by
  have hkey : ∀ name, IsName depth name → IsKey name.toList := fun name hname =>
    ⟨hname.nonempty, hname.point, hname.opening, hname.closing⟩
  refine List.forall_mem_cons.2 ⟨hkey p.root h.root, fun s hs => ?_⟩
  have hsegment := h.rest s hs
  cases s with
  | key name => exact hkey name hsegment
  | index i => exact hsegment

/-- A rendered path reads back to it. -/
theorem parse_render {depth : Nat} {p : Path} (h : p.IsPlain depth) : parse p.render = .ok p :=
  parse_renderPlace h.spellable

/-- The rendered text of a path is one run of the lexer. -/
theorem IsPlain.closed_body {depth : Nat} {p : Path} (h : p.IsPlain depth) : Closed depth p.body := by
  have hsegments : ∀ segments : List Segment, (∀ s ∈ segments, s.IsPlain depth) →
      Closed depth (segmentChars segments) := by
    intro segments hplain
    induction segments with
    | nil => exact Lexer.closed_nil depth
    | cons s rest ih =>
      refine Closed.append ?_ (ih fun s hs => hplain s (List.mem_cons_of_mem _ hs))
      have hs := hplain s List.mem_cons_self
      cases s with
      | key k =>
        change Closed depth (Segment.key k).render.toList
        rw [toList_render_key]
        exact Lexer.closed_cons.2 ⟨Lexer.isPathChar_of_plain (by decide) (by decide) _ _, hs.closed⟩
      | index i =>
        change Closed depth (Segment.index i).render.toList
        rw [toList_render_index]
        refine Lexer.closed_of_plain depth fun c hc => ?_
        rcases List.mem_cons.1 hc with rfl | hc
        · decide
        · rcases List.mem_append.1 hc with hc | hc
          · have hdigit := Number.isDigit_of_mem_digitsOf hc
            exact ⟨Lexer.isDelimiter_of_isDigit hdigit, Lexer.isOperator_of_isDigit hdigit⟩
          · rw [List.mem_singleton.1 hc]
            decide
  exact h.root.closed.append (hsegments p.rest h.rest)

/-! Paths that were read -/

theorem SpellsIndices.isPlain {cs : List Char} {segments : List Segment} (h : SpellsIndices cs segments)
    (depth : Nat) : ∀ s ∈ segments, s.IsPlain depth := by
  induction h with
  | nil => simp
  | cons first others ih =>
    obtain ⟨-, -, -, -, -, -, -, hbound⟩ := first
    exact List.forall_mem_cons.2 ⟨hbound, ih⟩

/-- The name of a piece ends at a bracket or at the end, so it is a run on its own. -/
theorem SpellsPiece.isPlain {depth : Nat} {cs : List Char} {segments : List Segment} (h : SpellsPiece cs segments)
    (hclosed : Closed depth cs) : ∀ s ∈ segments, s.IsPlain depth := by
  obtain ⟨name, rest, indices, rfl, hname, hindices, rfl⟩ := h
  have hrun : Closed depth name := by
    refine hclosed.left fun c hc => ?_
    rw [hindices.head? c hc]
    decide
  refine List.forall_mem_cons.2 ⟨?_, hindices.isPlain depth⟩
  have htext : (String.ofList name).toList = name := String.toList_ofList
  rw [← htext] at hname hrun
  exact ⟨hname.nonempty, hname.point, hname.opening, hname.closing, hrun⟩

/-- The pieces of a run are runs: none of them is cut within a name. -/
theorem SpellsPieces.isPlain {depth : Nat} {cs : List Char} {segments : List Segment} (h : SpellsPieces cs segments)
    (hclosed : Closed depth cs) : ∀ s ∈ segments, s.IsPlain depth := by
  induction h with
  | last piece => exact piece.isPlain hclosed
  | cons piece tail ih =>
    have hfirst := hclosed.left fun c hc => by
      cases hc
      decide
    have hrest := (Lexer.closed_cons.1 hclosed.right).2
    intro s hs
    exact (List.mem_append.1 hs).elim (piece.isPlain hfirst s) (ih hrest s)

/-- A path that was read from a run is spelled by a run. -/
theorem isPlain_of_parse {depth : Nat} {text : String} {run : List Char} {p : Path}
    (htext : text.toList = '$' :: '.' :: run) (hclosed : Closed depth run) (h : parse text = .ok p) :
    p.IsPlain depth := by
  obtain ⟨body, hbody, hpieces⟩ := parse_eq_ok_iff.1 h
  obtain rfl : run = body := by simpa using htext.symm.trans hbody
  obtain ⟨hroot, hrest⟩ := List.forall_mem_cons.1 (hpieces.isPlain hclosed)
  exact ⟨hroot, hrest⟩

end Path

end PolicyEngine
