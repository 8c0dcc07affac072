import PolicyEngine.Proofs.Policy.Footprint

/-! Independent policies: none writes under a root key that another one reads or writes. Running them in
another order gives each the same result and leaves the same document. -/
namespace PolicyEngine

open Fields (Agree merge)

/-- Two confined computations can be swapped if neither writes where the other reads or writes. -/
theorem Confined.diamond {α β : Type} {reads writes reads' writes' : List String}
    {f : Value → α × Value} {g : Value → β × Value} (hf : Confined reads writes f)
    (hg : Confined reads' writes' g) (hwrites : ∀ key ∈ writes, key ∉ reads' ∧ key ∉ writes')
    (hwrites' : ∀ key ∈ writes', key ∉ reads ∧ key ∉ writes) (fields : List (String × Value)) :
    ∃ a b mid mid' after, f (.object fields) = (a, .object mid) ∧ g (.object mid) = (b, .object after) ∧
      g (.object fields) = (b, .object mid') ∧ f (.object mid') = (a, .object after) := by
  obtain ⟨a, added, hadded, hf⟩ := hf fields
  obtain ⟨b, added', hadded', hg⟩ := hg fields
  have hagree : Agree (reads' ++ writes') fields (merge fields added) := by
    refine Fields.agree_merge (fun p hp hmem => ?_) fields
    obtain ⟨hr, hw⟩ := hwrites p.1 (hadded p hp)
    exact (List.mem_append.1 hmem).elim hr hw
  have hagree' : Agree (reads ++ writes) fields (merge fields added') := by
    refine Fields.agree_merge (fun p hp hmem => ?_) fields
    obtain ⟨hr, hw⟩ := hwrites' p.1 (hadded' p hp)
    exact (List.mem_append.1 hmem).elim hr hw
  have hkeys : ∀ p ∈ added', ∀ q ∈ added, p.1 ≠ q.1 := by
    intro p hp q hq heq
    exact (hwrites' p.1 (hadded' p hp)).2 (heq ▸ hadded q hq)
  refine ⟨a, b, merge fields added, merge fields added', merge (merge fields added) added',
    hf _ fun _ _ => rfl, hg _ hagree, hg _ fun _ _ => rfl, ?_⟩
  rw [hf _ hagree', Fields.merge_comm hkeys]

namespace Registry

/-- No policy writes under a root key that another one of the named policies reads or writes. -/
def Independent (r : Registry) (names : List String) : Prop :=
  ∀ a ∈ names, ∀ b ∈ names, a ≠ b → ∀ key ∈ r.writeRoots a, key ∉ r.readRoots b ∧ key ∉ r.writeRoots b

instance (r : Registry) (names : List String) : Decidable (r.Independent names) :=
  inferInstanceAs (Decidable (∀ a ∈ names, ∀ b ∈ names, a ≠ b → ∀ key ∈ r.writeRoots a,
    key ∉ r.readRoots b ∧ key ∉ r.writeRoots b))

theorem Independent.mono {r : Registry} {names others : List String} (h : r.Independent names)
    (hsub : others ⊆ names) : r.Independent others :=
  fun a ha b hb => h a (hsub ha) b (hsub hb)

theorem executeName_diamond {r : Registry} {names : List String} (h : r.Independent names) {a b : String}
    (ha : a ∈ names) (hb : b ∈ names) (hab : a ≠ b) (fields : List (String × Value)) :
    ∃ x y mid mid' after, r.executeName a (.object fields) = (x, .object mid) ∧
      r.executeName b (.object mid) = (y, .object after) ∧
      r.executeName b (.object fields) = (y, .object mid') ∧
      r.executeName a (.object mid') = (x, .object after) :=
  (r.executeName_confined a).diamond (r.executeName_confined b) (h a ha b hb hab)
    (h b hb a ha hab.symm) fields

theorem executeName_object (r : Registry) (name : String) (fields : List (String × Value)) :
    ∃ x after, r.executeName name (.object fields) = (x, .object after) := by
  obtain ⟨x, added, -, h⟩ := r.executeName_confined name fields
  exact ⟨x, Fields.merge fields added, h fields fun _ _ => rfl⟩

theorem execute_cons {r : Registry} {name : String} {doc after : Value} {x : PolicyResult}
    (h : r.executeName name doc = (x, after)) (rest : List String) :
    r.execute (name :: rest) doc = (x :: (r.execute rest after).1, (r.execute rest after).2) := by
  simp only [execute, h]

/-- Each of several independent policies gets the result that it would get alone. -/
theorem execute_results {r : Registry} {names : List String} (hdistinct : names.Nodup)
    (hind : r.Independent names) (fields : List (String × Value)) :
    (r.execute names (.object fields)).1 = names.map fun name => (r.executeName name (.object fields)).1 := by
  induction names generalizing fields with
  | nil => rfl
  | cons name rest ih =>
    obtain ⟨x, mid, hname⟩ := r.executeName_object name fields
    obtain ⟨hnot, hrest⟩ := List.nodup_cons.1 hdistinct
    have htail : ∀ other ∈ rest,
        (r.executeName other (.object mid)).1 = (r.executeName other (.object fields)).1 := by
      intro other hother
      have hne : name ≠ other := fun heq => hnot (heq ▸ hother)
      obtain ⟨_, y, _, _, _, hfirst, hsecond, halone, _⟩ :=
        executeName_diamond hind List.mem_cons_self (List.mem_cons_of_mem name hother) hne fields
      rw [hname] at hfirst
      cases hfirst
      rw [hsecond, halone]
    simp only [execute_cons hname, List.map_cons, hname,
      ih hrest (hind.mono (List.subset_cons_self name rest)), List.map_congr_left htail]

theorem execute_document {r : Registry} {names others : List String} (hperm : names.Perm others)
    (hdistinct : names.Nodup) (hind : r.Independent names) (fields : List (String × Value)) :
    (r.execute others (.object fields)).2 = (r.execute names (.object fields)).2 := by
  induction hperm generalizing fields with
  | nil => rfl
  | cons name _ ih =>
    obtain ⟨x, mid, hname⟩ := r.executeName_object name fields
    rw [execute_cons hname, execute_cons hname]
    exact ih (List.nodup_cons.1 hdistinct).2 (hind.mono (List.subset_cons_self name _)) mid
  | swap a b rest =>
    have hne : b ≠ a := fun heq => (List.nodup_cons.1 hdistinct).1 (heq ▸ List.mem_cons_self)
    obtain ⟨x, y, mid, mid', after, hb, ha, ha', hb'⟩ :=
      executeName_diamond hind List.mem_cons_self (List.mem_cons_of_mem b List.mem_cons_self) hne fields
    rw [execute_cons ha', execute_cons hb', execute_cons hb, execute_cons ha]
  | trans hfirst _ ih ih' =>
    rw [ih' (hfirst.nodup_iff.1 hdistinct) (hind.mono hfirst.symm.subset), ih hdistinct hind]

/-- The order of independent policies does not matter: the document and the flag stay the same, and
under each name stands the result that its policy gets alone. -/
theorem execute_perm {r : Registry} {names others : List String} (hperm : names.Perm others)
    (hdistinct : names.Nodup) (hind : r.Independent names) (fields : List (String × Value)) :
    (r.execute others (.object fields)).2 = (r.execute names (.object fields)).2 ∧
      allPassed (r.execute others (.object fields)).1 = allPassed (r.execute names (.object fields)).1 ∧
      (r.execute names (.object fields)).1 =
        names.map (fun name => (r.executeName name (.object fields)).1) ∧
      (r.execute others (.object fields)).1 =
        others.map (fun name => (r.executeName name (.object fields)).1) := by
  have hresults := execute_results hdistinct hind fields
  have hothers := execute_results (hperm.nodup_iff.1 hdistinct) (hind.mono hperm.symm.subset) fields
  refine ⟨execute_document hperm hdistinct hind fields, ?_, hresults, hothers⟩
  rw [hresults, hothers, allPassed, allPassed]
  exact (hperm.symm.map _).all_eq

/-- A policy that computes a tax and one that fails after it has written a mark. -/
theorem execute_perm_tax_mark :
    let r := (empty.insert (.ofTexts "tax" ["SET $.tax = EXP($.price * 0.1)", "$.tax < 50"])).insert
      (.ofTexts "mark" ["SET $.seen = true", "$.kind IN [book, 'toy']", "SET $.kind[0] = 1"])
    let fields := [("kind", Value.string "toy"), ("price", .number 100)]
    ["tax", "mark"].Perm ["mark", "tax"] ∧ ["tax", "mark"].Nodup ∧ r.Independent ["tax", "mark"] ∧
      (r.execute ["mark", "tax"] (.object fields)).2 = (r.execute ["tax", "mark"] (.object fields)).2 ∧
      allPassed (r.execute ["mark", "tax"] (.object fields)).1 =
        allPassed (r.execute ["tax", "mark"] (.object fields)).1 ∧
      (r.execute ["tax", "mark"] (.object fields)).1 =
        ["tax", "mark"].map (fun name => (r.executeName name (.object fields)).1) ∧
      (r.execute ["mark", "tax"] (.object fields)).1 =
        ["mark", "tax"].map (fun name => (r.executeName name (.object fields)).1) := by
  intro r fields
  have hperm : ["tax", "mark"].Perm ["mark", "tax"] := by decide
  have hdistinct : ["tax", "mark"].Nodup := by decide
  have hind : r.Independent ["tax", "mark"] := by decide +kernel
  exact ⟨hperm, hdistinct, hind, execute_perm hperm hdistinct hind fields⟩

end Registry

end PolicyEngine
