import PolicyEngine.Policy.Registry

/-! Batches of policies. Every requested name gets one entry, which bears that name and says what its policy did on
the document that the names before it left; so a batch run in two parts is the same batch. -/
namespace PolicyEngine

namespace Registry

variable {r : Registry} {names : List String} {name : String} {doc : Value} {i : Nat}

/-! One name -/

theorem executeName_of_get?_eq_none (h : r.get? name = none) (doc : Value) :
    r.executeName name doc = (⟨name, some (.notDefined name), []⟩, doc) := by
  simp only [executeName, h]

theorem executeName_of_get?_eq_some {policy : Policy} (h : r.get? name = some policy) (doc : Value) :
    r.executeName name doc = policy.execute doc := by
  simp only [executeName, h]

/-- The entry of a defined name bears the name of the policy that was stored, which is the one asked for. -/
theorem name_executeName (r : Registry) (name : String) (doc : Value) : (r.executeName name doc).1.name = name := by
  cases hget : r.get? name with
  | none => rw [executeName_of_get?_eq_none hget]
  | some policy =>
    rw [executeName_of_get?_eq_some hget]
    exact name_of_get? hget

/-- A policy that is not defined, or that fails on a document. -/
def Fails (r : Registry) (name : String) (doc : Value) : Prop :=
  r.get? name = none ∨ ∃ policy, r.get? name = some policy ∧ (policy.execute doc).1.passed = false

theorem passed_executeName_eq_false_iff (r : Registry) (name : String) (doc : Value) :
    (r.executeName name doc).1.passed = false ↔ r.Fails name doc := by
  unfold Fails
  cases hget : r.get? name with
  | none =>
    rw [executeName_of_get?_eq_none hget]
    simp [PolicyResult.passed]
  | some policy =>
    rw [executeName_of_get?_eq_some hget]
    simp

/-! Batches -/

/-- The document that is left in front of the name at a place of a batch. -/
def documentBefore (r : Registry) (names : List String) (doc : Value) (i : Nat) : Value :=
  (r.execute (names.take i) doc).2

@[simp] theorem execute_nil (r : Registry) (doc : Value) : r.execute [] doc = ([], doc) := rfl

theorem execute_append (r : Registry) (names later : List String) (doc : Value) :
    r.execute (names ++ later) doc =
      ((r.execute names doc).1 ++ (r.execute later (r.execute names doc).2).1,
        (r.execute later (r.execute names doc).2).2) := by
  induction names generalizing doc with
  | nil => rfl
  | cons name rest ih => simp only [List.cons_append, execute, ih]

theorem document_execute (r : Registry) (names : List String) (doc : Value) :
    (r.execute names doc).2 = names.foldl (fun d name => (r.executeName name d).2) doc := by
  induction names generalizing doc with
  | nil => rfl
  | cons name rest ih => simp only [execute, List.foldl_cons, ih]

theorem names_execute (r : Registry) (names : List String) (doc : Value) :
    (r.execute names doc).1.map PolicyResult.name = names := by
  induction names generalizing doc with
  | nil => rfl
  | cons name rest ih => simp only [execute, List.map_cons, name_executeName, ih]

/-- The entry at a place is that of its name alone, on the document left in front of it. -/
theorem getElem?_execute (r : Registry) (names : List String) (doc : Value) (i : Nat) :
    (r.execute names doc).1[i]? =
      names[i]?.map fun name => (r.executeName name (r.documentBefore names doc i)).1 := by
  induction names generalizing doc i with
  | nil => rfl
  | cons name rest ih =>
    cases i with
    | zero => rfl
    | succ i =>
      simp only [execute, List.getElem?_cons_succ, ih, documentBefore, List.take_succ_cons]

theorem documentBefore_succ (h : names[i]? = some name) :
    r.documentBefore names doc (i + 1) = (r.executeName name (r.documentBefore names doc i)).2 := by
  unfold documentBefore
  rw [List.take_add_one, h, Option.toList_some, execute_append]
  rfl

/-- A batch fails over the places at which it fails, those of undefined names among them. -/
theorem allPassed_execute_eq_false_iff (r : Registry) (names : List String) (doc : Value) :
    allPassed (r.execute names doc).1 = false ↔
      ∃ i name, names[i]? = some name ∧ r.Fails name (r.documentBefore names doc i) := by
  simp only [allPassed, List.all_eq_false, Bool.not_eq_true, List.mem_iff_getElem?, getElem?_execute,
    Option.map_eq_some_iff]
  constructor
  · rintro ⟨_, ⟨i, name, hname, rfl⟩, hpassed⟩
    exact ⟨i, name, hname, (passed_executeName_eq_false_iff r name _).1 hpassed⟩
  · rintro ⟨i, name, hname, hfails⟩
    exact ⟨_, ⟨i, name, hname, rfl⟩, (passed_executeName_eq_false_iff r name _).2 hfails⟩

/-- A batch in two parts is the first part and then the second on the document that it left. Its entries stand
under the requested names in their order; an undefined name fails and leaves the document alone; and the batch
passes where all its entries do. -/
theorem execute_batches (r : Registry) (names later : List String) (doc : Value) :
    r.execute (names ++ later) doc =
        ((r.execute names doc).1 ++ (r.execute later (r.execute names doc).2).1,
          (r.execute later (r.execute names doc).2).2) ∧
      allPassed (r.execute (names ++ later) doc).1 =
        (allPassed (r.execute names doc).1 && allPassed (r.execute later (r.execute names doc).2).1) ∧
      (r.execute names doc).1.map PolicyResult.name = names ∧
      (∀ i name, names[i]? = some name → r.get? name = none →
        (r.execute names doc).1[i]? = some ⟨name, some (.notDefined name), []⟩ ∧
          r.documentBefore names doc (i + 1) = r.documentBefore names doc i) ∧
      (allPassed (r.execute names doc).1 = true ↔ ∀ result ∈ (r.execute names doc).1, result.passed = true) := by
  refine ⟨execute_append r names later doc, ?_, names_execute r names doc, ?_, List.all_eq_true⟩
  · rw [execute_append]
    exact List.all_append
  · intro i name hname hget
    rw [getElem?_execute, documentBefore_succ hname, hname, Option.map_some, executeName_of_get?_eq_none hget]
    exact ⟨rfl, rfl⟩

/-- A policy that is asked for twice and fails the second time, with an undefined name between. The registry is put
together from a source, a later definition and another registry. -/
theorem execute_batches_fee :
    let r := ((ofSource [("fee", ["SET $.fee = 1"]), ("flag", ["SET $.flag = true"])]).insert
      (.ofTexts "fee" ["$.fee == null", "SET $.fee = 2"])).merge (ofSource [("late", ["$.fee > 1"])])
    let doc := Value.object []
    (["fee", "missing", "fee"][1]? = some "missing" ∧ r.get? "missing" = none) ∧
      r.execute (["fee", "missing", "fee"] ++ ["late"]) doc =
        ((r.execute ["fee", "missing", "fee"] doc).1 ++
            (r.execute ["late"] (r.execute ["fee", "missing", "fee"] doc).2).1,
          (r.execute ["late"] (r.execute ["fee", "missing", "fee"] doc).2).2) ∧
      (r.execute ["fee", "missing", "fee"] doc).1.map PolicyResult.name = ["fee", "missing", "fee"] ∧
      (r.execute ["fee", "missing", "fee"] doc).1.map PolicyResult.passed = [true, false, false] ∧
      (r.execute ["fee", "missing", "fee"] doc).1[1]? = some ⟨"missing", some (.notDefined "missing"), []⟩ := by
  intro r doc
  have hmissing : ["fee", "missing", "fee"][1]? = some "missing" ∧ r.get? "missing" = none := ⟨rfl, by decide +kernel⟩
  have hpassed : (r.execute ["fee", "missing", "fee"] doc).1.map PolicyResult.passed = [true, false, false] := by
    decide +kernel
  obtain ⟨happend, -, hnames, hundefined, -⟩ := execute_batches r ["fee", "missing", "fee"] ["late"] doc
  exact ⟨hmissing, happend, hnames, hpassed, (hundefined 1 "missing" hmissing.1 hmissing.2).1⟩

end Registry

end PolicyEngine
