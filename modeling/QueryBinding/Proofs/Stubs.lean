-- Documents that are written down. Their nodes are counted, and every node that
-- a query finds is a smaller one, so no run comes to the end of its budget.
import QueryBinding.Proofs.Nesting
import QueryBinding.Stub

namespace QueryBinding.Stub

/-! ## Nodes -/

namespace Node

mutual

/-- A node and the nodes below it. -/
def nodes : Node → List Node
  | mk text answers => mk text answers :: nodesOfAnswers answers

def nodesOfAnswers : List (String × Answer) → List Node
  | [] => []
  | (_, a) :: rest => nodesOfAnswer a ++ nodesOfAnswers rest

def nodesOfAnswer : Answer → List Node
  | .found results => nodesOfResults results
  | .refused _ => []
  | .stopped _ => []

def nodesOfResults : List Result → List Node
  | [] => []
  | r :: rest => nodesOfResult r ++ nodesOfResults rest

def nodesOfResult : Result → List Node
  | .node n => nodes n
  | .text _ => []
  | .other _ => []

end

/-! ## Counting -/

mutual

theorem length_nodes : ∀ n : Node, n.nodes.length = n.size
  | mk text answers => by
    rw [nodes, size, List.length_cons, length_nodesOfAnswers answers, Nat.add_comm]

theorem length_nodesOfAnswers : ∀ as : List (String × Answer),
    (nodesOfAnswers as).length = sizeOfAnswers as
  | [] => rfl
  | (_, a) :: rest => by
    rw [nodesOfAnswers, sizeOfAnswers, List.length_append, length_nodesOfAnswer a,
      length_nodesOfAnswers rest]

theorem length_nodesOfAnswer : ∀ a : Answer, (nodesOfAnswer a).length = sizeOfAnswer a
  | .found results => length_nodesOfResults results
  | .refused _ => rfl
  | .stopped _ => rfl

theorem length_nodesOfResults : ∀ rs : List Result, (nodesOfResults rs).length = sizeOfResults rs
  | [] => rfl
  | r :: rest => by
    rw [nodesOfResults, sizeOfResults, List.length_append, length_nodesOfResult r,
      length_nodesOfResults rest]

theorem length_nodesOfResult : ∀ r : Result, (nodesOfResult r).length = sizeOfResult r
  | .node n => length_nodes n
  | .text _ => rfl
  | .other _ => rfl

end

theorem mem_nodes_self (n : Node) : n ∈ n.nodes := by
  cases n
  exact List.mem_cons_self

/-! ## Nodes that are found -/

theorem mem_nodesOfResults {rs : List Result} {n : Node} (h : .node n ∈ rs) :
    n ∈ nodesOfResults rs := by
  induction rs with
  | nil => cases h
  | cons r rest ih =>
    rw [nodesOfResults, List.mem_append]
    rcases List.mem_cons.1 h with rfl | h
    · exact .inl (mem_nodes_self n)
    · exact .inr (ih h)

theorem mem_nodesOfAnswers {as : List (String × Answer)} {query : String}
    {rs : List Result} {n : Node} (h : as.lookup query = some (.found rs)) (hn : .node n ∈ rs) :
    n ∈ nodesOfAnswers as := by
  induction as with
  | nil => cases h
  | cons a rest ih =>
    obtain ⟨key, answer⟩ := a
    rw [nodesOfAnswers, List.mem_append]
    rw [List.lookup_cons] at h
    split at h
    · cases h
      exact .inl (mem_nodesOfResults hn)
    · exact .inr (ih h)

theorem size_le_sizeOfResults {rs : List Result} {n : Node} (h : .node n ∈ rs) :
    n.size ≤ sizeOfResults rs := by
  induction rs with
  | nil => cases h
  | cons r rest ih =>
    rw [sizeOfResults]
    rcases List.mem_cons.1 h with rfl | h
    · exact Nat.le_add_right _ _
    · exact (ih h).trans (Nat.le_add_left _ _)

/-- A node that a query finds is smaller than the one below which it is found. -/
theorem size_le_sizeOfAnswers {as : List (String × Answer)} {query : String} {rs : List Result}
    {n : Node} (h : as.lookup query = some (.found rs)) (hn : .node n ∈ rs) :
    n.size ≤ sizeOfAnswers as := by
  induction as with
  | nil => cases h
  | cons a rest ih =>
    obtain ⟨key, answer⟩ := a
    rw [sizeOfAnswers]
    rw [List.lookup_cons] at h
    split at h
    · cases h
      exact (size_le_sizeOfResults hn).trans (Nat.le_add_right _ _)
    · exact (ih h).trans (Nat.le_add_left _ _)

mutual

theorem nodes_subset : ∀ n m : Node, m ∈ n.nodes → ∀ k ∈ nodesOfAnswers m.answers, k ∈ n.nodes
  | mk text answers, m, hm, k, hk => by
    rw [nodes, List.mem_cons] at hm ⊢
    rcases hm with rfl | hm
    · exact .inr hk
    · exact .inr (nodesOfAnswers_subset answers m hm k hk)

theorem nodesOfAnswers_subset : ∀ (as : List (String × Answer)) (m : Node), m ∈ nodesOfAnswers as →
    ∀ k ∈ nodesOfAnswers m.answers, k ∈ nodesOfAnswers as
  | [], m, hm, k, hk => by cases hm
  | (_, a) :: rest, m, hm, k, hk => by
    rw [nodesOfAnswers, List.mem_append] at hm ⊢
    exact hm.imp (fun h => nodesOfAnswer_subset a m h k hk)
      fun h => nodesOfAnswers_subset rest m h k hk

theorem nodesOfAnswer_subset : ∀ (a : Answer) (m : Node), m ∈ nodesOfAnswer a →
    ∀ k ∈ nodesOfAnswers m.answers, k ∈ nodesOfAnswer a
  | .found results, m, hm, k, hk => nodesOfResults_subset results m hm k hk
  | .refused _, m, hm, k, hk => by cases hm
  | .stopped _, m, hm, k, hk => by cases hm

theorem nodesOfResults_subset : ∀ (rs : List Result) (m : Node), m ∈ nodesOfResults rs →
    ∀ k ∈ nodesOfAnswers m.answers, k ∈ nodesOfResults rs
  | [], m, hm, k, hk => by cases hm
  | r :: rest, m, hm, k, hk => by
    rw [nodesOfResults, List.mem_append] at hm ⊢
    exact hm.imp (fun h => nodesOfResult_subset r m h k hk)
      fun h => nodesOfResults_subset rest m h k hk

theorem nodesOfResult_subset : ∀ (r : Result) (m : Node), m ∈ nodesOfResult r →
    ∀ k ∈ nodesOfAnswers m.answers, k ∈ nodesOfResult r
  | .node n, m, hm, k, hk => nodes_subset n m hm k hk
  | .text _, m, hm, k, hk => by cases hm
  | .other _, m, hm, k, hk => by cases hm

end

end Node

/-! ## Documents -/

theorem exists_found_of_evaluate {root : Node} {query : String} {scope : Option Node}
    {ms : List (Match Node)} {n : Node} (h : evaluate root query scope = .ok ms)
    (hn : .node n ∈ ms) : ∃ rs, (scope.getD root).answers.lookup query = some (.found rs) ∧
      .node n ∈ rs := by
  unfold evaluate at h
  split at h
  · cases h
    cases hn
  · rename_i rs hlookup
    cases h
    obtain ⟨r, hr, heq⟩ := List.mem_map.1 hn
    have hnode : r = .node n := by
      cases r <;> cases heq
      rfl
    exact ⟨rs, hlookup, hnode ▸ hr⟩
  · cases h
  · cases h

/-- The nodes of a document that is written down are counted. -/
theorem counts_document (root : Node) : (document root).Counts root.nodes := by
  refine ⟨(Node.length_nodes root).le, fun query scope ms n hscope hms hn => ?_⟩
  have hat : scope.getD root ∈ root.nodes := by
    cases scope with
    | none => exact Node.mem_nodes_self root
    | some m => exact hscope m rfl
  obtain ⟨rs, hlookup, hr⟩ := exists_found_of_evaluate hms hn
  exact Node.nodes_subset root _ hat n (Node.mem_nodesOfAnswers hlookup hr)

theorem not_raises_endless (root : Node) : ¬ (document root).Raises .endless := by
  rintro (⟨query, scope, h⟩ | ⟨n, h⟩)
  · change evaluate root query scope = .error .endless at h
    unfold evaluate at h
    split at h <;> cases h
  · change nodeText n = .error .endless at h
    unfold nodeText at h
    split at h <;> cases h

/-- Structures nest in smaller and smaller nodes. -/
theorem size_lt_of_descends {family : Family} {root : Node} {policy : StringListPolicy}
    {p q : String × Option Node}
    (h : Relation.TransGen (Binder.Descends ⟨family, document root, policy⟩) p q) :
    (q.2.getD root).size < (p.2.getD root).size := by
  have hstep : ∀ p q : String × Option Node,
      Binder.Descends ⟨family, document root, policy⟩ p q →
      (q.2.getD root).size < (p.2.getD root).size := by
    rintro p q ⟨s, f, n, -, he, hq⟩
    obtain ⟨query, ms, -, hms, hn⟩ := he.found
    obtain ⟨rs, hlookup, hr⟩ := exists_found_of_evaluate hms hn
    rw [hq, Option.getD_some]
    have hle := Node.size_le_sizeOfAnswers hlookup hr
    revert hle
    cases p.2.getD root
    simp only [Node.size, Node.answers]
    omega
  induction h with
  | single h => exact hstep _ _ h
  | tail _ h ih => exact (hstep _ _ h).trans ih

/-- In a document that is written down no run spends its budget. -/
theorem no_run_nests_without_end {family : Family} (root : Node) (policy : StringListPolicy)
    {name : String} {s : Schema} (hs : (Registry.register family .empty name).result = .ok s)
    {w : World Node} (hw : Registry.Faithful family w.registry) {scope : Option Node}
    (hscope : ∀ n ∈ scope, n ∈ root.nodes) (presets : Binder.Bound) :
    ((Binder.materialize ⟨family, document root, policy⟩ (.model name) scope presets).run.run w).1 ≠
      .error .endless := by
  intro h
  rcases Binder.endless_of_materialize hs hw h with hraises | hendless
  · exact not_raises_endless root hraises
  · obtain ⟨q, -, hback⟩ := hendless root.nodes (counts_document root) hscope
    exact Nat.lt_irrefl _ (size_lt_of_descends hback)

end QueryBinding.Stub
