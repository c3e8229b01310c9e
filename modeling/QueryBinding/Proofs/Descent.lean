-- How structures nest: a field leads from the place where an instance is built
-- to the nodes that it matches. In a document with finitely many nodes a long
-- descent comes back to a model and a node that it has met before.
import QueryBinding.Materialize
import QueryBinding.Proofs.Registration

namespace QueryBinding

/-! ## Places -/

/-- The answers of a document stay among some nodes, which are no more than it says it has. -/
structure Document.Counts {ν : Type} (d : Document ν) (nodes : List ν) : Prop where
  length_le : nodes.length ≤ d.size
  closed : ∀ query scope ms n, (∀ m ∈ scope, m ∈ nodes) → d.evaluate query scope = .ok ms →
    .node n ∈ ms → n ∈ nodes

/-- A failure of the document itself. -/
def Document.Raises {ν : Type} (d : Document ν) (e : Failure) : Prop :=
  (∃ query scope, d.evaluate query scope = .error e) ∨ ∃ n, d.nodeText n = .error e

namespace Binder

variable {ν : Type} {b : Binder ν}

/-- A queried field leads into a nested structure: the node is one of its matches. -/
structure Enters (b : Binder ν) (s : Schema) (scope : Option ν) (f : FieldSpec) (inner : String)
    (n : ν) : Prop where
  mem : f ∈ s.fields
  queries : f.mode.queries = true
  shape : ∃ shape, f.shape = some shape ∧ shape.kind.nested = true ∧
    shape.target = some (.model inner)
  found : ∃ query ms, f.query = some query ∧ b.document.evaluate query scope = .ok ms ∧
    .node n ∈ ms

theorem Enters.nests {s : Schema} {scope : Option ν} {f : FieldSpec} {name inner : String} {n : ν}
    (h : b.Enters s scope f inner n) (hs : Schema.ofTarget b.family (.model name) = .ok s) :
    b.family.Nests name inner := by
  obtain ⟨shape, hshape, -, ht⟩ := h.shape
  exact ⟨s, hs, Registry.mem_nested.2 ⟨f, h.mem, by rw [FieldSpec.target?, hshape]; exact ht⟩⟩

/-- A model and a node to build an instance below, and those that a field of it leads to. -/
def Descends (b : Binder ν) (p q : String × Option ν) : Prop :=
  ∃ s f n, Schema.ofTarget b.family (.model p.1) = .ok s ∧ b.Enters s p.2 f q.1 n ∧ q.2 = some n

/-- Structures can nest for a number of steps. -/
def Descent (b : Binder ν) : Nat → String × Option ν → Prop
  | 0, _ => True
  | depth + 1, p => ∃ q, b.Descends p q ∧ b.Descent depth q

/-- A descent that is longer than the list of places it can pass through passes through one of them
twice. -/
theorem Descent.exists_return {depth : Nat} {p : String × Option ν}
    {places : List (String × Option ν)} (h : b.Descent depth p)
    (hlen : places.length + 2 ≤ depth)
    (hplaces : ∀ q q', Relation.TransGen b.Descends p q → b.Descends q q' → q ∈ places) :
    ∃ q, Relation.ReflTransGen b.Descends p q ∧ Relation.TransGen b.Descends q q := by
  induction depth generalizing p places with
  | zero => omega
  | succ depth ih =>
    obtain ⟨q, hpq, hdeep⟩ := h
    cases depth with
    | zero => omega
    | succ depth =>
      obtain ⟨q', hqq', -⟩ := id hdeep
      by_cases hq : Relation.TransGen b.Descends q q
      · exact ⟨q, .single hpq, hq⟩
      · -- no way leads back to this place, so the rest of the descent does without it
        obtain ⟨before, after, rfl⟩ := List.append_of_mem (hplaces q q' (.single hpq) hqq')
        have hrest : ∀ x x', Relation.TransGen b.Descends q x → b.Descends x x' →
            x ∈ before ++ after := by
          intro x x' hx hxx'
          have hne : x ≠ q := fun h => hq (h ▸ hx)
          have hmem := hplaces x x' (.head hpq hx) hxx'
          simpa [hne] using hmem
        have hshort : (before ++ after).length + 2 ≤ depth + 1 := by
          simp only [List.length_append, List.length_cons] at hlen ⊢
          omega
        obtain ⟨x, hx, hback⟩ := ih hdeep hshort hrest
        exact ⟨x, .head hpq hx, hback⟩

theorem mem_family_of_descends {p q : String × Option ν} (h : b.Descends p q) :
    p.1 ∈ b.family.map (·.name) := by
  obtain ⟨s, f, n, hs, -, -⟩ := h
  obtain ⟨m, hm, -⟩ := Schema.ofTarget_eq_ok hs
  exact List.mem_map.2 ⟨m, Family.mem_of_model? hm, Family.name_of_model? hm⟩

/-- Below a node of the document a descent only meets nodes of the document. -/
theorem mem_nodes_of_descends {nodes : List ν} (hd : b.document.Counts nodes)
    {p q : String × Option ν} (hp : ∀ n ∈ p.2, n ∈ nodes)
    (h : Relation.TransGen b.Descends p q) : ∃ n ∈ nodes, q.2 = some n := by
  have hstep : ∀ {p q : String × Option ν}, (∀ n ∈ p.2, n ∈ nodes) → b.Descends p q →
      ∃ n ∈ nodes, q.2 = some n := by
    rintro p q hp ⟨s, f, n, -, he, hq⟩
    obtain ⟨query, ms, -, hms, hn⟩ := he.found
    exact ⟨n, hd.closed query p.2 ms n hp hms hn, hq⟩
  induction h with
  | single h => exact hstep hp h
  | tail _ h ih =>
    obtain ⟨n, hn, hq⟩ := ih
    refine hstep (fun m hm => ?_) h
    rw [hq, Option.mem_some_iff] at hm
    exact hm ▸ hn

/-- Structures nest without end: in a document whose nodes are counted, a model is met again below
the node where it was met before. -/
def Endless (b : Binder ν) (p : String × Option ν) : Prop :=
  ∀ nodes, b.document.Counts nodes → (∀ n ∈ p.2, n ∈ nodes) →
    ∃ q, Relation.ReflTransGen b.Descends p q ∧ Relation.TransGen b.Descends q q

/-- A descent as deep as the budget of a run has no end. -/
theorem endless_of_descent {p : String × Option ν} (h : b.Descent b.depth p) : b.Endless p := by
  intro nodes hd hp
  let places := (b.family.map (·.name)) ×ˢ nodes.map some
  have hlen : places.length + 2 ≤ b.depth := by
    have hle : b.family.length * nodes.length ≤ b.family.length * b.document.size :=
      Nat.mul_le_mul_left _ hd.length_le
    have hlen : places.length = b.family.length * nodes.length := by
      rw [List.length_product, List.length_map, List.length_map]
    rw [hlen, depth, Nat.add_mul, Nat.mul_add]
    omega
  -- a place that is left belongs to a model of the family, and a place that is entered to a node
  refine h.exists_return hlen fun q q' hq hqq' => ?_
  obtain ⟨n, hn, hsome⟩ := mem_nodes_of_descends hd hp hq
  exact List.mem_product.2 ⟨mem_family_of_descends hqq', hsome ▸ List.mem_map_of_mem hn⟩

end Binder

end QueryBinding
