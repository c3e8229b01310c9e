-- Documents whose nodes are a tree. Below a node only its strict descendants are
-- found, so structures nest no deeper than the tree is high, whatever models lead
-- to one another, and a budget of that size is as good as any larger one.
import QueryBinding.Proofs.Nesting

namespace QueryBinding

/-- The nodes of a document as a tree. -/
inductive Outline (ν : Type) where
  | node (label : ν) (branches : List (Outline ν))

namespace Outline

variable {ν : Type} {t p q : Outline ν} {ts : List (Outline ν)} {n m : ν}

def label : Outline ν → ν
  | node n _ => n

def branches : Outline ν → List (Outline ν)
  | node _ ts => ts

mutual

/-- The nodes in document order. -/
def nodes : Outline ν → List ν
  | node n ts => n :: nodesAll ts

def nodesAll : List (Outline ν) → List ν
  | [] => []
  | t :: ts => nodes t ++ nodesAll ts

end

mutual

/-- How many steps lead down from the root to the farthest node. -/
def height : Outline ν → Nat
  | node _ ts => heightAll ts

/-- The same, with the step that leads to the root of each tree. -/
def heightAll : List (Outline ν) → Nat
  | [] => 0
  | t :: ts => max (height t + 1) (heightAll ts)

end

/-! ## Nodes and heights -/

theorem nodesAll_eq_flatMap (ts : List (Outline ν)) : nodesAll ts = ts.flatMap nodes := by
  induction ts with
  | nil => rfl
  | cons t ts ih => rw [nodesAll, ih, List.flatMap_cons]

theorem mem_nodesAll : n ∈ nodesAll ts ↔ ∃ t ∈ ts, n ∈ t.nodes := by
  rw [nodesAll_eq_flatMap, List.mem_flatMap]

theorem height_lt_heightAll (h : t ∈ ts) : t.height < heightAll ts := by
  induction ts with
  | nil => cases h
  | cons t' ts ih =>
    rw [heightAll]
    rcases List.mem_cons.1 h with rfl | h
    · exact lt_of_lt_of_le (Nat.lt_succ_self _) (Nat.le_max_left _ _)
    · exact lt_of_lt_of_le (ih h) (Nat.le_max_right _ _)

mutual

/-- The way to the farthest node passes through a new node with every step. -/
theorem height_lt_length : ∀ t : Outline ν, t.height < t.nodes.length
  | node n ts => by
    rw [height, nodes, List.length_cons]
    exact Nat.lt_succ_of_le (heightAll_le_length ts)

theorem heightAll_le_length : ∀ ts : List (Outline ν), heightAll ts ≤ (nodesAll ts).length
  | [] => Nat.le_refl _
  | t :: ts => by
    have ht := height_lt_length t
    have hts := heightAll_le_length ts
    rw [heightAll, nodesAll, List.length_append]
    omega

end

/-! ## Parts -/

/-- A tree with everything below one of the nodes of another. -/
inductive Part : Outline ν → Outline ν → Prop
  | whole (t : Outline ν) : Part t t
  | branch {n : ν} {ts : List (Outline ν)} {t p : Outline ν} (ht : t ∈ ts) (h : Part p t) :
      Part p (node n ts)

theorem Part.trans (hq : Part q p) (hp : Part p t) : Part q t := by
  induction hp with
  | whole t => exact hq
  | branch ht _ ih => exact .branch ht (ih hq)

theorem Part.height_le (h : Part p t) : p.height ≤ t.height := by
  induction h with
  | whole t => exact Nat.le_refl _
  | branch ht _ ih => exact ih.trans (height_lt_heightAll ht).le

theorem Part.label_mem (h : Part p t) : p.label ∈ t.nodes := by
  induction h with
  | whole t =>
    cases t
    exact List.mem_cons_self
  | branch ht _ ih => exact List.mem_cons_of_mem _ (mem_nodesAll.2 ⟨_, ht, ih⟩)

mutual

/-- Every node has its part of the tree. -/
theorem exists_part : ∀ (t : Outline ν) (n : ν), n ∈ t.nodes → ∃ p, Part p t ∧ p.label = n
  | node n' ts, n, h => by
    rcases List.mem_cons.1 h with rfl | h
    · exact ⟨_, .whole _, rfl⟩
    · obtain ⟨t, ht, p, hp, hn⟩ := exists_part_of_mem_nodesAll ts n h
      exact ⟨p, .branch ht hp, hn⟩

theorem exists_part_of_mem_nodesAll : ∀ (ts : List (Outline ν)) (n : ν), n ∈ nodesAll ts →
    ∃ t ∈ ts, ∃ p, Part p t ∧ p.label = n
  | [], n, h => by cases h
  | t :: ts, n, h => by
    rcases List.mem_append.1 h with h | h
    · exact ⟨t, List.mem_cons_self, exists_part t n h⟩
    · obtain ⟨t', ht', hp⟩ := exists_part_of_mem_nodesAll ts n h
      exact ⟨t', List.mem_cons_of_mem _ ht', hp⟩

end

/-- Where no node comes twice, a node has one part of the tree only. -/
theorem Part.eq_of_label_eq (hp : Part p t) (hq : Part q t) (ht : t.nodes.Nodup)
    (hlabel : p.label = q.label) : p = q := by
  induction hp with
  | whole t =>
    cases hq with
    | whole => rfl
    | @branch n _ _ _ hmem h =>
      have hn : q.label = n := hlabel.symm
      exact absurd (mem_nodesAll.2 ⟨_, hmem, hn ▸ h.label_mem⟩) (List.nodup_cons.1 ht).1
  | @branch n ts t p hmem h ih =>
    obtain ⟨hroot, hbelow⟩ := List.nodup_cons.1 ht
    cases hq with
    | whole =>
      have hn : p.label = n := hlabel
      exact absurd (mem_nodesAll.2 ⟨t, hmem, hn ▸ h.label_mem⟩) hroot
    | @branch _ _ t' _ hmem' h' =>
      rw [nodesAll_eq_flatMap, List.nodup_flatMap] at hbelow
      have hsame : t = t' := by
        by_contra hne
        -- two branches have no node in common
        have : Std.Symm (Function.onFun List.Disjoint (nodes (ν := ν))) := ⟨fun _ _ h => h.symm⟩
        exact hbelow.2.forall hmem hmem' hne h.label_mem (hlabel ▸ h'.label_mem)
      subst hsame
      exact ih h' (hbelow.1 t hmem) hlabel

/-- A node is a strict descendant of another. -/
def Below (t : Outline ν) (n m : ν) : Prop :=
  ∃ p, Part p t ∧ p.label = n ∧ m ∈ nodesAll p.branches

/-- The part of a strict descendant is less high. -/
theorem Below.exists_part_lt (h : t.Below n m) (ht : t.nodes.Nodup) (hp : Part p t)
    (hn : p.label = n) : ∃ q, Part q t ∧ q.label = m ∧ q.height < p.height := by
  obtain ⟨p', hp', hn', hm⟩ := h
  obtain rfl := hp.eq_of_label_eq hp' ht (hn.trans hn'.symm)
  obtain ⟨c, hc, q, hq, hlabel⟩ := exists_part_of_mem_nodesAll _ m hm
  cases p with
  | node n' ts =>
    exact ⟨q, hq.trans (.trans (.branch hc (.whole c)) hp), hlabel,
      lt_of_le_of_lt hq.height_le (height_lt_heightAll hc)⟩

/-- There are no more than so many levels of nodes below a scope. The whole document has a level for
its root, too. -/
def Levels (t : Outline ν) : Option ν → Nat → Prop
  | none, k => t.height < k
  | some n, k => ∃ p, Part p t ∧ p.label = n ∧ p.height ≤ k

theorem levels_of_height_lt {scope : Option ν} {k : Nat} (hscope : ∀ n ∈ scope, n ∈ t.nodes)
    (hk : t.height < k) : t.Levels scope k := by
  cases scope with
  | none => exact hk
  | some n =>
    obtain ⟨p, hp, hn⟩ := exists_part t n (hscope n rfl)
    exact ⟨p, hp, hn, hp.height_le.trans hk.le⟩

end Outline

/-- The nodes of a document are those of a tree, each once, and no more than it says it has. What a
query finds below a node are strict descendants of that node. -/
structure Document.HasOutline {ν : Type} (d : Document ν) (t : Outline ν) : Prop where
  distinct : t.nodes.Nodup
  length_le : t.nodes.length ≤ d.size
  inside : ∀ query ms n, d.evaluate query none = .ok ms → .node n ∈ ms → n ∈ t.nodes
  below : ∀ query n ms m, n ∈ t.nodes → d.evaluate query (some n) = .ok ms → .node m ∈ ms →
    t.Below n m

/-- Below a node that was found there is a level less. -/
theorem Document.HasOutline.levels_of_found {ν : Type} {d : Document ν} {t : Outline ν}
    (hd : d.HasOutline t) {scope : Option ν} {k : Nat} (hk : t.Levels scope k) {query : String}
    {ms : List (Match ν)} {n : ν} (hms : d.evaluate query scope = .ok ms) (hn : .node n ∈ ms) :
    ∃ k', k = k' + 1 ∧ t.Levels (some n) k' := by
  cases scope with
  | none =>
    obtain ⟨k, rfl⟩ := Nat.exists_eq_add_of_lt hk
    obtain ⟨p, hp, hlabel⟩ := Outline.exists_part t n (hd.inside query ms n hms hn)
    exact ⟨t.height + k, rfl, p, hp, hlabel, hp.height_le.trans (Nat.le_add_right _ _)⟩
  | some m =>
    obtain ⟨p, hp, hlabel, hheight⟩ := hk
    have hbelow := hd.below query m ms n (hlabel ▸ hp.label_mem) hms hn
    obtain ⟨q, hq, hn', hlt⟩ := hbelow.exists_part_lt hd.distinct hp hlabel
    obtain ⟨k, rfl⟩ := Nat.exists_eq_add_of_lt (lt_of_lt_of_le hlt hheight)
    exact ⟨q.height + k, rfl, q, hq, hn', Nat.le_add_right _ _⟩

/-! ## Runs that ask for nothing else -/

theorem Run.ofExcept_bind_congr {ν α β : Type} {x : Except Failure α} {f g : α → Run ν β}
    (h : ∀ a, x = .ok a → f a = g a) : Run.ofExcept x >>= f = Run.ofExcept x >>= g := by
  cases x with
  | error e => rfl
  | ok a => exact h a rfl

namespace Coercion

variable {ν : Type} {nested nested' : Target → ν → Run ν Value}

theorem requireNode_bind_congr {α : Type} {m : Match ν} {f g : ν → Run ν α}
    (h : ∀ n, m = .node n → f n = g n) :
    Run.ofExcept (requireNode m) >>= f = Run.ofExcept (requireNode m) >>= g :=
  Run.ofExcept_bind_congr fun n hn => h n (eq_node_of_requireNode hn)

theorem nestedList_congr {t : Target} {ms : List (Match ν)}
    (h : ∀ n, .node n ∈ ms → nested t n = nested' t n) :
    nestedList nested t ms = nestedList nested' t ms := by
  induction ms with
  | nil => rfl
  | cons m ms ih =>
    rw [nestedList, nestedList, ih fun n hn => h n (List.mem_cons_of_mem _ hn)]
    refine requireNode_bind_congr fun n hn => ?_
    rw [h n (hn ▸ List.mem_cons_self)]

/-- Coercion asks for no structures but those at the matched nodes. -/
theorem coerce_congr (d : Document ν) (policy : StringListPolicy) (f : FieldSpec)
    {ms : List (Match ν)} (h : ∀ t n, .node n ∈ ms → nested t n = nested' t n) :
    coerce d nested policy f ms = coerce d nested' policy f ms := by
  unfold coerce
  rcases f.shape with _ | ⟨kind, target⟩
  · rfl
  · cases kind with
    | scalar => cases ms <;> rfl
    | optionalScalar => cases ms <;> rfl
    | stringList => rfl
    | nestedList =>
      dsimp only
      rw [nestedList_congr (h _)]
    | nestedOne =>
      cases ms with
      | nil => rfl
      | cons m ms => exact requireNode_bind_congr fun n hn => h _ n (hn ▸ List.mem_cons_self)

end Coercion

namespace Binder

open Run

variable {ν : Type} {b : Binder ν} {nested nested' : Target → ν → Run ν Value}

theorem bindOne_congr {scope : Option ν} {f : FieldSpec}
    (h : ∀ query ms t n, b.document.evaluate query scope = .ok ms → .node n ∈ ms →
      nested t n = nested' t n) (presets : Bound) :
    b.bindOne nested scope presets f = b.bindOne nested' scope presets f := by
  have hfield : b.bindField nested scope f = b.bindField nested' scope f := by
    unfold bindField
    refine bind_congr fun _ => Run.ofExcept_bind_congr fun ms hms => ?_
    rw [Coercion.coerce_congr b.document b.policy f fun t n => h _ ms t n hms]
  unfold bindOne
  rw [hfield]

theorem bindAll_congr {scope : Option ν}
    (h : ∀ query ms t n, b.document.evaluate query scope = .ok ms → .node n ∈ ms →
      nested t n = nested' t n) (presets : Bound) (fs : List FieldSpec) :
    b.bindAll nested scope presets fs = b.bindAll nested' scope presets fs := by
  induction fs with
  | nil => rfl
  | cons f fs ih => rw [bindAll, bindAll, bindOne_congr h, ih]

/-! ## Budgets -/

/-- A descent is no longer than there are levels. -/
theorem Descent.le_of_levels {tree : Outline ν} (hd : b.document.HasOutline tree) {depth k : Nat}
    {p : String × Option ν} (h : b.Descent depth p) (hk : tree.Levels p.2 k) : depth ≤ k := by
  induction depth generalizing p k with
  | zero => exact Nat.zero_le k
  | succ depth ih =>
    obtain ⟨q, ⟨s, f, n, -, he, hq⟩, hrest⟩ := h
    obtain ⟨query, ms, -, hms, hn⟩ := he.found
    obtain ⟨k, rfl, hlevels⟩ := hd.levels_of_found hk hms hn
    exact Nat.succ_le_succ (ih hrest (hq ▸ hlevels))

/-- A budget for all levels is as good as any larger one. -/
theorem structureWithin_eq_of_levels {tree : Outline ν} (hd : b.document.HasOutline tree)
    {k k' : Nat} (hle : k ≤ k') (s : Schema) {scope : Option ν} (hk : tree.Levels scope k)
    (presets : Bound) :
    b.structureWithin (k + 1) s scope presets = b.structureWithin (k' + 1) s scope presets := by
  induction k generalizing k' s scope presets with
  | zero =>
    refine congrArg (· >>= _) (bindAll_congr (fun query ms t n hms hn => ?_) presets s.fields)
    obtain ⟨k, hzero, -⟩ := hd.levels_of_found hk hms hn
    cases hzero
  | succ k ih =>
    obtain ⟨k', rfl⟩ := Nat.exists_eq_add_of_lt hle
    refine congrArg (· >>= _) (bindAll_congr (fun query ms t n hms hn => ?_) presets s.fields)
    obtain ⟨_, hsucc, hk⟩ := hd.levels_of_found hk hms hn
    cases hsucc
    exact congrArg _ (funext fun inner => ih (by omega) inner hk [])

theorem keeps_lookup_ends (family : Family) (t : Target) :
    Keeps (fun _ => True) (lookup family t : Run ν Schema) (fun _ => True) (· ≠ .endless) := by
  have hkey : Keeps (fun _ => True) (Run.ofFault (Registry.checkKey t) : Run ν Unit)
      (fun _ => True) (· ≠ .endless) := by
    rcases Registry.checkKey t with e | u
    · exact .throw Failure.noConfusion
    · exact .pure trivial
  cases t with
  | model name =>
    intro w _
    obtain ⟨log, hlog⟩ := run_lookup family name w
    rw [hlog]
    rcases (w.registry.register family name).result with e | s
    · exact ⟨trivial, Failure.noConfusion⟩
    · exact ⟨trivial, trivial⟩
  | type a => exact .bind hkey fun _ _ => .throw Failure.noConfusion
  | value v => exact .bind hkey fun _ _ => .throw Failure.noConfusion

theorem assemble_ne_endless (family : Family) (s : Schema) (values : Bound) :
    assemble family s values ≠ .error .endless := by
  unfold assemble
  split
  · exact fun h => by cases h
  · dsimp only
    split
    · exact fun h => by cases h
    · rename_i issues _
      cases issues <;> exact fun h => by cases h

/-- Binding a field asks for more nesting only where the document does, or what is nested. -/
theorem explains_ends (b : Binder ν) (scope : Option ν) (f : FieldSpec) :
    b.Explains scope f fun e => e.within f.identifier = .endless → b.document.Raises .endless where
  shapeless _ := Failure.noConfusion
  asked _ he hend := .inl ⟨_, scope, Failure.eq_endless_of_within hend ▸ he⟩
  converted _ := Failure.noConfusion
  unread n _ he _ hend := .inr ⟨n, Failure.eq_endless_of_within hend ▸ he⟩
  missing _ _ _ := Failure.noConfusion

/-- A budget for all levels is not spent. -/
theorem keeps_structureWithin_of_levels {tree : Outline ν} (hd : b.document.HasOutline tree)
    {k : Nat} (s : Schema) {scope : Option ν} (hk : tree.Levels scope k) (presets : Bound) :
    Keeps (fun _ => True) (b.structureWithin (k + 1) s scope presets) (fun _ => True)
      fun e => e = .endless → b.document.Raises .endless := by
  induction k using Nat.strongRecOn generalizing s scope presets with
  | ind k ih =>
    refine .bind (keeps_bindAll fun f _ => keeps_bindOne fun _ =>
      keeps_bindField (b.explains_ends scope f) fun shape ms n _ _ hms hn => ?_)
      fun values _ => .ofExcept ?_
    · obtain ⟨k, rfl, hlevels⟩ := hd.levels_of_found hk hms hn
      refine .bind ((keeps_lookup_ends b.family _).mono (fun _ h => h) fun e hne hend => ?_)
        fun inner _ => ?_
      · exact absurd (Failure.eq_endless_of_within hend) hne
      · exact (ih k (Nat.lt_succ_self k) inner hlevels []).mono (fun _ h => h)
          fun e he hend => he (Failure.eq_endless_of_within hend)
    · rcases hx : assemble b.family s values with e | v
      · exact fun hend => absurd (hend ▸ hx) (assemble_ne_endless b.family s values)
      · trivial

/-! ## Whole runs -/

/-- A whole run in which structures may nest only so many levels deep. -/
def materializeTo (b : Binder ν) (levels : Nat) (t : Target) (scope : Option ν) (presets : Bound) :
    Run ν Value := do
  let s ← lookup b.family t
  Run.ofExcept (checkPresets s presets)
  logging [("target", .text s.target)]
    (Run.ensuring (b.structureWithin (levels + 1) s scope presets) report)

/-- The budget of a whole run is large enough for the levels of a tree. -/
theorem height_lt_depth {tree : Outline ν} (hd : b.document.HasOutline tree) :
    tree.height + 2 ≤ b.depth := by
  have hlt := tree.height_lt_length
  have hle := hd.length_le
  unfold depth
  have hpos : b.document.size + 1 ≤ (b.family.length + 1) * (b.document.size + 1) :=
    Nat.le_mul_of_pos_left _ (Nat.succ_pos _)
  omega

/-- Recursion ends with the tree. In a document whose nodes are a tree, where a query finds below a
node only strict descendants of it, structures nest no deeper than one level more than the tree is
high, whichever models lead to one another; a run with a budget for so many levels, or for more, is
the same as a run with any other such budget; and no run nests without end, unless the document
itself says so. -/
theorem recursion_ends_with_the_tree (b : Binder ν) {tree : Outline ν}
    (hd : b.document.HasOutline tree) {scope : Option ν} (hscope : ∀ n ∈ scope, n ∈ tree.nodes) :
    (∀ name depth, b.Descent depth (name, scope) → depth ≤ tree.height + 1) ∧
    ∀ t presets,
      (∀ levels, tree.height + 1 ≤ levels →
        b.materializeTo levels t scope presets = b.materialize t scope presets) ∧
      ∀ w, ((b.materialize t scope presets).run.run w).1 = .error .endless →
        b.document.Raises .endless := by
  have hlevels : tree.Levels scope (tree.height + 1) :=
    Outline.levels_of_height_lt hscope (Nat.lt_succ_self _)
  obtain ⟨spare, hdepth⟩ := Nat.exists_eq_add_of_lt (height_lt_depth hd)
  have hbudget : ∀ levels, tree.height + 1 ≤ levels → ∀ s presets,
      b.structureWithin (levels + 1) s scope presets =
        b.structureWithin b.depth s scope presets := by
    intro levels hle s presets
    rw [← structureWithin_eq_of_levels hd hle s hlevels, hdepth]
    exact structureWithin_eq_of_levels hd (Nat.le_add_right _ _) s hlevels presets
  refine ⟨fun name depth h => h.le_of_levels hd hlevels, fun t presets => ⟨fun levels hle => ?_,
    fun w hend => ?_⟩⟩
  · simp only [materializeTo, materialize, hbudget levels hle]
  · have hkeeps : Keeps (fun _ => True) (b.materialize t scope presets) (fun _ => True)
        fun e => e = .endless → b.document.Raises .endless := by
      refine .bind
        ((keeps_lookup_ends b.family t).mono (fun _ h => h) fun e hne he => absurd he hne)
        fun s _ => .bind (P := fun _ => True) (.ofExcept ?_)
          fun _ _ => keeps_logging (.ensuring ?_ registry_report)
      · rcases hp : checkPresets s presets with e | u
        · obtain ⟨fault, rfl⟩ := fault_of_checkPresets hp
          exact Failure.noConfusion
        · trivial
      · rw [← hbudget _ (Nat.le_refl _)]
        exact keeps_structureWithin_of_levels hd s hlevels presets
    have hends := (hkeeps w trivial).2
    rw [hend] at hends
    exact hends rfl

/-- A remark may have an answer and further remarks, all of which are remarks. -/
def remarks : Family :=
  [.plain "Remark"
    [.bound "answer" (.union false [.model "Remark", .nothing]) (.scrape "answer" none none) none,
      .bound "remarks" (.list (.model "Remark")) (.scrape "remark" none none) none]]

/-- A remark with two remarks, of which the first has an answer. -/
def remarkOutline : Outline Nat := .node 0 [.node 1 [.node 2 []], .node 3 []]

def remarkPage : Document Nat :=
  ⟨fun query scope =>
      match query, scope with
      | "remark", none => .ok [.node 0]
      | "remark", some 0 => .ok [.node 1, .node 3]
      | "answer", some 1 => .ok [.node 2]
      | _, _ => .ok [],
    fun _ => .ok "", 4⟩

theorem remarkPage_hasOutline : remarkPage.HasOutline remarkOutline := by
  refine ⟨by decide, Nat.le_refl _, fun query ms n hms hn => ?_, fun query n ms m _ hms hm => ?_⟩
  · simp only [remarkPage] at hms
    split at hms <;> cases hms <;> simp_all [remarkOutline, Outline.nodes, Outline.nodesAll]
  · simp only [remarkPage] at hms
    split at hms
    · rename_i h
      cases h
    · rename_i h
      cases h
      cases hms
      obtain rfl | rfl : m = 1 ∨ m = 3 := by simpa using hm
      · exact ⟨remarkOutline, .whole _, rfl, by decide⟩
      · exact ⟨remarkOutline, .whole _, rfl, by decide⟩
    · rename_i h
      cases h
      cases hms
      obtain rfl : m = 2 := by simpa using hm
      exact ⟨.node 1 [.node 2 []], .branch List.mem_cons_self (.whole _), rfl, by decide⟩
    · cases hms
      cases hm

def remarkBinder : Binder Nat := ⟨remarks, remarkPage, .error⟩

def remarkValue (answer : Value) (below : List Value) : Value :=
  .record "Remark" [("answer", answer), ("remarks", .list below)]

/-- Three levels of remarks are found, and a budget for two of them is spent. -/
theorem remarks_end_with_the_page :
    (∀ depth, remarkBinder.Descent depth ("Remark", none) → depth ≤ 3) ∧
    ((remarkBinder.materialize (.model "Remark") none []).run.run
      ⟨.empty, [], .initial .standard, []⟩).1 =
        .ok (remarkValue .none [remarkValue .none
          [remarkValue (remarkValue .none []) [], remarkValue .none []]]) ∧
    ((remarkBinder.materializeTo 2 (.model "Remark") none []).run.run
      ⟨.empty, [], .initial .standard, []⟩).1 = .error .endless := by
  have hscope : ∀ n ∈ (none : Option Nat), n ∈ remarkOutline.nodes := by simp
  obtain ⟨hdepth, hruns⟩ := remarkBinder.recursion_ends_with_the_tree remarkPage_hasOutline hscope
  refine ⟨hdepth "Remark", ?_, ?_⟩
  · rw [← (hruns _ _).1 3 (Nat.le_refl _)]
    cbv
  · cbv

end Binder

end QueryBinding
