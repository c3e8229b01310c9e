-- What a registration leaves alone. New entries come behind those that are there,
-- and what is taken back when a registration fails are entries of its own, which
-- are always there to be taken. So every entry stays in its place, whatever the
-- registry holds.
import QueryBinding.Proofs.Preorder

namespace QueryBinding

namespace Registry

variable {family : Family} {r r' : Registry} {names : List String} {name : String} {s : Schema}
  {result : Except SchemaFailure Unit}

/-! ## Entries in their places -/

/-- A model that is not registered is entered behind all others. -/
theorem entries_insert (h : r.get? name = none) (s : Schema) :
    (r.insert name s).entries = r.entries ++ [(name, s)] :=
  Keyed.put_of_lookup_eq_none h s

/-- Taking back a model that was not registered at first leaves what was there at first. -/
theorem isPrefix_erase (h : r.get? name = none) (hfirst : r.entries <+: r'.entries) :
    r.entries <+: (r'.erase name).entries := by
  obtain ⟨more, hmore⟩ := hfirst
  refine ⟨Keyed.remove name more, ?_⟩
  calc r.entries ++ Keyed.remove name more
      = Keyed.remove name r.entries ++ Keyed.remove name more := by
        rw [Keyed.remove_of_lookup_eq_none h]
    _ = Keyed.remove name r'.entries := by rw [← Keyed.remove_append, hmore]

/-- The entries that are there before a walk are the first ones after it, whether it fails or
not. -/
theorem Registers.isPrefix (h : Registers family r names result r') : r.entries <+: r'.entries := by
  have hentered : ∀ {r : Registry} {name : String} (s : Schema), r.get? name = none →
      r.entries <+: (r.insert name s).entries := by
    intro r name s hget
    rw [entries_insert hget]
    exact List.prefix_append _ _
  induction h with
  | done => exact List.prefix_rfl
  | known _ _ ih => exact ih
  | refused => exact List.prefix_rfl
  | undone _ hget _ _ ih => exact isPrefix_erase hget ((hentered _ hget).trans ih)
  | entered hget _ _ _ ihi ihr => exact (hentered _ hget).trans (ihi.trans ihr)

/-- A model whose registration fails is not registered afterwards. -/
theorem get?_of_register_error {e : SchemaFailure}
    (h : (register family r name).result = .error e) :
    (register family r name).registry.get? name = none := by
  have hwalk := registers_register family r name
  rw [h] at hwalk
  generalize (register family r name).registry = after at hwalk ⊢
  cases hwalk with
  | known _ hrest => cases hrest
  | refused _ hget _ => exact hget
  | undone _ _ _ _ => exact get?_erase_self _ _
  | entered _ _ _ hrest => cases hrest

/-! ## Entries that must be there -/

/-- Takes an entry back, or tells the name of one that is not there. -/
def withdraw (name : String) (r : Registry) : Except String Registry :=
  if r.contains name then .ok (r.erase name) else .error name

/-- Registers names one after the other, unless an entry is missing that is to be taken back. -/
def registerEachStrictly (register : Registry → String → Except String (Outcome Schema)) :
    Registry → List String → Except String (Outcome Unit)
  | r, [] => .ok ⟨.ok (), r, []⟩
  | r, name :: rest => do
    let first ← register r name
    match first.result with
    | .error e => return ⟨.error e, first.registry, first.finished⟩
    | .ok _ =>
      let others ← registerEachStrictly register first.registry rest
      return ⟨others.result, others.registry, first.finished ++ others.finished⟩

/-- Registers a model to a depth of nesting, unless an entry is missing that is to be taken back. -/
def registerStrictlyWithin (family : Family) :
    Nat → Registry → String → Except String (Outcome Schema)
  | 0, r, name => .ok ⟨.error ⟨name, .notModel, none⟩, r, []⟩
  | depth + 1, r, name =>
    match r.get? name with
    | some s => .ok ⟨.ok s, r, []⟩
    | none =>
      match Schema.ofTarget family (.model name) with
      | .error e => .ok ⟨.error e, r, []⟩
      | .ok s => do
        let rest ← registerEachStrictly (registerStrictlyWithin family depth) (r.insert name s)
          (nested s)
        match rest.result with
        | .error e =>
          let r ← withdraw name rest.registry
          return ⟨.error e, r, rest.finished⟩
        | .ok _ => return ⟨.ok s, rest.registry, rest.finished ++ [s]⟩

/-- Registers a model as `register` does, but minds whether what it takes back is there. -/
def registerStrictly (family : Family) (r : Registry) (name : String) :
    Except String (Outcome Schema) :=
  registerStrictlyWithin family (family.length + 1) r name

theorem withdraw_eq_ok (h : r.get? name = some s) : withdraw name r = .ok (r.erase name) :=
  if_pos (contains_iff.2 ⟨s, h⟩)

theorem registerEachStrictly_eq {depth : Nat} (names : List String)
    (heq : ∀ r name, unregistered family r < depth →
      registerStrictlyWithin family depth r name = .ok (registerWithin family depth r name))
    (h : unregistered family r < depth) :
    registerEachStrictly (registerStrictlyWithin family depth) r names =
      .ok (registerEach (registerWithin family depth) r names) := by
  induction names generalizing r with
  | nil => rfl
  | cons name rest ih =>
    simp only [registerEachStrictly, registerEach, heq r name h, bind, Except.bind]
    rcases hr : (registerWithin family depth r name).result with e | s
    · rfl
    · have hle := unregistered_registerWithin_le h name
      have hrest : registerEachStrictly (registerStrictlyWithin family depth)
          (registerWithin family depth r name).registry rest = _ := ih (by omega)
      simp only [hrest]
      rfl

/-- With a budget above the number of models that are left, no entry is ever missing: a model was
entered before what it nests, and nothing that is registered inside takes its entry away. -/
theorem registerStrictlyWithin_eq {depth : Nat} (h : unregistered family r < depth) :
    registerStrictlyWithin family depth r name = .ok (registerWithin family depth r name) := by
  induction depth generalizing r name with
  | zero => omega
  | succ depth ih =>
    rcases hget : r.get? name with _ | t
    · rcases hs : Schema.ofTarget family (.model name) with e | s
      · simp only [registerStrictlyWithin, registerWithin, hget, hs]
      · have hlt := unregistered_insert_lt hget hs
        have hinner : unregistered family (r.insert name s) < depth := by omega
        have hwalk := registers_registerEach depth (r.insert name s) (nested s) hinner
        have hthere := hwalk.get?_of_get? (get?_insert_self name s r)
        have hrest := registerEachStrictly_eq (nested s) (fun r name => ih) hinner
        simp only [registerStrictlyWithin, registerWithin, hget, hs, hrest, bind, Except.bind]
        rcases (registerEach (registerWithin family depth) (r.insert name s) (nested s)).result
          with e | u
        · simp only [withdraw_eq_ok hthere]
          rfl
        · rfl
    · simp only [registerStrictlyWithin, registerWithin, hget]

/-! ## The law of failed registrations -/

/-- A registration leaves every entry in its place with its schema, whatever the registry holds. If
it fails, it fails as a refused model does that the model leads to, and the model is not registered
afterwards. What is taken back on the way is always there. -/
theorem registering_leaves_every_entry_in_place (family : Family) (r : Registry) (name : String) :
    registerStrictly family r name = .ok (register family r name) ∧
    r.entries <+: (register family r name).registry.entries ∧
    (∀ other s, r.get? other = some s → (register family r name).registry.get? other = some s) ∧
    ∀ e, (register family r name).result = .error e →
      (∃ inner, family.Reaches name inner ∧ Schema.ofTarget family (.model inner) = .error e) ∧
      (register family r name).registry.get? name = none := by
  have hwalk := registers_register family r name
  refine ⟨?_, hwalk.isPrefix, fun other s => hwalk.get?_of_get?, fun e he => ⟨?_, ?_⟩⟩
  · exact registerStrictlyWithin_eq (Nat.lt_succ_of_le (unregistered_le_length family r))
  · rw [he] at hwalk
    obtain ⟨first, hfirst, inner, hreach, hinner⟩ := hwalk.exists_refused
    rw [List.mem_singleton] at hfirst
    exact ⟨inner, hfirst ▸ hreach, hinner⟩
  · exact get?_of_register_error he

/-- A registry that holds another schema for authors than their own. -/
def strangers : Registry := ⟨[("Author", ⟨"Author", [], false⟩)]⟩

/-- A post is refused as an ad is, and the author stays what it was. -/
theorem a_refused_post_leaves_a_strange_author :
    let after := register blog strangers "Post"
    after.result = .error ⟨"Ad", .noDirective, some (.name "text")⟩ ∧
      (∃ inner, blog.Reaches "Post" inner ∧ Schema.ofTarget blog (.model inner) =
        .error ⟨"Ad", .noDirective, some (.name "text")⟩) ∧
      after.registry.get? "Post" = none ∧
      after.registry.get? "Author" = some ⟨"Author", [], false⟩ := by
  have hrefused : (register blog strangers "Post").result =
      .error ⟨"Ad", .noDirective, some (.name "text")⟩ := by
    cbv
  obtain ⟨-, -, hkept, hfailed⟩ := registering_leaves_every_entry_in_place blog strangers "Post"
  obtain ⟨hreached, hgone⟩ := hfailed _ hrefused
  exact ⟨hrefused, hreached, hgone, hkept "Author" _ rfl⟩

end Registry

end QueryBinding
