-- The laws of registration. A registration walks through the models that nest
-- each other, depth first. `Registers` says how such a walk goes, one case for
-- each thing that can happen at a model, so every law below is an induction
-- over a walk. The budget of `register` always lets the walk come to its end.
import QueryBinding.Proofs.Schemas
import QueryBinding.Registry

namespace QueryBinding

/-! ## Models that nest each other -/

namespace Family

/-- An accepted model has a field that nests another model. -/
def Nests (family : Family) (name inner : String) : Prop :=
  ∃ s, Schema.ofTarget family (.model name) = .ok s ∧ inner ∈ Registry.nested s

/-- A model is nested by another one, at any depth. -/
def Reaches (family : Family) : String → String → Prop := Relation.ReflTransGen family.Nests

def Refuses (family : Family) (name : String) : Prop :=
  ∃ e, Schema.ofTarget family (.model name) = .error e

/-- The model, or one that it nests at any depth, is refused. -/
def Doomed (family : Family) (name : String) : Prop :=
  ∃ inner, family.Reaches name inner ∧ family.Refuses inner

theorem Doomed.of_nests {family : Family} {name inner : String} (h : family.Nests name inner)
    (hd : family.Doomed inner) : family.Doomed name := by
  obtain ⟨c, hc, hr⟩ := hd
  exact ⟨c, .head h hc, hr⟩

theorem Doomed.of_refuses {family : Family} {name : String} (h : family.Refuses name) :
    family.Doomed name := ⟨name, .refl, h⟩

end Family

namespace Registry

variable {family : Family}

theorem mem_nested {s : Schema} {name : String} :
    name ∈ nested s ↔ ∃ f ∈ s.fields, f.target? = some (.model name) := by
  simp only [nested, List.mem_filterMap]
  constructor
  · rintro ⟨f, hf, h⟩
    refine ⟨f, hf, ?_⟩
    split at h
    · rename_i n hn
      cases h
      exact hn
    · cases h
  · rintro ⟨f, hf, h⟩
    exact ⟨f, hf, by simp [h]⟩

/-! ## Walks -/

/-- How names are registered one after the other: the registry before, the names, the result, and
the registry after. -/
inductive Registers (family : Family) :
    Registry → List String → Except SchemaFailure Unit → Registry → Prop
  | done (r : Registry) : Registers family r [] (.ok ()) r
  | known {r r' : Registry} {name : String} {rest : List String} {s : Schema}
      {result : Except SchemaFailure Unit} (hget : r.get? name = some s)
      (hrest : Registers family r rest result r') : Registers family r (name :: rest) result r'
  | refused {r : Registry} {name : String} {e : SchemaFailure} (rest : List String)
      (hget : r.get? name = none) (hs : Schema.ofTarget family (.model name) = .error e) :
      Registers family r (name :: rest) (.error e) r
  | undone {r r' : Registry} {name : String} {s : Schema} {e : SchemaFailure} (rest : List String)
      (hget : r.get? name = none) (hs : Schema.ofTarget family (.model name) = .ok s)
      (hinner : Registers family (r.insert name s) (nested s) (.error e) r') :
      Registers family r (name :: rest) (.error e) (r'.erase name)
  | entered {r r' r'' : Registry} {name : String} {s : Schema} {rest : List String}
      {result : Except SchemaFailure Unit} (hget : r.get? name = none)
      (hs : Schema.ofTarget family (.model name) = .ok s)
      (hinner : Registers family (r.insert name s) (nested s) (.ok ()) r')
      (hrest : Registers family r' rest result r'') :
      Registers family r (name :: rest) result r''

/-- What is registered stays so, with the same schema, also when a walk fails. -/
theorem Registers.get?_of_get? {r r' : Registry} {names : List String}
    {result : Except SchemaFailure Unit} (h : Registers family r names result r') {name : String}
    {s : Schema} (hn : r.get? name = some s) : r'.get? name = some s := by
  have hinsert : ∀ {r : Registry} {other : String} (t : Schema), r.get? other = none →
      r.get? name = some s → name ≠ other ∧ (r.insert other t).get? name = some s := by
    intro r other t hget hn
    have hne : name ≠ other := fun h => by rw [h, hget] at hn; cases hn
    exact ⟨hne, by rw [get?_insert_ne hne, hn]⟩
  induction h with
  | done => exact hn
  | known _ _ ih => exact ih hn
  | refused => exact hn
  | undone _ hget _ _ ih =>
    obtain ⟨hne, hi⟩ := hinsert _ hget hn
    rw [get?_erase_ne hne]
    exact ih hi
  | entered hget _ _ _ ihi ihr => exact ihr (ihi (hinsert _ hget hn).2)

/-! ## The budget -/

/-- How many models of the family are not registered. -/
def unregistered (family : Family) (r : Registry) : Nat :=
  ((family.map (·.name)).toFinset.filter fun n => r.get? n = none).card

theorem unregistered_le_length (family : Family) (r : Registry) :
    unregistered family r ≤ family.length := by
  calc unregistered family r ≤ (family.map (·.name)).toFinset.card := Finset.card_filter_le _ _
    _ ≤ (family.map (·.name)).length := List.toFinset_card_le _
    _ = family.length := List.length_map _

theorem unregistered_mono {r r' : Registry}
    (h : ∀ name s, r.get? name = some s → r'.get? name = some s) :
    unregistered family r' ≤ unregistered family r := by
  refine Finset.card_le_card fun n hn => ?_
  rw [Finset.mem_filter] at hn ⊢
  refine ⟨hn.1, ?_⟩
  rcases hg : r.get? n with _ | s
  · rfl
  · rw [h n s hg] at hn
    cases hn.2

theorem unregistered_insert_lt {r : Registry} {name : String} {s : Schema}
    (hget : r.get? name = none) (hs : Schema.ofTarget family (.model name) = .ok s) :
    unregistered family (r.insert name s) < unregistered family r := by
  obtain ⟨m, hm, -⟩ := Schema.ofTarget_eq_ok hs
  have hname : name ∈ (family.map (·.name)).toFinset := by
    rw [List.mem_toFinset, List.mem_map]
    exact ⟨m, Family.mem_of_model? hm, Family.name_of_model? hm⟩
  refine Finset.card_lt_card (Finset.ssubset_iff_of_subset (fun n hn => ?_) |>.2 ⟨name, ?_, ?_⟩)
  · rw [Finset.mem_filter] at hn ⊢
    have hne : n ≠ name := fun h => by rw [h, get?_insert_self] at hn; cases hn.2
    rw [get?_insert_ne hne] at hn
    exact hn
  · exact Finset.mem_filter.2 ⟨hname, hget⟩
  · simp

/-- With a budget above the number of models that are left, registering is a walk. -/
theorem registers_registerEach (depth : Nat) (r : Registry) (names : List String)
    (h : unregistered family r < depth) :
    Registers family r names (registerEach (registerWithin family depth) r names).result
      (registerEach (registerWithin family depth) r names).registry := by
  induction depth generalizing r names with
  | zero => omega
  | succ depth ih =>
    induction names generalizing r with
    | nil => exact .done r
    | cons name rest ihrest =>
      rcases hget : r.get? name with _ | s
      · rcases hs : Schema.ofTarget family (.model name) with e | s
        · simp only [registerEach, registerWithin, hget, hs]
          exact .refused rest hget hs
        · -- the model is entered before what it nests, which so has one model less to meet
          have hlt := unregistered_insert_lt hget hs
          have hinner := ih (r.insert name s) (nested s) (by omega)
          simp only [registerEach, registerWithin, hget, hs]
          rcases hr : (registerEach (registerWithin family depth) (r.insert name s)
            (nested s)).result with e | u
          · rw [hr] at hinner
            exact .undone rest hget hs hinner
          · rw [hr] at hinner
            refine .entered hget hs hinner (ihrest _ ?_)
            have hle : unregistered family _ ≤ unregistered family (r.insert name s) :=
              unregistered_mono fun n t hn => hinner.get?_of_get? hn
            omega
      · simp only [registerEach, registerWithin, hget]
        exact .known hget (ihrest r h)

/-- A registration leaves no more models unregistered than there were. -/
theorem unregistered_registerWithin_le {depth : Nat} {r : Registry}
    (h : unregistered family r < depth) (name : String) :
    unregistered family (registerWithin family depth r name).registry ≤ unregistered family r := by
  have hwalk := registers_registerEach depth r [name] h
  have hregistry : (registerEach (registerWithin family depth) r [name]).registry =
      (registerWithin family depth r name).registry := by
    simp only [registerEach]
    split <;> rfl
  rw [hregistry] at hwalk
  exact unregistered_mono fun n t hn => hwalk.get?_of_get? hn

theorem registers_register (family : Family) (r : Registry) (name : String) :
    Registers family r [name] ((register family r name).result.map fun _ => ())
      (register family r name).registry := by
  have h := registers_registerEach (family.length + 1) r [name]
    (Nat.lt_succ_of_le (unregistered_le_length family r))
  simp only [registerEach] at h
  unfold register
  rcases hr : (registerWithin family (family.length + 1) r name).result with e | s
  · simpa only [hr, Except.map] using h
  · simpa only [hr, Except.map] using h

/-! ## What a walk leaves behind -/

/-- Every entry is the schema that the family gives to its model. -/
def Faithful (family : Family) (r : Registry) : Prop :=
  ∀ name s, r.get? name = some s → Schema.ofTarget family (.model name) = .ok s

theorem faithful_empty (family : Family) : Faithful family empty := fun _ _ h => by cases h

theorem Faithful.insert {r : Registry} {name : String} {s : Schema} (h : Faithful family r)
    (hs : Schema.ofTarget family (.model name) = .ok s) : Faithful family (r.insert name s) := by
  intro other t ht
  by_cases ho : other = name
  · subst ho
    rw [get?_insert_self] at ht
    cases ht
    exact hs
  · rw [get?_insert_ne ho] at ht
    exact h other t ht

theorem Faithful.erase {r : Registry} (h : Faithful family r) (name : String) :
    Faithful family (r.erase name) := by
  intro other t ht
  by_cases ho : other = name
  · rw [ho, get?_erase_self] at ht
    cases ht
  · rw [get?_erase_ne ho] at ht
    exact h other t ht

theorem Registers.faithful {r r' : Registry} {names : List String}
    {result : Except SchemaFailure Unit} (h : Registers family r names result r')
    (hr : Faithful family r) : Faithful family r' := by
  induction h with
  | done => exact hr
  | known _ _ ih => exact ih hr
  | refused => exact hr
  | undone _ _ hs _ ih => exact (ih (hr.insert hs)).erase _
  | entered _ hs _ _ ihi ihr => exact ihr (ihi (hr.insert hs))

/-- A walk that succeeds registers every name. -/
theorem Registers.get?_of_ok {r r' : Registry} {names : List String}
    (h : Registers family r names (.ok ()) r') : ∀ name ∈ names, ∃ s, r'.get? name = some s := by
  generalize hresult : (Except.ok () : Except SchemaFailure Unit) = result at h
  induction h with
  | done => simp
  | known hget hrest ih =>
    intro n hn
    rcases List.mem_cons.1 hn with rfl | hn
    · exact ⟨_, hrest.get?_of_get? hget⟩
    · exact ih hresult n hn
  | refused => cases hresult
  | undone => cases hresult
  | entered hget hs hinner hrest _ ihr =>
    intro n hn
    rcases List.mem_cons.1 hn with rfl | hn
    · exact ⟨_, hrest.get?_of_get? (hinner.get?_of_get? (get?_insert_self _ _ _))⟩
    · exact ihr hresult n hn

/-- A walk fails as a refused model does to which one of its names leads. -/
theorem Registers.exists_refused {r r' : Registry} {names : List String} {e : SchemaFailure}
    (h : Registers family r names (.error e) r') : ∃ name ∈ names, ∃ inner,
      family.Reaches name inner ∧ Schema.ofTarget family (.model inner) = .error e := by
  generalize hresult : (Except.error e : Except SchemaFailure Unit) = result at h
  induction h with
  | done => cases hresult
  | known _ _ ih =>
    obtain ⟨n, hn, hr⟩ := ih hresult
    exact ⟨n, List.mem_cons_of_mem _ hn, hr⟩
  | refused _ _ hs =>
    cases hresult
    exact ⟨_, List.mem_cons_self, _, .refl, hs⟩
  | undone _ _ hs _ ih =>
    cases hresult
    obtain ⟨n, hn, inner, hr, hi⟩ := ih rfl
    exact ⟨_, List.mem_cons_self, inner, .head ⟨_, hs, hn⟩ hr, hi⟩
  | entered _ _ _ _ _ ihr =>
    obtain ⟨n, hn, hr⟩ := ihr hresult
    exact ⟨n, List.mem_cons_of_mem _ hn, hr⟩

/-- A walk fails only at a model that is refused, and a name leads there. -/
theorem Registers.doomed {r r' : Registry} {names : List String} {e : SchemaFailure}
    (h : Registers family r names (.error e) r') : ∃ name ∈ names, family.Doomed name := by
  obtain ⟨name, hn, inner, hr, hi⟩ := h.exists_refused
  exact ⟨name, hn, inner, hr, e, hi⟩

/-- What a registered model nests is registered too, or excused. Models whose own registration is
still under way are left aside. -/
def Covers (excused pending : String → Prop) (r : Registry) : Prop :=
  ∀ name s, r.get? name = some s → ¬ pending name →
    ∀ inner ∈ nested s, r.contains inner = true ∨ excused inner

theorem Covers.insert {excused pending : String → Prop} {r : Registry} {name : String}
    (s : Schema) (h : Covers excused pending r) :
    Covers excused (fun n => pending n ∨ n = name) (r.insert name s) := by
  intro other t ht hp inner hi
  have hne : other ≠ name := fun h => hp (.inr h)
  rw [get?_insert_ne hne] at ht
  rcases h other t ht (fun h => hp (.inl h)) inner hi with hc | he
  · left
    by_cases hin : inner = name
    · rw [contains_iff, hin]
      exact ⟨s, get?_insert_self _ _ _⟩
    · rw [contains_iff, get?_insert_ne hin]
      exact contains_iff.1 hc
  · exact .inr he

/-- A walk keeps a registry covered, if doomed models are excused whenever it fails: an entry that
is taken back belongs to a doomed model. -/
theorem Registers.covers {r r' : Registry} {names : List String}
    {result : Except SchemaFailure Unit} (h : Registers family r names result r')
    {excused : String → Prop} (he : ∀ e, result = .error e → ∀ n, family.Doomed n → excused n) :
    ∀ pending : String → Prop, Covers excused pending r → Covers excused pending r' := by
  induction h with
  | done => exact fun _ hr => hr
  | known _ _ ih => exact ih he
  | refused => exact fun _ hr => hr
  | @undone r r' name s e _ _ hs hinner ih =>
    intro pending hr other t ht hp inner hi
    have hne : other ≠ name := fun h => by rw [h, get?_erase_self] at ht; cases ht
    rw [get?_erase_ne hne] at ht
    have hpending : ¬ (pending other ∨ other = name) := fun h => h.elim hp hne
    rcases ih he _ (hr.insert s) other t ht hpending inner hi with hc | hx
    · by_cases hin : inner = name
      · -- the entry that is taken back is nested in one that stays
        obtain ⟨n, hn, hd⟩ := hinner.doomed
        right
        rw [hin]
        exact he e rfl name (.of_nests ⟨s, hs, hn⟩ hd)
      · left
        rw [contains_iff, get?_erase_ne hin]
        exact contains_iff.1 hc
    · exact .inr hx
  | @entered r r' r'' name s _ _ _ _ hinner _ ihi ihr =>
    intro pending hr
    have hopen : Covers excused (fun n => pending n ∨ n = name) r' :=
      ihi (fun e h => by cases h) _ (hr.insert s)
    refine ihr he pending fun other t ht hp inner hi => ?_
    by_cases ho : other = name
    · -- the model whose registration has just come to its end
      subst ho
      rw [hinner.get?_of_get? (get?_insert_self _ _ _)] at ht
      cases ht
      exact .inl (contains_iff.2 (hinner.get?_of_ok inner hi))
    · exact hopen other t ht (fun h => h.elim hp ho) inner hi

/-! ## One registration -/

theorem register_of_get? {r : Registry} {name : String} {s : Schema} (h : r.get? name = some s) :
    register family r name = ⟨.ok s, r, []⟩ := by
  simp only [register, registerWithin, h]

theorem ofTarget_of_register_ok {r : Registry} {name : String} {s : Schema}
    (hr : Faithful family r) (h : (register family r name).result = .ok s) :
    Schema.ofTarget family (.model name) = .ok s := by
  rcases hget : r.get? name with _ | t
  · simp only [register, registerWithin, hget] at h
    rcases hs : Schema.ofTarget family (.model name) with e | t
    · simp [hs] at h
    · simp only [hs] at h
      split at h
      · cases h
      · exact h
  · rw [register_of_get? hget] at h
    cases h
    exact hr name _ hget

/-- A registration that succeeds hands out the schema that is registered from then on. -/
theorem get?_of_register_ok {r : Registry} {name : String} {s : Schema} (hr : Faithful family r)
    (h : (register family r name).result = .ok s) :
    (register family r name).registry.get? name = some s := by
  have hwalk := registers_register family r name
  have hs := ofTarget_of_register_ok hr h
  rw [h] at hwalk
  obtain ⟨t, ht⟩ := hwalk.get?_of_ok name List.mem_cons_self
  rw [hwalk.faithful hr name t ht] at hs
  cases hs
  exact ht

/-- A registration fails only for a doomed model. -/
theorem doomed_of_register_error {r : Registry} {name : String} {e : SchemaFailure}
    (h : (register family r name).result = .error e) : family.Doomed name := by
  have hwalk := registers_register family r name
  rw [h] at hwalk
  obtain ⟨n, hn, hd⟩ := hwalk.doomed
  rw [List.mem_singleton] at hn
  exact hn ▸ hd

theorem faithful_register {r : Registry} (hr : Faithful family r) (name : String) :
    Faithful family (register family r name).registry :=
      (registers_register family r name).faithful hr

/-- A model that is not doomed registers, whatever is registered already. -/
theorem exists_register_ok {r : Registry} {name : String} (hr : Faithful family r)
    (hd : ¬ family.Doomed name) : ∃ s, (register family r name).result = .ok s ∧
      Schema.ofTarget family (.model name) = .ok s := by
  rcases h : (register family r name).result with e | s
  · exact absurd (doomed_of_register_error h) hd
  · exact ⟨s, rfl, ofTarget_of_register_ok hr h⟩

/-! ## Settled models -/

/-- Everything that can be met below a model is registered, each with its own schema. -/
structure Settled (family : Family) (r : Registry) (name : String) : Prop where
  faithful : Faithful family r
  reached : ∀ inner, family.Reaches name inner → ∃ s, r.get? inner = some s

theorem Settled.of_nests {r : Registry} {name inner : String} (h : Settled family r name)
    (hn : family.Nests name inner) : Settled family r inner :=
  ⟨h.faithful, fun other ho => h.reached other (.head hn ho)⟩

theorem Settled.exists_get? {r : Registry} {name : String} (h : Settled family r name) :
    ∃ s, r.get? name = some s ∧ Schema.ofTarget family (.model name) = .ok s := by
  obtain ⟨s, hs⟩ := h.reached name .refl
  exact ⟨s, hs, h.faithful name s hs⟩

theorem Settled.not_doomed {r : Registry} {name : String} (h : Settled family r name) :
    ¬ family.Doomed name := by
  rintro ⟨inner, hi, e, he⟩
  obtain ⟨s, hs⟩ := h.reached inner hi
  rw [h.faithful inner s hs] at he
  cases he

/-- In a covered registry a registered model is settled, unless it leads to an excused one. -/
theorem settled_of_covers {excused : String → Prop} {r : Registry} {name : String} {s : Schema}
    (hr : Faithful family r) (hc : Covers excused (fun _ => False) r)
    (hget : r.get? name = some s) (hx : ∀ inner, family.Reaches name inner → ¬ excused inner) :
    Settled family r name := by
  refine ⟨hr, fun inner hi => ?_⟩
  induction hi with
  | refl => exact ⟨s, hget⟩
  | @tail mid inner hreach hn ih =>
    obtain ⟨t, ht⟩ := ih
    obtain ⟨t', ht', hmem⟩ := hn
    rw [hr mid t ht] at ht'
    cases ht'
    rcases hc mid t ht id inner hmem with h | h
    · exact contains_iff.1 h
    · exact absurd h (hx inner (hreach.tail ⟨t, hr mid t ht, hmem⟩))

/-- A model that registers is settled from then on, in a registry that was empty before. -/
theorem settled_of_register_ok {name : String} {s : Schema}
    (h : (register family empty name).result = .ok s) :
    Settled family (register family empty name).registry name := by
  have hcovers :
      Covers (fun _ => False) (fun _ => False) (register family empty name).registry := by
    refine (registers_register family empty name).covers (fun e he => ?_) _
      fun n t hn => by cases hn
    rw [h] at he
    cases he
  exact settled_of_covers (faithful_register (faithful_empty family) name) hcovers
    (get?_of_register_ok (faithful_empty family) h) fun _ _ => id

end Registry

end QueryBinding
