-- The order of declarations. Two families that differ in the order in which
-- models declare their fields give the same value for every field, or both
-- fail, unless something looks at the order of the fields of an instance.
import QueryBinding.Proofs.Calls
import QueryBinding.Proofs.Reorderings

namespace QueryBinding

/-! ## Schemas in another order -/

theorem Model.Reordered.symm {m m' : Model} (h : m.Reordered m') : m'.Reordered m :=
  ⟨h.name.symm, h.wraps.symm, h.config.symm, h.checks.symm, h.fields.symm⟩

theorem Family.Reordered.symm {family family' : Family} (h : family.Reordered family') :
    family'.Reordered family := (List.Forall₂.flip h).imp fun _ _ hm => hm.symm

namespace Schema

variable {m m' : Model} {s : Schema}

theorem fieldOf_reordered (hm : m.Reordered m') (i : Identifier) (f : FieldDecl) :
    fieldOf m' i f = fieldOf m i f := by
  have haliases : checkAliases m' f = checkAliases m f := by
    unfold checkAliases Model.readsNames
    rw [hm.config]
  unfold fieldOf
  rw [hm.wraps, haliases]

/-- Fields with names are accepted when each of them is. -/
theorem fieldsFrom_eq_ok_iff (hw : m.wraps = false) {index : Nat} {decls : List FieldDecl}
    {fs : List FieldSpec} : fieldsFrom m index decls = .ok fs ↔
      List.Forall₂ (fun decl f => fieldOf m (.name decl.name) decl = .ok f) decls fs := by
  induction decls generalizing index fs with
  | nil => simp [fieldsFrom, eq_comm]
  | cons decl decls ih =>
    rw [List.forall₂_cons_left_iff, fieldsFrom]
    simp only [hw, Bool.false_eq_true, if_false]
    rcases hf : fieldOf m (.name decl.name) decl with e | f
    · simp
    · constructor
      · intro h
        obtain ⟨rest, hrest, rfl⟩ := map_eq_ok.1 h
        exact ⟨f, rest, rfl, ih.1 hrest, rfl⟩
      · rintro ⟨_, rest, hb, hrest, rfl⟩
        cases hb
        exact map_eq_ok.2 ⟨rest, ih.2 hrest, rfl⟩

/-- The same schema, with its fields in another order. -/
structure Reordered (s s' : Schema) : Prop where
  target : s'.target = s.target
  positional : s'.positional = s.positional
  fields : s.fields.Perm s'.fields

/-- A model in another order has its schema in another order. -/
theorem exists_reordered (hm : m.Reordered m') (hsingle : m.wraps = true → ∃ f, m.fields = [f])
    (hs : ofModel m = .ok s) : ∃ s', ofModel m' = .ok s' ∧ s.Reordered s' := by
  cases hw : m.wraps with
  | true =>
    obtain ⟨f, hf⟩ := hsingle hw
    exact ⟨s, hm.eq_of_single hf ▸ hs, rfl, rfl, .refl _⟩
  | false =>
    obtain ⟨htarget, hpos, hfields⟩ := ofModel_eq_ok hs
    obtain ⟨fs, hall, hperm⟩ := List.perm_comp_forall₂ hm.fields.symm
      ((fieldsFrom_eq_ok_iff hw).1 hfields)
    have hfields' : fieldsFrom m' 0 m'.fields = .ok fs := by
      refine (fieldsFrom_eq_ok_iff (hm.wraps.trans hw)).2 (hall.imp fun decl f hf => ?_)
      rw [fieldOf_reordered hm, hf]
    refine ⟨⟨m'.name, fs, m'.wraps⟩, ?_, hm.name.trans htarget.symm, hm.wraps.trans hpos.symm,
      hperm.symm⟩
    rw [ofModel, hfields']
    rfl

end Schema

namespace Family

variable {family family' : Family} {name : String} {s : Schema}

/-- A model that wraps a value has a single field. -/
def Single (family : Family) : Prop := ∀ m ∈ family, m.wraps = true → ∃ f, m.fields = [f]

theorem Reordered.single (h : family.Reordered family') (hsingle : family.Single) :
    family'.Single := by
  intro m' hm' hw
  obtain ⟨m, hm, hmm'⟩ := exists_mem_left h hm'
  obtain ⟨f, hf⟩ := hsingle m hm (hmm'.wraps.symm.trans hw)
  exact ⟨f, by rw [hmm'.eq_of_single hf]; exact hf⟩

theorem Reordered.ofTarget (h : family.Reordered family') (hsingle : family.Single)
    (hs : Schema.ofTarget family (.model name) = .ok s) :
    ∃ s', Schema.ofTarget family' (.model name) = .ok s' ∧ s.Reordered s' := by
  obtain ⟨m, hm, hof⟩ := Schema.ofTarget_eq_ok hs
  have hmodel := h.model? name
  rw [hm] at hmodel
  obtain ⟨m', hm', hmm'⟩ : ∃ m', family'.model? name = some m' ∧ m.Reordered m' := by
    generalize family'.model? name = y at hmodel ⊢
    cases hmodel with | some hmm' => exact ⟨_, rfl, hmm'⟩
  obtain ⟨s', hs', hss'⟩ := Schema.exists_reordered hmm' (hsingle m (mem_of_model? hm)) hof
  exact ⟨s', by simp only [Schema.ofTarget, hm', hs'], hss'⟩

theorem Reordered.nests (h : family.Reordered family') (hsingle : family.Single) {inner : String}
    (hn : family.Nests name inner) : family'.Nests name inner := by
  obtain ⟨s, hs, hinner⟩ := hn
  obtain ⟨s', hs', hss'⟩ := h.ofTarget hsingle hs
  obtain ⟨f, hf, ht⟩ := Registry.mem_nested.1 hinner
  exact ⟨s', hs', Registry.mem_nested.2 ⟨f, hss'.fields.mem_iff.1 hf, ht⟩⟩

/-- What is refused in one order is refused in the other. -/
theorem Reordered.doomed (h : family.Reordered family') (hsingle : family.Single)
    (hd : family'.Doomed name) : family.Doomed name := by
  obtain ⟨inner, hreach, e, he⟩ := hd
  refine ⟨inner, Relation.ReflTransGen.mono (fun _ _ => h.symm.nests (h.single hsingle)) _ _ hreach,
    ?_⟩
  rcases hs : Schema.ofTarget family (.model inner) with e' | s
  · exact ⟨e', hs⟩
  · obtain ⟨s', hs', -⟩ := h.ofTarget hsingle hs
    rw [hs'] at he
    cases he

end Family

/-! ## What instances are bound to -/

/-- A value that the model makes of some bound values. -/
def Family.Makes (family : Family) (name : String) (v : Value) : Prop :=
  ∃ s values, Schema.ofTarget family (.model name) = .ok s ∧ Binder.assemble family s values = .ok v

/-- Instances that a field nests, as its matches give them. -/
inductive FieldSpec.MayNest (family : Family) (f : FieldSpec) : Value → Prop
  | single {inner : String} {v : Value} (hshape : f.shape = some ⟨.nestedOne, some (.model inner)⟩)
      (hv : family.Makes inner v) : f.MayNest family v
  | many {inner : String} {vs : List Value}
      (hshape : f.shape = some ⟨.nestedList, some (.model inner)⟩)
      (hvs : ∀ v ∈ vs, family.Makes inner v) : f.MayNest family (.list vs)

/-- What a field can be bound to that nests instances: these, or what a transform makes of them. -/
inductive FieldSpec.MayBind (family : Family) (f : FieldSpec) : Value → Prop
  | plain {v : Value} (ht : f.transform = none) (hv : f.MayNest family v) : f.MayBind family v
  | transformed {t : Transform} {u v : Value} {calls : Transform.Calls} (ht : f.transform = some t)
      (hu : f.MayNest family u) (hv : ((t.apply u).run.run calls).1 = .ok v) : f.MayBind family v

/-- The transform of the field makes the same of the instances that it nests, in any order of their
fields. -/
def FieldSpec.Blind (family : Family) (f : FieldSpec) : Prop :=
  ∀ t, f.transform = some t → ∀ v w, f.MayNest family v → v.Rearranged w → ∀ calls calls',
    EndsAlike Value.Rearranged ((t.apply v).run.run calls).1 ((t.apply w).run.run calls').1

/-- Validation looks for one field at the value that is bound to another, or to the same one, and
finds this part of it. -/
def Model.Reads (m : Model) (bound read : FieldDecl) (v u : Value) : Prop :=
  if m.wraps then u = v
  else ∃ rest, (.name bound.name :: rest) ∈ Validation.waysTo m read ∧
    Validation.followFrom? v rest = some u

/-- Nothing looks at the order of the fields of an instance: no transform of nested instances, no
test of a value that holds some, and no type that would read an instance as the list of its
fields. -/
structure Family.Orderless (family : Family) : Prop where
  transforms : ∀ m ∈ family, ∀ decl ∈ m.fields, ∀ i f, Schema.fieldOf m i decl = .ok f →
    f.Blind family
  tests : ∀ m ∈ family, ∀ decl ∈ m.fields, decl.Blind family
  whole : ∀ m ∈ family, ∀ decl ∈ m.fields, ∀ i f, Schema.fieldOf m i decl = .ok f →
    ∀ v, f.MayBind family v → ∀ read ∈ m.fields, ∀ u, m.Reads decl read v u →
      ¬ Validation.TakesApart family read.type u

theorem Family.Orderless.blind {family : Family} (h : family.Orderless) {name : String} {s : Schema}
    (hs : Schema.ofTarget family (.model name) = .ok s) {f : FieldSpec} (hf : f ∈ s.fields) :
    f.Blind family := by
  obtain ⟨m, hm, hof⟩ := Schema.ofTarget_eq_ok hs
  obtain ⟨decl, hd, i, hfield⟩ := Schema.exists_decl hof hf
  exact h.transforms m (Family.mem_of_model? hm) decl hd _ f hfield

/-! ## Families in which nothing looks at the order -/

/-- What is bound under a name is read under this name alone, with the shape that its type calls
for; nested instances are not transformed, and every test is one of those that are built in. -/
structure Model.Straight (m : Model) : Prop where
  unaliased : ∀ decl ∈ m.fields, decl.readingAlias? = none
  inferred : ∀ decl ∈ m.fields, ∀ d ∈ decl.directives, d.shape = none
  untransformed : ∀ decl ∈ m.fields, ∀ i f, Schema.fieldOf m i decl = .ok f → f.target? ≠ none →
    f.transform = none
  untested : ∀ decl ∈ m.fields, ∀ c ∈ decl.checks, ∀ revise, c.rule ≠ .custom revise

section

variable {family : Family} {m : Model} {decl : FieldDecl} {f : FieldSpec} {v : Value}

theorem Family.Makes.isInstance {name : String} (h : family.Makes name v) : v.IsInstance name := by
  obtain ⟨s, values, hs, hv⟩ := h
  have hends := Binder.ends_assemble hs values
  rw [hv] at hends
  exact hends

theorem FieldSpec.MayNest.target?_ne_none (h : f.MayNest family v) : f.target? ≠ none := by
  cases h with
  | single hshape =>
    rw [FieldSpec.target?, hshape]
    exact Option.some_ne_none _
  | many hshape =>
    rw [FieldSpec.target?, hshape]
    exact Option.some_ne_none _

theorem Model.Straight.not_transformed (h : m.Straight) (hd : decl ∈ m.fields) {i : Identifier}
    (hf : Schema.fieldOf m i decl = .ok f) (hv : f.MayNest family v) : f.transform = none :=
  h.untransformed decl hd i f hf hv.target?_ne_none

theorem Model.Straight.infers (h : m.Straight) (hd : decl ∈ m.fields) {i : Identifier}
    (hf : Schema.fieldOf m i decl = .ok f) (hv : f.MayNest family v) {shape : TargetShape}
    (hshape : f.shape = some shape) : ∃ mode, decl.type.Infers shape mode := by
  obtain ⟨d, hdir, hb, -⟩ := Schema.fieldOf_eq_ok hf
  obtain ⟨mode, hi⟩ := Schema.shape_of_bindingOf hb hshape
  have htransform : d.transform = none := by
    rw [← (Schema.bindingOf_eq_ok hb).2.2.2]
    exact h.not_transformed hd hf hv
  rw [h.inferred decl hd d (by rw [hdir]; exact List.mem_singleton_self d), htransform] at hi
  exact ⟨mode, FieldType.infers_of_inferShape hi⟩

/-- Nothing else is read for a field than what is bound to it. -/
theorem Model.Straight.eq_of_reads (h : m.Straight) (hregular : m.Regular) (hd : decl ∈ m.fields)
    {read : FieldDecl} (hread : read ∈ m.fields) {u : Value} (hu : m.Reads decl read v u) :
    read = decl ∧ u = v := by
  unfold Model.Reads at hu
  split at hu
  · rename_i hw
    obtain ⟨only, honly⟩ := hregular.single hw
    rw [honly, List.mem_singleton] at hd hread
    exact ⟨hread.trans hd.symm, hu⟩
  · obtain ⟨rest, hway, hu⟩ := hu
    have hways : Validation.waysTo m read = [[.name read.name]] := by
      simp only [Validation.waysTo, h.unaliased read hread]
    rw [hways, List.mem_singleton, List.cons.injEq] at hway
    obtain ⟨hname, rfl⟩ := hway
    cases hu
    exact ⟨List.inj_on_of_nodup_map hregular.distinct hread hd (Identifier.name.inj hname).symm,
      rfl⟩

namespace Validation

theorem not_takesApart_of_isInstance {name : String} (hv : v.IsInstance name) :
    ¬ TakesApart family (.model name) v := by
  intro h
  cases h with
  | wrapped _ _ _ hne _ => exact hne hv
  | field => exact hv

/-- An instance is no list, so what is made of instances as its type calls for is kept whole. -/
theorem not_takesApart_of_infers {a : FieldType} {mode : BindingMode}
    {shape : TargetShape} (ha : a.Infers shape mode) (hshape : f.shape = some shape)
    (hv : f.MayNest family v) : ¬ TakesApart family a v := by
  cases hv with
  | @single inner v hnested hv =>
    obtain rfl := Option.some.inj (hshape.symm.trans hnested)
    cases ha with
    | model => exact not_takesApart_of_isInstance hv.isInstance
    | modelOrNone hunion =>
      obtain ⟨long, ms, rfl, hfilter, -⟩ := FieldType.exists_union_of_unwrapOptional hunion
      intro h
      cases h with | member hmem h => ?_
      rename_i c
      cases hn : c.isNothing with
      | true =>
        obtain rfl := FieldType.eq_nothing_of_isNothing hn
        cases h
      | false =>
        have hc : c ∈ ms.filter (!·.isNothing) := List.mem_filter.2 ⟨hmem, by rw [hn]; rfl⟩
        rw [hfilter, List.mem_singleton] at hc
        subst hc
        exact not_takesApart_of_isInstance hv.isInstance h
  | @many inner vs hnested hvs =>
    obtain rfl := Option.some.inj (hshape.symm.trans hnested)
    cases ha with
    | models =>
      intro h
      cases h with
      | listItem hitems hx h =>
        cases hitems
        exact not_takesApart_of_isInstance (hvs _ hx).isInstance h

end Validation

/-- In a family of such models the order of declarations matters nowhere. -/
theorem Family.orderless_of_straight (hregular : ∀ m ∈ family, m.Regular)
    (h : ∀ m ∈ family, m.Straight) : family.Orderless where
  transforms := by
    intro m hm decl hd i f hf t ht v w hv
    rw [(h m hm).not_transformed hd hf hv] at ht
    cases ht
  tests := by
    intro m hm decl hd depth size busy
    have huntested := (h m hm).untested decl hd
    exact ⟨fun c hc revise hr => absurd hr (huntested c hc revise), fun x v w _ =>
      Validation.passChecks_rearranged fun c hc revise hr => absurd hr (huntested c hc revise)⟩
  whole := by
    intro m hm decl hd i f hf v hv read hread u hu
    obtain ⟨rfl, rfl⟩ := (h m hm).eq_of_reads (hregular m hm) hd hread hu
    cases hv with
    | plain ht hv =>
      obtain ⟨shape, hshape, -⟩ := Option.bind_eq_some_iff.1
        (Option.ne_none_iff_exists'.1 hv.target?_ne_none).choose_spec
      obtain ⟨mode, ha⟩ := (h m hm).infers hd hf hv hshape
      exact Validation.not_takesApart_of_infers ha hshape hv
    | transformed ht hv =>
      rw [(h m hm).not_transformed hd hf hv] at ht
      cases ht

end

namespace Binder

open Run Coercion

variable {ν : Type} {b : Binder ν} {family family' : Family} {f : FieldSpec}
  {builds builds' : String → ν → List (Call ν) → Except Failure Value → Prop}

/-! ## Fields -/

/-- Whatever calls are made, both end with values that are related, or both fail. -/
def RunsAlike {α : Type} (R : α → α → Prop) (p q : List (Call ν) → Except Failure α → Prop) :
    Prop :=
  ∀ calls calls' x x', p calls x → q calls' x' → EndsAlike R x x'

/-- Two ways to build what a field nests that end alike, with instances of the family. -/
def NestsAlike (family : Family) (builds builds' : String → ν → List (Call ν) →
    Except Failure Value → Prop) (f : FieldSpec) : Prop :=
  ∀ inner n, f.target? = some (.model inner) →
    RunsAlike (fun v w => v.Rearranged w ∧ family.Makes inner v) (builds inner n) (builds' inner n)

theorem inTurn_alike {α β : Type} {each each' : α → List (Call ν) → Except Failure β → Prop}
    {R : β → β → Prop} {as : List α} (h : ∀ a ∈ as, RunsAlike R (each a) (each' a)) :
    RunsAlike (List.Forall₂ R) (InTurn each as) (InTurn each' as) := by
  intro calls calls' x x' hx hx'
  induction hx generalizing calls' x' with
  | done =>
    cases hx'
    exact .nil
  | stopped rest hfirst =>
    cases hx' with
    | stopped _ hfirst' => trivial
    | next hfirst' _ => exact (h _ List.mem_cons_self _ _ _ _ hfirst hfirst').elim
  | next hfirst hrest ih =>
    cases hx' with
    | stopped _ hfirst' => exact (h _ List.mem_cons_self _ _ _ _ hfirst hfirst').elim
    | next hfirst' hrest' =>
      have hhead := h _ List.mem_cons_self _ _ _ _ hfirst hfirst'
      have htail := ih (fun a ha => h a (List.mem_cons_of_mem _ ha)) _ _ hrest'
      exact htail.map fun _ _ => .cons hhead

theorem buildsAt_alike {build build' : ν → List (Call ν) → Except Failure Value → Prop}
    {R : Value → Value → Prop} (h : ∀ n, RunsAlike R (build n) (build' n)) (m : Match ν) :
    RunsAlike R (BuildsAt build m) (BuildsAt build' m) := by
  intro calls calls' x x' hx hx'
  cases hx with
  | node hx =>
    cases hx' with
    | node hx' => exact h _ _ _ _ _ hx hx'
    | refused he => cases he
  | refused he =>
    cases hx' with
    | node hx' => cases he
    | refused he' => trivial

/-- The same matches come to the same, or to instances that differ in the order of fields. -/
theorem converts_alike (hn : NestsAlike family builds builds' f) (ms : List (Match ν)) :
    RunsAlike (Value.RearrangedIf (f.MayNest family)) (Converts b builds f ms)
      (Converts { b with family := family' } builds' f ms) := by
  intro calls calls' x x' hx hx'
  cases hx with
  | @plain kind target _ hshape hkind =>
    rw [hx'.eq_plainValue hshape hkind]
    exact .of_eq (fun v => .inl rfl) rfl
  | @absent inner hshape =>
    obtain ⟨-, rfl⟩ | ⟨m, rest, hnil, -⟩ := hx'.first_built hshape
    · exact .of_eq (fun v => .inl rfl) rfl
    · cases hnil
  | @single inner m _ _ rest hshape hx =>
    have ht : f.target? = some (.model inner) := by rw [FieldSpec.target?, hshape]; rfl
    obtain ⟨hnil, -⟩ | ⟨m', rest', heq, hx'⟩ := hx'.first_built hshape
    · cases hnil
    · cases heq
      have halike := buildsAt_alike (fun n => hn inner n ht) m _ _ _ _ hx hx'
      exact halike.mono fun v w hvw => .inr ⟨hvw.1, .single hshape hvw.2⟩
  | @many inner _ _ results hshape hx =>
    have ht : f.target? = some (.model inner) := by rw [FieldSpec.target?, hshape]; rfl
    obtain ⟨results', hturn, rfl⟩ := hx'.all_built hshape
    have halike := inTurn_alike (fun m _ => buildsAt_alike (fun n => hn inner n ht) m)
      _ _ _ _ hx hturn
    refine halike.map fun vs ws hall => ?_
    refine .inr ⟨Value.rearranged_list (hall.imp fun v w hvw => hvw.1), .many hshape fun v hv => ?_⟩
    obtain ⟨w, -, hvw⟩ := exists_mem_right hall hv
    exact hvw.2

theorem transformed_alike {R : Value → Value → Prop} (t : Transform) {x x' : Except Failure Value}
    (h : EndsAlike R x x') : EndsAlike R (transformed t x) (transformed t x') := by
  cases x <;> cases x' <;> exact h

/-- A transform makes the same of the same, and instances of instances. -/
theorem transforms_alike (hsteady : ∀ t, f.transform = some t → t.Steady) (hblind : f.Blind family)
    {v w : Value} (h : v.RearrangedIf (f.MayNest family) w) :
    RunsAlike (Value.RearrangedIf (f.MayBind family))
      (Transforms (ν := ν) f v) (Transforms f w) := by
  intro calls calls' x x' hx hx'
  cases hx with
  | absent ht =>
    cases hx' with
    | absent => exact h.mono (.plain ht)
    | called ht' =>
      rw [ht] at ht'
      cases ht'
  | @called t ht counts =>
    cases hx' with
    | absent ht' =>
      rw [ht] at ht'
      cases ht'
    | @called t' ht' counts' =>
      obtain rfl := Option.some.inj (ht.symm.trans ht')
      apply transformed_alike
      rcases h with rfl | ⟨hvw, hv⟩
      · exact .of_eq (fun u => .inl rfl) (hsteady t ht v counts counts')
      · have happlied := (hblind t ht v w hv hvw counts counts').and_left fun u hu =>
          FieldSpec.MayBind.transformed ht hv hu
        exact happlied.mono fun _ _ => .inr

section

variable {scope : Option ν} {presets : Bound} {calls : List (Call ν)}
  {x : Except Failure (Option Value)}

/-- What a queried field is bound to comes from its matches, converted and transformed. -/
theorem Handles.of_queries (h : Handles b builds scope presets f calls x)
    (hq : f.mode.queries = true) : ∃ query, f.query = some query ∧ ∃ y : Except Failure Value,
      x = (y.mapError (Failure.within f.identifier)).map some ∧
      match b.document.evaluate query scope with
        | .error e => y = .error e
        | .ok ms => ∃ calls' converted, Converts b builds f ms calls' converted ∧
          match converted with
            | .error e => y = .error e
            | .ok v => ∃ calls'' : List (Call ν), Transforms f v calls'' y := by
  cases h with
  | ignored hmode =>
    rw [hmode] at hq
    cases hq
  | default hmode =>
    rw [hmode] at hq
    cases hq
  | @refused query e _ hquery he =>
    refine ⟨query, hquery, .error e, rfl, ?_⟩
    rw [he]
  | @unconverted query ms calls' e _ hquery hms h =>
    refine ⟨query, hquery, .error e, rfl, ?_⟩
    rw [hms]
    exact ⟨calls', _, h, rfl⟩
  | @finished query ms calls' calls'' v result _ hquery hms h ht =>
    refine ⟨query, hquery, result, rfl, ?_⟩
    rw [hms]
    exact ⟨calls', _, h, calls'', ht⟩

theorem Handles.of_ignore (h : Handles b builds scope presets f calls x)
    (hmode : f.mode = .ignore) : x = .ok (presets.lookup f.identifier) := by
  cases h with
  | ignored => rfl
  | default hmode' =>
    rw [hmode] at hmode'
    cases hmode'
  | refused hq | unconverted hq | finished hq =>
    rw [hmode] at hq
    cases hq

theorem Handles.of_useDefault (h : Handles b builds scope presets f calls x)
    (hmode : f.mode = .useDefault) : x = .ok f.factory := by
  cases h with
  | ignored hmode' =>
    rw [hmode] at hmode'
    cases hmode'
  | default _ hv => rw [hv]
  | refused hq | unconverted hq | finished hq =>
    rw [hmode] at hq
    cases hq

end

/-- A field is bound to the same, or to what is made of instances that differ in their order. -/
theorem handles_alike (b : Binder ν) (family' : Family) (hn : NestsAlike family builds builds' f)
    (hsteady : ∀ t, f.transform = some t → t.Steady) (hblind : f.Blind family) (scope : Option ν)
    (presets : Bound) : RunsAlike (Option.Rel (Value.RearrangedIf (f.MayBind family)))
      (Handles b builds scope presets f)
      (Handles { b with family := family' } builds' scope presets f) := by
  have hsame : ∀ x : Except Failure (Option Value),
      EndsAlike (Option.Rel (Value.RearrangedIf (f.MayBind family))) x x := fun x =>
    .of_eq (Validation.option_rel_self fun v => .inl rfl) rfl
  intro calls calls' x x' hx hx'
  have hqueried : f.mode.queries = true → EndsAlike
      (Option.Rel (Value.RearrangedIf (f.MayBind family))) x x' := by
    intro hq
    obtain ⟨query, hquery, y, rfl, hy⟩ := hx.of_queries hq
    obtain ⟨query', hquery', y', rfl, hy'⟩ := hx'.of_queries hq
    obtain rfl := Option.some.inj (hquery.symm.trans hquery')
    suffices h : EndsAlike (Value.RearrangedIf (f.MayBind family)) y y' from
      (h.mapError _ _).map fun _ _ => .some
    dsimp only at hy'
    rcases hms : b.document.evaluate query scope with e | ms <;> rw [hms] at hy hy'
    · subst hy hy'
      trivial
    · obtain ⟨_, converted, hconverts, hy⟩ := hy
      obtain ⟨_, converted', hconverts', hy'⟩ := hy'
      have halike := converts_alike hn ms _ _ _ _ hconverts hconverts'
      rcases converted with e | v <;> rcases converted' with e' | w
      · subst hy hy'
        trivial
      · exact halike.elim
      · exact halike.elim
      · obtain ⟨_, hy⟩ := hy
        obtain ⟨_, hy'⟩ := hy'
        exact transforms_alike hsteady hblind halike _ _ _ _ hy hy'
  cases hmode : f.mode with
  | required => exact hqueried (by rw [hmode]; rfl)
  | optional => exact hqueried (by rw [hmode]; rfl)
  | useDefault =>
    rw [hx.of_useDefault hmode, hx'.of_useDefault hmode]
    exact hsame _
  | ignore =>
    rw [hx.of_ignore hmode, hx'.of_ignore hmode]
    exact hsame _

/-! ## Instances -/

section

variable {m m' : Model} {s s' : Schema} {vs vs' : List (Option Value)}
  {P P' : FieldSpec → Option Value → Prop}

theorem forall₂_zip {α β γ : Type*} {Q : α → β → Prop} {R : β → γ → Prop} {as : List α}
    {bs : List β} {cs : List γ} (h : List.Forall₂ Q as bs) (h' : List.Forall₂ R bs cs) :
    List.Forall₂ (fun a p => Q a p.1 ∧ R p.1 p.2) as (bs.zip cs) := by
  induction h generalizing cs with
  | nil => exact .nil
  | cons hab _ ih =>
    cases h' with | cons hbc hrest => exact .cons ⟨hab, hbc⟩ (ih hrest)

/-- Under the name of a field lies what its own spec is bound to. -/
theorem exists_spec_lookup (hs : Schema.ofModel m = .ok s) (hw : m.wraps = false)
    (hn : (m.fields.map (·.name)).Nodup) (hvs : List.Forall₂ P s.fields vs) {decl : FieldDecl}
    (hd : decl ∈ m.fields) : ∃ f ∈ s.fields, Schema.fieldOf m (.name decl.name) decl = .ok f ∧
      P f ((namedEntries (boundOf s.fields vs)).lookup decl.name) := by
  have hfields := (Schema.fieldsFrom_eq_ok_iff hw).1 (Schema.ofModel_eq_ok hs).2.2
  obtain ⟨p, hp, rfl⟩ := exists_mem_zip hs hvs.length_eq.symm hd
  obtain ⟨hf, hv⟩ := List.forall₂_zip (forall₂_zip hfields hvs) hp
  rw [lookup_boundOf (forall₂_identifier hs hw) hn p hp]
  exact ⟨p.2.1, (List.of_mem_zip (List.of_mem_zip hp).2).1, hf, hv⟩

/-- The fields of a model are bound alike in both orders. -/
theorem lookup_alike (hm : m.Reordered m') (hs : Schema.ofModel m = .ok s)
    (hs' : Schema.ofModel m' = .ok s') (hw : m.wraps = false)
    (hn : (m.fields.map (·.name)).Nodup) (hvs : List.Forall₂ P s.fields vs)
    (hvs' : List.Forall₂ P' s'.fields vs')
    (hbound : ∀ f ∈ s.fields, ∀ o o', P f o → P' f o' →
      Option.Rel (Value.RearrangedIf (f.MayBind family)) o o') {decl : FieldDecl}
    (hd : decl ∈ m.fields) : ∃ f, Schema.fieldOf m (.name decl.name) decl = .ok f ∧
      Option.Rel (Value.RearrangedIf (f.MayBind family))
        ((namedEntries (boundOf s.fields vs)).lookup decl.name)
        ((namedEntries (boundOf s'.fields vs')).lookup decl.name) := by
  have hn' : (m'.fields.map (·.name)).Nodup := (hm.fields.map _).nodup_iff.1 hn
  obtain ⟨f, hmem, hf, hv⟩ := exists_spec_lookup hs hw hn hvs hd
  obtain ⟨f', -, hf', hv'⟩ := exists_spec_lookup hs' (hm.wraps.trans hw) hn' hvs'
    (hm.fields.mem_iff.1 hd)
  rw [Schema.fieldOf_reordered hm, hf] at hf'
  cases hf'
  exact ⟨f, hf, hbound f hmem _ _ hv hv'⟩

/-- A field that is not declared is bound to nothing. -/
theorem lookup_boundOf_eq_none (hs : Schema.ofModel m = .ok s) (hw : m.wraps = false) {key : String}
    (hkey : ¬ ∃ decl ∈ m.fields, key = decl.name) :
    (namedEntries (boundOf s.fields vs)).lookup key = none := by
  by_contra hsome
  obtain ⟨v, hv⟩ := Option.ne_none_iff_exists'.1 hsome
  exact hkey (exists_decl_of_lookup_boundOf (forall₂_identifier hs hw) hv)

/-- What is bound alike by name is put together alike. -/
theorem instanceOf_alike_of_bound (hfamily : family.Reordered family')
    (hregular : ∀ m ∈ family, m.Regular) (horder : family.Orderless) (hmem : m ∈ family)
    (hm : m.Reordered m') (hw : m.wraps = false) {data data' : Validation.Entries}
    (hlookup : ∀ decl ∈ m.fields, ∃ f, Schema.fieldOf m (.name decl.name) decl = .ok f ∧
      Option.Rel (Value.RearrangedIf (f.MayBind family)) (data.lookup decl.name)
        (data'.lookup decl.name))
    (hkeys : ∀ key, (¬ ∃ decl ∈ m.fields, key = decl.name) →
      data.lookup key = none ∧ data'.lookup key = none) :
    EndsAlike Value.Rearranged (Validation.instanceOf family m data)
      (Validation.instanceOf family' m' data') := by
  have hdata : Validation.EntriesAlike data data' := by
    intro key
    by_cases hkey : ∃ decl ∈ m.fields, key = decl.name
    · obtain ⟨decl, hd, rfl⟩ := hkey
      obtain ⟨f, -, hrel⟩ := hlookup decl hd
      exact Validation.option_rel_mono hrel fun _ _ => Value.RearrangedIf.rearranged
    · rw [(hkeys key hkey).1, (hkeys key hkey).2]
      exact .none
  refine Validation.instanceOf_alike hfamily hregular horder.tests hmem hm hdata
    fun read hread => ?_
  have hled := (hregular m hmem).led read hread
  refine Validation.foundAlike_of_entries hm hled hdata fun steps u u' hu hu' huu' => ?_
  obtain ⟨hway, hu⟩ := Validation.follow?_of_find? hu
  obtain ⟨-, hu'⟩ := Validation.follow?_of_find? hu'
  obtain ⟨head, rest, rfl⟩ := List.exists_cons_of_ne_nil (hled steps hway)
  obtain ⟨key, v, rfl, hv, hrest⟩ := Validation.exists_key_of_follow? hu
  obtain ⟨_, v', heq, hv', hrest'⟩ := Validation.exists_key_of_follow? hu'
  cases heq
  by_cases hkey : ∃ decl ∈ m.fields, key = decl.name
  · obtain ⟨decl, hd, rfl⟩ := hkey
    obtain ⟨f, hf, hrel⟩ := hlookup decl hd
    rw [hv, hv'] at hrel
    cases hrel with
    | some hvv' =>
      rcases hvv' with rfl | ⟨-, hbinds⟩
      · exact .inl (Option.some.inj (hrest.symm.trans hrest'))
      · refine .inr ⟨huu', horder.whole m hmem decl hd _ f hf v hbinds read hread u ?_⟩
        rw [Model.Reads, hw]
        exact ⟨rest, hway, hrest⟩
  · rw [(hkeys key hkey).1] at hv
    cases hv

/-- What is bound alike by position is wrapped alike. -/
theorem wrapperOf_alike_of_bound (hfamily : family.Reordered family')
    (hregular : ∀ m ∈ family, m.Regular) (horder : family.Orderless) (hmem : m ∈ family)
    (hw : m.wraps = true) {decl : FieldDecl} (hdecl : m.fields = [decl]) {i : Identifier}
    (hf : Schema.fieldOf m i decl = .ok f) {o o' : Option Value}
    (h : Option.Rel (Value.RearrangedIf (f.MayBind family)) o o') :
    EndsAlike Value.Rearranged (Validation.wrapperOf family m o)
      (Validation.wrapperOf family' m o') := by
  have hd : decl ∈ m.fields := by rw [hdecl]; exact List.mem_singleton_self decl
  refine Validation.wrapperOf_alike hfamily hregular horder.tests hmem hdecl ?_
  refine Validation.option_rel_mono h fun v w hvw => hvw.mono fun hbinds => ?_
  refine horder.whole m hmem decl hd i f hf v hbinds decl hd v ?_
  rw [Model.Reads, hw]
  rfl

/-- Instances are put together alike from what their fields are bound to. -/
theorem assemble_alike (hfamily : family.Reordered family') (hregular : ∀ m ∈ family, m.Regular)
    (horder : family.Orderless) {name : String}
    (hs : Schema.ofTarget family (.model name) = .ok s)
    (hs' : Schema.ofTarget family' (.model name) = .ok s')
    (hvs : List.Forall₂ P s.fields vs) (hvs' : List.Forall₂ P' s'.fields vs')
    (hbound : ∀ f ∈ s.fields, ∀ o o', P f o → P' f o' →
      Option.Rel (Value.RearrangedIf (f.MayBind family)) o o') :
    EndsAlike Value.Rearranged (assemble family s (boundOf s.fields vs))
      (assemble family' s' (boundOf s'.fields vs')) := by
  obtain ⟨m, hname, hof⟩ := Schema.ofTarget_eq_ok hs
  obtain ⟨m', hname', hof'⟩ := Schema.ofTarget_eq_ok hs'
  have hm : m.Reordered m' := by
    have hmodel := hfamily.model? name
    rw [hname, hname'] at hmodel
    cases hmodel with | some hm => exact hm
  have hmem := Family.mem_of_model? hname
  obtain rfl := Family.name_of_model? hname
  rw [assemble_eq hname hof, assemble_eq (hm.name.symm ▸ hname') hof', hm.wraps]
  apply EndsAlike.mapError
  cases hw : m.wraps with
  | true =>
    rw [if_pos rfl, if_pos rfl]
    obtain ⟨decl, hdecl⟩ := (hregular m hmem).single hw
    obtain rfl := hm.eq_of_single hdecl
    obtain rfl : s' = s := Except.ok.inj (hof'.symm.trans hof)
    obtain ⟨f, hf, hid⟩ := Schema.exists_field_of_wraps hof hw hdecl
    obtain ⟨g, hg, i, hfield⟩ := Schema.exists_spec hof (hdecl ▸ List.mem_singleton_self decl)
    rw [hf] at hg hvs hvs' hbound ⊢
    obtain rfl := List.mem_singleton.1 hg
    obtain ⟨o, _, ho, hnil, rfl⟩ := List.forall₂_cons_left_iff.1 hvs
    obtain ⟨o', _, ho', hnil', rfl⟩ := List.forall₂_cons_left_iff.1 hvs'
    obtain rfl := List.forall₂_nil_left_iff.1 hnil
    obtain rfl := List.forall₂_nil_left_iff.1 hnil'
    rw [← hid, lookup_boundOf_singleton, lookup_boundOf_singleton]
    exact wrapperOf_alike_of_bound hfamily hregular horder hmem hw hdecl hfield
      (hbound g List.mem_cons_self o o' ho ho')
  | false =>
    rw [if_neg Bool.false_ne_true, if_neg Bool.false_ne_true]
    refine instanceOf_alike_of_bound hfamily hregular horder hmem hm hw (fun decl hd => ?_) ?_
    · exact lookup_alike hm hof hof' hw (hregular m hmem).distinct hvs hvs' hbound hd
    · intro key hkey
      refine ⟨lookup_boundOf_eq_none hof hw hkey,
        lookup_boundOf_eq_none hof' (hm.wraps.trans hw) ?_⟩
      simpa only [hm.fields.mem_iff] using hkey

end

/-! ## Whole runs -/

theorem makes_of_performs {depth : Nat} {name : String} {s : Schema}
    (hs : Schema.ofTarget b.family (.model name) = .ok s) {scope : Option ν} {presets : Bound}
    {calls : List (Call ν)} {v : Value} (h : b.Performs depth s scope presets calls (.ok v)) :
    b.family.Makes name v := by
  cases depth with
  | zero => cases h.2
  | succ depth =>
    obtain ⟨values, -, h⟩ := h
    obtain ⟨vs, -, h⟩ := bind_eq_ok.1 h.symm
    exact ⟨s, _, hs, h⟩

/-- The fields of a reordered schema are handled alike, each in another turn. -/
theorem bind_inTurn_alike
    {each each' : FieldSpec → List (Call ν) → Except Failure (Option Value) → Prop}
    {R : FieldSpec → Option Value → Option Value → Prop} {fs fs' : List FieldSpec}
    (hperm : fs.Perm fs') (h : ∀ f ∈ fs, RunsAlike (R f) (each f) (each' f))
    {calls calls' : List (Call ν)} {values values' : Except Failure (List (Option Value))}
    (hturn : InTurn each fs calls values) (hturn' : InTurn each' fs' calls' values')
    {g g' : List (Option Value) → Except Failure Value}
    (hg : ∀ vs vs', List.Forall₂ (fun f o => ∃ calls, each f calls (.ok o)) fs vs →
      List.Forall₂ (fun f o => ∃ calls, each' f calls (.ok o)) fs' vs' →
      EndsAlike Value.Rearranged (g vs) (g' vs')) :
    EndsAlike Value.Rearranged (values >>= g) (values' >>= g') := by
  rcases values with e | vs <;> rcases values' with e' | vs'
  · trivial
  · obtain ⟨f, hf, calls, hfails⟩ := hturn.exists_error
    obtain ⟨o, -, calls', hgives⟩ := exists_mem_right hturn'.forall₂_ok (hperm.mem_iff.1 hf)
    exact (h f hf _ _ _ _ hfails hgives).elim
  · obtain ⟨f, hf, calls, hfails⟩ := hturn'.exists_error
    have hf := hperm.mem_iff.2 hf
    obtain ⟨o, -, calls', hgives⟩ := exists_mem_right hturn.forall₂_ok hf
    exact (h f hf _ _ _ _ hgives hfails).elim
  · exact hg vs vs' hturn.forall₂_ok hturn'.forall₂_ok

/-- Instances are built alike in both orders, to every depth. -/
theorem performs_alike (hfamily : b.family.Reordered family')
    (hregular : ∀ m ∈ b.family, m.Regular) (horder : b.family.Orderless)
    (hsteady : b.family.Steady) (depth : Nat) {name : String} {s s' : Schema}
    (hs : Schema.ofTarget b.family (.model name) = .ok s)
    (hs' : Schema.ofTarget family' (.model name) = .ok s') (scope : Option ν) (presets : Bound) :
    RunsAlike Value.Rearranged (b.Performs depth s scope presets)
      (Performs { b with family := family' } depth s' scope presets) := by
  induction depth generalizing name s s' scope presets with
  | zero =>
    rintro calls calls' x x' ⟨-, rfl⟩ ⟨-, rfl⟩
    trivial
  | succ depth ih =>
    rintro calls calls' x x' ⟨values, hturn, rfl⟩ ⟨values', hturn', rfl⟩
    obtain ⟨t, ht, hreordered⟩ := hfamily.ofTarget (fun m hm => (hregular m hm).single) hs
    obtain rfl : t = s' := Except.ok.inj (ht.symm.trans hs')
    have hnests : ∀ f, NestsAlike b.family
        (fun inner n calls x => ∃ t, Schema.ofTarget b.family (.model inner) = .ok t ∧
          b.Performs depth t (some n) [] calls x)
        (fun inner n calls x => ∃ t, Schema.ofTarget family' (.model inner) = .ok t ∧
          Performs { b with family := family' } depth t (some n) [] calls x) f := by
      rintro f inner n - calls calls' x x' ⟨t, ht, hx⟩ ⟨t', ht', hx'⟩
      exact (ih ht ht' (some n) [] _ _ _ _ hx hx').and_left fun v hv =>
        makes_of_performs ht (hv ▸ hx)
    have hhandles := fun f (hf : f ∈ s.fields) => b.handles_alike family' (hnests f)
      (fun t ht => hsteady.transform hs hf ht) (horder.blind hs hf) scope presets
    refine bind_inTurn_alike hreordered.fields hhandles hturn hturn' fun vs vs' hvs hvs' => ?_
    refine assemble_alike hfamily hregular horder hs hs' hvs hvs' ?_
    rintro f hf o o' ⟨calls, ho⟩ ⟨calls', ho'⟩
    exact hhandles f hf _ _ _ _ ho ho'

/-- Presets are accepted in both orders, or in neither. -/
theorem checkPresets_reordered {s s' : Schema} (h : s.Reordered s') (presets : Bound) :
    checkPresets s' presets = checkPresets s presets := by
  have hignored : ∀ i, ((s'.fields.filter (·.mode == .ignore)).map (·.identifier)).contains i =
      ((s.fields.filter (·.mode == .ignore)).map (·.identifier)).contains i := fun i =>
    ((h.fields.symm.filter _).map _).contains_eq
  unfold checkPresets unknownPresets
  simp only [hignored, h.target]

/-- The order in which fields are declared changes no value. Two families that differ in this order
alone, in any of their models, give the same value for every field at every depth, or both fail, if
transforms keep no state and nothing looks at the order of the fields of an instance. -/
theorem the_order_of_declarations_changes_no_value (b : Binder ν) {family' : Family}
    (hfamily : b.family.Reordered family') (hregular : ∀ m ∈ b.family, m.Regular)
    (hsteady : b.family.Steady) (horder : b.family.Orderless) {name : String} {s : Schema}
    (hs : (Registry.register b.family .empty name).result = .ok s) (scope : Option ν)
    (presets : Bound) (w w' : World ν) (hw : Registry.Faithful b.family w.registry)
    (hw' : Registry.Faithful family' w'.registry) :
    EndsAlike Value.Rearranged ((b.materialize (.model name) scope presets).run.run w).1
      ((materialize { b with family := family' } (.model name) scope presets).run.run w').1 := by
  have hsingle : b.family.Single := fun m hm => (hregular m hm).single
  have hof := Registry.ofTarget_of_register_ok (Registry.faithful_empty b.family) hs
  have hd := (Registry.settled_of_register_ok hs).not_doomed
  obtain ⟨s', hof', hss'⟩ := hfamily.ofTarget hsingle hof
  have hd' : ¬ family'.Doomed name := mt (hfamily.doomed hsingle) hd
  obtain ⟨-, calls, -, hrun⟩ := b.does_materialize hd hof scope presets w hw
  obtain ⟨-, calls', -, hrun'⟩ :=
    does_materialize { b with family := family' } hd' hof' scope presets w' hw'
  rw [checkPresets_reordered hss'] at hrun'
  rcases hpresets : checkPresets s presets with e | u <;> rw [hpresets] at hrun hrun'
  · rw [hrun.2, hrun'.2]
    trivial
  · have hdepth : depth { b with family := family' } = b.depth := by
      unfold depth
      rw [hfamily.length_eq]
    rw [hdepth] at hrun'
    exact performs_alike hfamily hregular horder hsteady b.depth hof hof' scope presets _ _ _ _
      hrun hrun'

/-- The fields of a model, from the last to the first. -/
def reversed (m : Model) : Model := { m with fields := m.fields.reverse }

theorem reordered_reversed (family : Family) : family.Reordered (family.map reversed) := by
  rw [Family.Reordered, List.forall₂_map_right_iff, List.forall₂_same]
  exact fun m _ => ⟨rfl, rfl, rfl, rfl, (List.reverse_perm m.fields).symm⟩

/-- An album has a title and tracks; a track has minutes, which are made a number, and a name. -/
def albums : Family :=
  [.plain "Album" [.bound "title" .text (.scrape "title" none none) none,
      .bound "tracks" (.list (.model "Track")) (.scrape "track" none none) none],
    .plain "Track" [.bound "minutes" .integer (.scrape "minutes" (some .toInt) none) none,
      .bound "name" .text (.scrape "name" none none) none]]

/-- A document with two tracks. -/
def blue : Document Bool :=
  ⟨fun query scope =>
      if query = "title" then .ok [.text "Blue"]
      else if query = "track" then .ok [.node true, .node false]
      else if query = "name" then .ok [.text "All I Want"]
      else if scope = some true then .ok [.text "3"]
      else .ok [.text "4"],
    fun _ => .ok "", 2⟩

theorem albums_regular : ∀ m ∈ albums, m.Regular := by
  rw [albums, List.forall_mem_cons, List.forall_mem_singleton]
  constructor <;> constructor <;>
    simp [Model.plain, FieldDecl.bound, Validation.waysTo, FieldDecl.readingAlias?]

theorem albums_straight : ∀ m ∈ albums, m.Straight := by
  rw [albums, List.forall_mem_cons, List.forall_mem_singleton]
  constructor
  · constructor
    case untransformed =>
      intro decl hd i f hf ht
      simp only [Model.plain, List.mem_cons, List.not_mem_nil, or_false] at hd
      rcases hd with rfl | rfl <;> cases hf <;> rfl
    all_goals simp [Model.plain, FieldDecl.bound, FieldDecl.readingAlias?, Directive.scrape]
  · constructor
    case untransformed =>
      intro decl hd i f hf ht
      simp only [Model.plain, List.mem_cons, List.not_mem_nil, or_false] at hd
      rcases hd with rfl | rfl <;> cases hf
      · exact absurd rfl ht
      · rfl
    all_goals simp [Model.plain, FieldDecl.bound, FieldDecl.readingAlias?, Directive.scrape]

def trackValue (minutes : Int) : Value :=
  .record "Track" [("minutes", .int minutes), ("name", .text "All I Want")]

def reversedTrackValue (minutes : Int) : Value :=
  .record "Track" [("name", .text "All I Want"), ("minutes", .int minutes)]

theorem steady_toInt : Transform.toInt.Steady := by
  intro v calls calls'
  simp only [Transform.apply]
  cases Transform.lift Transform.toIntItem v <;> rfl

/-- An album whose fields, and those of whose tracks, are declared the other way round, is the same
in every field. -/
theorem an_album_is_the_same_the_other_way_round :
    (Value.record "Album" [("title", .text "Blue"),
        ("tracks", .list [trackValue 3, trackValue 4])]).Rearranged
      (.record "Album" [("tracks", .list [reversedTrackValue 3, reversedTrackValue 4]),
        ("title", .text "Blue")]) := by
  have hrun : ((materialize ⟨albums, blue, .error⟩ (.model "Album") none []).run.run
      ⟨.empty, [], .initial .standard, []⟩).1 = .ok (.record "Album" [("title", .text "Blue"),
        ("tracks", .list [trackValue 3, trackValue 4])]) := by
    cbv
  have hrun' : ((materialize ⟨albums.map reversed, blue, .error⟩ (.model "Album") none []).run.run
      ⟨.empty, [], .initial .standard, []⟩).1 = .ok (.record "Album"
        [("tracks", .list [reversedTrackValue 3, reversedTrackValue 4]),
          ("title", .text "Blue")]) := by
    cbv
  have hsteady : albums.Steady := by
    simp [Family.Steady, albums, Model.plain, FieldDecl.bound, Directive.scrape, steady_toInt]
  have hregister : ∃ s, (Registry.register albums .empty "Album").result = .ok s := ⟨_, rfl⟩
  obtain ⟨s, hs⟩ := hregister
  have h := the_order_of_declarations_changes_no_value ⟨albums, blue, .error⟩
    (reordered_reversed albums) albums_regular hsteady
    (Family.orderless_of_straight albums_regular albums_straight) hs none []
    ⟨.empty, [], .initial .standard, []⟩ ⟨.empty, [], .initial .standard, []⟩
    (Registry.faithful_empty _) (Registry.faithful_empty _)
  rw [hrun, hrun'] at h
  exact h

/-- A size has a width and a height. -/
def sizes : Model :=
  .plain "Size" [.bound "width" .text (.scrape "w" none none) none,
    .bound "height" .text (.scrape "h" none none) none]

/-- A card has a label, which is made a text; a label wraps a size. -/
def cards : Family :=
  [.plain "Card" [.bound "label" (.model "Label") (.scrape "card" (some .text) none) none],
    ⟨"Label", [.bound "root" (.union false [.model "Size", .text]) .useDefault
        (some (.mapping [("width", .text "1"), ("height", .text "2")]))], true,
      ⟨false, false, false, false, false⟩, []⟩,
    sizes]

def oneCard : Document Unit := ⟨fun _ _ => .ok [.node ()], fun _ => .ok "", 1⟩

/-- A check that takes a value only behind a base. -/
def behindBase (earlier : Validation.Entries) (v : Value) : Option Value :=
  (earlier.lookup "base").map fun _ => v

/-- A link has a base and an address, which is taken only behind the base. -/
def links : Family :=
  [.plain "Link" [.bound "base" .text (.scrape "base" none none) none,
    { FieldDecl.bound "address" .text (.scrape "address" none none) none with
      checks := [⟨.custom behindBase, ⟨"", false⟩⟩] }]]

/-- A document in which every query matches its own text. -/
def namesake : Document Unit := ⟨fun query _ => .ok [.text query], fun _ => .ok "", 1⟩

theorem steady_text : Transform.text.Steady := fun _ _ _ => rfl

/-- The text of a label names the fields of its size in the order in which they are declared. And a
check that reads another field tells whether this field is declared before its own. -/
theorem a_label_tells_in_which_order_its_size_is_declared :
    ((∀ m ∈ cards, m.Regular) ∧ cards.Steady ∧ cards.Reordered (cards.map reversed) ∧
      (∃ s, (Registry.register cards .empty "Card").result = .ok s) ∧
      ∃ v v', ((materialize ⟨cards, oneCard, .error⟩ (.model "Card") none []).run.run
          ⟨.empty, [], .initial .standard, []⟩).1 = .ok v ∧
        ((materialize ⟨cards.map reversed, oneCard, .error⟩ (.model "Card") none []).run.run
          ⟨.empty, [], .initial .standard, []⟩).1 = .ok v' ∧ ¬ v.Rearranged v') ∧
    ((∀ m ∈ links, m.Regular) ∧ links.Steady ∧ links.Reordered (links.map reversed) ∧
      (∃ s, (Registry.register links .empty "Link").result = .ok s) ∧
      ∃ v e, ((materialize ⟨links, namesake, .error⟩ (.model "Link") none []).run.run
          ⟨.empty, [], .initial .standard, []⟩).1 = .ok v ∧
        ((materialize ⟨links.map reversed, namesake, .error⟩ (.model "Link") none []).run.run
          ⟨.empty, [], .initial .standard, []⟩).1 = .error e) := by
  constructor
  · refine ⟨?_, ?_, reordered_reversed cards, ⟨_, rfl⟩,
      .record "Card" [("label", .rooted "Label" (.text "root=Size(width='1', height='2')"))],
      .record "Card" [("label", .rooted "Label" (.text "root=Size(height='2', width='1')"))],
      by cbv, by cbv, ?_⟩
    · rw [cards, List.forall_mem_cons, List.forall_mem_cons, List.forall_mem_singleton]
      refine ⟨?_, ?_, ?_⟩ <;> constructor <;>
        simp [sizes, Model.plain, FieldDecl.bound, Validation.waysTo, FieldDecl.readingAlias?]
    · simp [Family.Steady, cards, sizes, Model.plain, FieldDecl.bound, Directive.scrape,
        Directive.useDefault, steady_text]
    · simp [Value.Rearranged, Value.RearrangedEntries]
  · refine ⟨?_, ?_, reordered_reversed links, ⟨_, rfl⟩,
      .record "Link" [("base", .text "base"), ("address", .text "address")],
      .extraction [.name "address"] (.conversion (.validation "Value error, ")),
      by cbv, by cbv⟩
    · rw [links, List.forall_mem_singleton]
      constructor <;>
        simp [Model.plain, FieldDecl.bound, Validation.waysTo, FieldDecl.readingAlias?]
    · simp [Family.Steady, links, Model.plain, FieldDecl.bound, Directive.scrape]

/-- The sides of a box are found under the alias of its size. -/
def boxes : Family :=
  [⟨"Box", [.bound "size" (.model "Size") (.scrape "box" none none) none,
      ⟨"sides", .bareList, [.ignore], some (.list []), none, some "size", none,
        ⟨none, none, none, none⟩, []⟩], false, ⟨true, false, false, false, false⟩, []⟩, sizes]

def oneBox : Document Unit :=
  ⟨fun query _ => .ok (if query = "box" then [.node ()] else [.text query]), fun _ => .ok "", 1⟩

/-- An instance that is read as a list gives its fields in the order in which they are declared. -/
example : ((materialize ⟨boxes, oneBox, .error⟩ (.model "Box") none []).run.run
      ⟨.empty, [], .initial .standard, []⟩).1 = .ok (.record "Box"
        [("size", .record "Size" [("width", .text "w"), ("height", .text "h")]),
          ("sides", .list [.tuple [.text "width", .text "w"],
            .tuple [.text "height", .text "h"]])]) ∧
    ((materialize ⟨boxes.map reversed, oneBox, .error⟩ (.model "Box") none []).run.run
      ⟨.empty, [], .initial .standard, []⟩).1 = .ok (.record "Box"
        [("sides", .list [.tuple [.text "height", .text "h"], .tuple [.text "width", .text "w"]]),
          ("size", .record "Size" [("height", .text "h"), ("width", .text "w")])]) := by
  constructor <;> cbv

end Binder

end QueryBinding
