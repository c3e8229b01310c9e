-- Directives decide how fields are bound, and nothing else. Validation reads none
-- of them; and of models that differ in how one field rests on its default, the
-- schemas differ in that field alone.
import QueryBinding.Proofs.Acceptance
import QueryBinding.Proofs.Preorder

namespace QueryBinding

/-! ## Other directives -/

namespace FieldDecl

/-- The same field with other directives. -/
def redirect (ds : FieldDecl → List Directive) (f : FieldDecl) : FieldDecl :=
  { f with directives := ds f }

end FieldDecl

namespace Model

/-- The same model, its fields with other directives. -/
def redirect (ds : FieldDecl → List Directive) (m : Model) : Model :=
  { m with fields := m.fields.map (·.redirect ds) }

theorem redirect_self (m : Model) : m.redirect (·.directives) = m := by
  have hfields : m.fields.map (·.redirect (·.directives)) = m.fields := List.map_id _
  unfold redirect
  rw [hfields]

end Model

namespace Family

/-- The same family, all fields with other directives. -/
def redirect (ds : Model → FieldDecl → List Directive) (family : Family) : Family :=
  family.map fun m => m.redirect (ds m)

theorem model?_redirect (ds : Model → FieldDecl → List Directive) (family : Family)
    (name : String) :
    (family.redirect ds).model? name = (family.model? name).map fun m => m.redirect (ds m) := by
  unfold model? redirect
  rw [List.find?_map]
  rfl

end Family

/-! ## Validation -/

namespace Validation

variable (ds : FieldDecl → List Directive) (build : Build) (m : Model) (data : Entries)

theorem usedKeys_redirect : usedKeys (m.redirect ds) data = usedKeys m data := by
  unfold usedKeys
  rw [Model.redirect, List.filterMap_map]
  rfl

theorem extraIssues_redirect : extraIssues (m.redirect ds) data = extraIssues m data := by
  unfold extraIssues
  rw [usedKeys_redirect]
  rfl

theorem readEach_redirect (fs : List FieldDecl) (earlier : Entries) :
    readEach build (m.redirect ds) data (fs.map (·.redirect ds)) earlier =
      readEach build m data fs earlier := by
  induction fs generalizing earlier with
  | nil => rfl
  | cons f fs ih =>
    have hfield : readField build (m.redirect ds) data (f.redirect ds) earlier =
        readField build m data f earlier := rfl
    rw [List.map_cons, readEach, readEach, hfield, ih]
    simp only [ih]
    rfl

theorem readFields_redirect : readFields build (m.redirect ds) data = readFields build m data := by
  have hfields : readEach build (m.redirect ds) data (m.redirect ds).fields [] =
      readEach build m data m.fields [] := readEach_redirect ds build m data m.fields []
  unfold readFields
  rw [hfields, extraIssues_redirect]

theorem recordOf_redirect : recordOf build (m.redirect ds) data = recordOf build m data := by
  have hprepare : prepare (m.redirect ds) data = prepare m data := rfl
  unfold recordOf
  rw [hprepare, readFields_redirect]
  rfl

theorem rootedOf_redirect (own : Option Value) :
    rootedOf build (m.redirect ds) own = rootedOf build m own := by
  have hhead : (m.redirect ds).fields.head? = m.fields.head?.map (·.redirect ds) := List.head?_map
  unfold rootedOf
  rw [hhead]
  cases m.fields.head? <;> rfl

theorem buildWithin_redirect (ds : Model → FieldDecl → List Directive) (family : Family)
    (depth size : Nat) (busy : List String) :
    buildWithin (family.redirect ds) depth size busy = buildWithin family depth size busy := by
  induction depth generalizing size busy with
  | zero => rfl
  | succ depth ih =>
    funext name v
    unfold buildWithin
    rw [Family.model?_redirect]
    cases family.model? name with
    | none => rfl
    | some m =>
      simp only [Option.map_some, ih, rootedOf_redirect, recordOf_redirect]
      rfl

theorem builder_redirect (ds : Model → FieldDecl → List Directive) (family : Family)
    (own : Option Value) :
    builder (family.redirect ds) (m.redirect (ds m)) own = builder family m own := by
  cases own <;> exact buildWithin_redirect ds family _ _ _

theorem instanceOf_redirect (ds : Model → FieldDecl → List Directive) (family : Family) :
    instanceOf (family.redirect ds) (m.redirect (ds m)) data = instanceOf family m data := by
  rw [instanceOf, builder_redirect, recordOf_redirect]
  rfl

theorem wrapperOf_redirect (ds : Model → FieldDecl → List Directive) (family : Family)
    (own : Option Value) :
    wrapperOf (family.redirect ds) (m.redirect (ds m)) own = wrapperOf family m own := by
  rw [wrapperOf, builder_redirect, rootedOf_redirect]
  rfl

end Validation

/-! ## One field with another directive -/

/-- A directive that names a mode and nothing else. -/
def Directive.silent (mode : BindingMode) : Directive := ⟨none, none, none, some mode⟩

/-- The directives of fields when the field of one name is bound by one other directive. -/
def FieldDecl.rebound (field : String) (d : Directive) (f : FieldDecl) : List Directive :=
  if f.name = field then [d] else f.directives

namespace Model

def rebind (field : String) (d : Directive) (m : Model) : Model :=
  m.redirect (FieldDecl.rebound field d)

/-- The directives of fields when that happens in the model of one name. -/
def reboundAt (name field : String) (d : Directive) (m : Model) : FieldDecl → List Directive :=
  if m.name = name then FieldDecl.rebound field d else (·.directives)

variable {name field : String} {d : Directive} {m : Model}

theorem redirect_reboundAt_self (h : m.name = name) :
    m.redirect (m.reboundAt name field d) = m.rebind field d := by
  rw [reboundAt, if_pos h, rebind]

theorem redirect_reboundAt_ne (h : m.name ≠ name) : m.redirect (m.reboundAt name field d) = m := by
  rw [reboundAt, if_neg h, redirect_self]

theorem Declared.rebind (h : m.Declared) (field : String) (d : Directive) :
    (m.rebind field d).Declared := by
  constructor
  · have hnames : (m.rebind field d).fields.map (·.name) = m.fields.map (·.name) := by
      rw [Model.rebind, redirect, List.map_map]
      rfl
    rw [hnames]
    exact h.distinct
  · intro hw
    obtain ⟨f, hf⟩ := h.single hw
    exact ⟨f.redirect (FieldDecl.rebound field d), by rw [Model.rebind, redirect, hf]; rfl⟩

end Model

/-- The same family, one field of one model bound by one other directive. -/
def Family.rebind (name field : String) (d : Directive) (family : Family) : Family :=
  family.redirect (Model.reboundAt name field d)

/-- The same family, one field of one model not queried but resting on its default. -/
def Family.resting (m : Model) (decl : FieldDecl) (mode : BindingMode) (family : Family) : Family :=
  family.rebind m.name decl.name (.silent mode)

namespace Family

variable {family : Family} {name field : String} {d : Directive} {m : Model}

theorem model?_rebind_self (hm : family.model? name = some m) :
    (family.rebind name field d).model? name = some (m.rebind field d) := by
  rw [rebind, model?_redirect, hm, Option.map_some,
    Model.redirect_reboundAt_self (name_of_model? hm)]

theorem model?_rebind_ne {other : String} (h : other ≠ name) :
    (family.rebind name field d).model? other = family.model? other := by
  rw [rebind, model?_redirect]
  cases hm : family.model? other with
  | none => rfl
  | some m =>
    have hne : m.name ≠ name := by
      rw [name_of_model? hm]
      exact h
    rw [Option.map_some, Model.redirect_reboundAt_ne hne]

end Family

namespace Validation

variable {field : String} {d : Directive} (family : Family) (m : Model)

theorem instanceOf_rebind (data : Entries) :
    instanceOf (family.rebind m.name field d) (m.rebind field d) data =
      instanceOf family m data := by
  rw [← Model.redirect_reboundAt_self rfl]
  exact instanceOf_redirect m data (Model.reboundAt m.name field d) family

theorem wrapperOf_rebind (own : Option Value) :
    wrapperOf (family.rebind m.name field d) (m.rebind field d) own = wrapperOf family m own := by
  rw [← Model.redirect_reboundAt_self rfl]
  exact wrapperOf_redirect m (Model.reboundAt m.name field d) family own

theorem instanceOf_rebind_ne {m : Model} {name : String} (h : m.name ≠ name) (data : Entries) :
    instanceOf (family.rebind name field d) m data = instanceOf family m data := by
  have hsame := instanceOf_redirect m data (Model.reboundAt name field d) family
  rw [Model.redirect_reboundAt_ne h] at hsame
  exact hsame

theorem wrapperOf_rebind_ne {m : Model} {name : String} (h : m.name ≠ name) (own : Option Value) :
    wrapperOf (family.rebind name field d) m own = wrapperOf family m own := by
  have hsame := wrapperOf_redirect m (Model.reboundAt name field d) family own
  rw [Model.redirect_reboundAt_ne h] at hsame
  exact hsame

end Validation

namespace Schema

variable {m : Model} {before after : List FieldDecl} {decl : FieldDecl} {v : Value}

theorem fieldsFrom_append (m : Model) (index : Nat) (fs gs : List FieldDecl) :
    fieldsFrom m index (fs ++ gs) = (do
      let xs ← fieldsFrom m index fs
      let ys ← fieldsFrom m (index + fs.length) gs
      return xs ++ ys) := by
  induction fs generalizing index with
  | nil =>
    rw [List.nil_append]
    change fieldsFrom m index gs = (do
      let ys ← fieldsFrom m index gs
      return [] ++ ys)
    cases fieldsFrom m index gs <;> rfl
  | cons f fs ih =>
    rw [List.cons_append, fieldsFrom_cons, fieldsFrom_cons, ih, List.length_cons, ← Nat.add_assoc,
      Nat.add_right_comm]
    cases fieldOf m (identifierOf m index f) f with
    | error cause => rfl
    | ok x =>
      cases fieldsFrom m (index + 1) fs with
      | error e => rfl
      | ok xs => cases fieldsFrom m (index + fs.length + 1) gs <;> rfl

theorem fieldsFrom_redirect (ds : FieldDecl → List Directive) (m : Model) (index : Nat)
    (fs : List FieldDecl) : fieldsFrom (m.redirect ds) index fs = fieldsFrom m index fs := by
  induction fs generalizing index with
  | nil => rfl
  | cons f fs ih =>
    rw [fieldsFrom_cons, fieldsFrom_cons, ih]
    rfl

theorem fields_rebind (hfields : m.fields = before ++ decl :: after)
    (hn : (m.fields.map (·.name)).Nodup) (d : Directive) :
    (m.rebind decl.name d).fields = before ++ { decl with directives := [d] } :: after := by
  have hother : ∀ {fs : List FieldDecl}, (∀ f ∈ fs, f.name ≠ decl.name) →
      fs.map (·.redirect (FieldDecl.rebound decl.name d)) = fs := by
    intro fs hfs
    have hsame : fs.map (·.redirect (FieldDecl.rebound decl.name d)) = fs.map id := by
      refine List.map_congr_left fun f hf => ?_
      rw [FieldDecl.redirect, FieldDecl.rebound, if_neg (hfs f hf)]
      rfl
    rw [hsame, List.map_id]
  rw [hfields, List.map_append, List.map_cons] at hn
  have hbefore : ∀ f ∈ before, f.name ≠ decl.name := fun f hf =>
    (List.nodup_append.1 hn).2.2 _ (List.mem_map_of_mem hf) _ List.mem_cons_self
  have hafter : ∀ f ∈ after, f.name ≠ decl.name := fun f hf heq =>
    (List.nodup_cons.1 (List.nodup_append.1 hn).2.1).1 (heq ▸ List.mem_map_of_mem hf)
  unfold Model.rebind Model.redirect
  rw [hfields, List.map_append, List.map_cons, hother hbefore, hother hafter, FieldDecl.redirect,
    FieldDecl.rebound, if_pos rfl]

/-- A field that rests on its default is accepted, unless it has an alias. -/
theorem fieldOf_resting {identifier : Identifier} {mode : BindingMode} (hq : mode.queries = false)
    (hv : decl.default? = some v) :
    fieldOf m identifier { decl with directives := [.silent mode] } =
      (if m.wraps then .ok () else checkAliases m decl).map fun _ =>
        .resting identifier mode v := by
  have hbinding : bindingOf identifier (.silent mode) { decl with directives := [.silent mode] } =
      .ok (.resting identifier mode v) := bindingOf_of_rests rfl rfl rfl hq hv
  unfold fieldOf
  cases m.wraps with
  | true => exact hbinding
  | false =>
    have haliases :
      checkAliases m { decl with directives := [.silent mode] } = checkAliases m decl :=
      rfl
    dsimp only
    rw [haliases, hbinding]
    cases checkAliases m decl <;> rfl

/-- The parts of schemas that have one field rest on its default in different ways. -/
theorem exists_parts (hfields : m.fields = before ++ decl :: after)
    (hn : (m.fields.map (·.name)).Nodup) (hv : decl.default? = some v) :
    ∃ parts : Except SchemaFailure (List FieldSpec × List FieldSpec),
      ∀ mode : BindingMode, mode.queries = false →
        ofModel (m.rebind decl.name (.silent mode)) = parts.map fun p =>
          ⟨m.name, p.1 ++ .resting (identifierOf m before.length decl) mode v :: p.2, m.wraps⟩ := by
  refine ⟨do
    let fs ← fieldsFrom m 0 before
    let _ ← (if m.wraps then .ok () else checkAliases m decl).mapError fun cause =>
      ⟨m.name, cause, some (identifierOf m before.length decl)⟩
    let gs ← fieldsFrom m (before.length + 1) after
    return (fs, gs), fun mode hq => ?_⟩
  have hall : fieldsFrom (m.rebind decl.name (.silent mode)) 0
      (m.rebind decl.name (.silent mode)).fields =
      fieldsFrom m 0 (before ++ { decl with directives := [.silent mode] } :: after) := by
    rw [fields_rebind hfields hn, Model.rebind, fieldsFrom_redirect]
  have hid : identifierOf m before.length { decl with directives := [.silent mode] } =
      identifierOf m before.length decl := rfl
  unfold ofModel
  rw [hall, fieldsFrom_append, fieldsFrom_cons, Nat.zero_add, hid, fieldOf_resting hq hv]
  cases fieldsFrom m 0 before with
  | error e => rfl
  | ok fs =>
    cases (if m.wraps then .ok () else checkAliases m decl : Except SchemaCause Unit) with
    | error cause => rfl
    | ok u => cases fieldsFrom m (before.length + 1) after <;> rfl

/-- A field that rests on its default nests nothing. -/
theorem nested_resting (target : String) (fs gs : List FieldSpec) (identifier : Identifier)
    (mode : BindingMode) (v : Value) (positional : Bool) :
    Registry.nested ⟨target, fs ++ .resting identifier mode v :: gs, positional⟩ =
      Registry.nested ⟨target, fs ++ gs, positional⟩ := by
  unfold Registry.nested
  rw [List.filterMap_append, List.filterMap_append]
  rfl

theorem ofTarget_of_model? {family : Family} {name : String} (hm : family.model? name = some m) :
    ofTarget family (.model name) = ofModel m := by
  simp only [ofTarget, hm]

theorem ofTarget_rebind_ne {family : Family} {name other field : String} (h : other ≠ name)
    (d : Directive) :
    ofTarget (family.rebind name field d) (.model other) = ofTarget family (.model other) := by
  simp only [ofTarget, Family.model?_rebind_ne h]

end Schema

/-! ## Families that differ in one field -/

namespace Family

variable {family family' : Family}

/-- Two families whose models are refused alike and nest the same. -/
structure Abreast (family family' : Family) : Prop where
  length : family.length = family'.length
  refusal? : ∀ name, family.refusal? name = family'.refusal? name
  children : ∀ name, family.children name = family'.children name

theorem Abreast.symm (h : family.Abreast family') : family'.Abreast family :=
  ⟨h.length.symm, fun name => (h.refusal? name).symm, fun name => (h.children name).symm⟩

theorem Abreast.visitWithin (h : family.Abreast family') (depth : Nat) :
    family.visitWithin depth = family'.visitWithin depth := by
  induction depth with
  | zero => rfl
  | succ depth ih =>
    funext seen name
    rw [Family.visitWithin, Family.visitWithin, ih, h.children]

/-- Models are met in the same order on a walk. -/
theorem Abreast.preorder (h : family.Abreast family') (name : String) :
    family.preorder name = family'.preorder name := by
  rw [Family.preorder, Family.preorder, h.visitWithin, h.length]

theorem Abreast.doomed (h : family.Abreast family') {name : String} (hd : family.Doomed name) :
    family'.Doomed name := by
  have hrefusal : ∀ {family : Family} {name : String},
      family.Refuses name ↔ ∃ e, family.refusal? name = some e := by
    intro family name
    simp only [Refuses, refusal?_eq_some]
  obtain ⟨inner, hreaches, hrefuses⟩ := hd
  refine ⟨inner, mem_preorder.1 (h.preorder name ▸ mem_preorder.2 hreaches), ?_⟩
  rw [hrefusal, ← h.refusal?]
  exact hrefusal.1 hrefuses

/-- In closed registries, a registration fails alike. -/
theorem Abreast.register_error_iff (h : family.Abreast family') {r r' : Registry}
    (hr : Registry.Coherent family (fun _ => False) r)
    (hr' : Registry.Coherent family' (fun _ => False) r') (name : String) (e : SchemaFailure) :
    (Registry.register family r name).result = .error e ↔
      (Registry.register family' r' name).result = .error e := by
  have hrefusal : family.refusal? = family'.refusal? := funext h.refusal?
  rw [Registry.register_error_iff hr.faithful hr.closed,
    Registry.register_error_iff hr'.faithful hr'.closed, h.preorder, hrefusal]

/-- However a field rests on its default, models are refused alike and nest the same. -/
theorem abreast_resting {m : Model} {before after : List FieldDecl} {decl : FieldDecl} {v : Value}
    (hm : family.model? m.name = some m) (hfields : m.fields = before ++ decl :: after)
    (hn : (m.fields.map (·.name)).Nodup) (hv : decl.default? = some v) {mode mode' : BindingMode}
    (hq : mode.queries = false) (hq' : mode'.queries = false) :
    (family.resting m decl mode).Abreast (family.resting m decl mode') := by
  obtain ⟨parts, hparts⟩ := Schema.exists_parts hfields hn hv
  have hof : ∀ {mode : BindingMode}, mode.queries = false →
      Schema.ofTarget (family.resting m decl mode) (.model m.name) =
        parts.map fun p => ⟨m.name, p.1 ++
          .resting (Schema.identifierOf m before.length decl) mode v :: p.2, m.wraps⟩ := by
    intro mode hq
    rw [resting, Schema.ofTarget_of_model? (model?_rebind_self hm), hparts mode hq]
  refine ⟨?_, fun name => ?_, fun name => ?_⟩
  · unfold resting rebind redirect
    rw [List.length_map, List.length_map]
  · unfold refusal?
    by_cases hname : name = m.name
    · rw [hname, hof hq, hof hq']
      cases parts <;> rfl
    · rw [resting, resting, Schema.ofTarget_rebind_ne hname, Schema.ofTarget_rebind_ne hname]
  · unfold children
    by_cases hname : name = m.name
    · rw [hname, hof hq, hof hq']
      cases parts with
      | error e => rfl
      | ok p =>
        change Registry.nested _ = Registry.nested _
        rw [Schema.nested_resting, Schema.nested_resting]
    · rw [resting, resting, Schema.ofTarget_rebind_ne hname, Schema.ofTarget_rebind_ne hname]

end Family

end QueryBinding
