-- The types of queried fields. A shape is inferred from a declared type; a value
-- of the type is accepted as it is; and a model that declares nothing else is
-- put together from such values, and holds them.
import QueryBinding.Proofs.OwnValues

namespace QueryBinding

/-! ## Types and their shapes -/

namespace FieldType

/-- The shape and the mode that are inferred from a declared type. -/
inductive Infers : FieldType → TargetShape → BindingMode → Prop
  | text : Infers .text ⟨.scalar, none⟩ .required
  | textOrNone {a : FieldType} (h : a.unwrapOptional = (.text, true)) :
      Infers a ⟨.optionalScalar, none⟩ .optional
  | model (name : String) : Infers (.model name) ⟨.nestedOne, some (.model name)⟩ .required
  | modelOrNone {a : FieldType} {name : String} (h : a.unwrapOptional = (.model name, true)) :
      Infers a ⟨.nestedOne, some (.model name)⟩ .optional
  | texts : Infers (.list .text) ⟨.stringList, none⟩ .required
  | models (name : String) :
      Infers (.list (.model name)) ⟨.nestedList, some (.model name)⟩ .required

theorem eq_nothing_of_isNothing {a : FieldType} (h : a.isNothing = true) : a = .nothing := by
  cases a <;> first | rfl | cases h

theorem eq_of_unwrapOptional {a leaf : FieldType} (h : a.unwrapOptional = (leaf, false)) :
    leaf = a := by
  unfold unwrapOptional at h
  split at h
  · split at h
    · split at h <;> cases h
      rfl
    · cases h
      rfl
  · cases h
    rfl

/-- An optional type is a union of nothing and one other member. -/
theorem exists_union_of_unwrapOptional {a leaf : FieldType} (h : a.unwrapOptional = (leaf, true)) :
    ∃ long ms, a = .union long ms ∧ ms.filter (!·.isNothing) = [leaf] ∧
      ms.any isNothing = true := by
  unfold unwrapOptional at h
  split at h
  · rename_i long ms
    split at h
    · rename_i a' hfilter
      split at h
      · rename_i hany
        cases h
        exact ⟨long, ms, rfl, hfilter, hany⟩
      · cases h
    · cases h
  · cases h

theorem eq_list_of_unwrapList {a item : FieldType} (h : a.unwrapList = (item, true)) :
    a = .list item := by
  cases a <;> cases h
  rfl

theorem eq_of_unwrapList {a item : FieldType} (h : a.unwrapList = (item, false)) : item = a := by
  cases a <;> cases h <;> rfl

theorem infers_of_inferShape {a : FieldType} {shape : TargetShape} {mode : BindingMode}
    (h : Schema.inferShape a none false = .ok (shape, mode)) : a.Infers shape mode := by
  unfold Schema.inferShape at h
  rcases hu : a.unwrapOptional with ⟨inner, optional⟩
  rcases hl : inner.unwrapList with ⟨item, isList⟩
  simp only [hu, hl, Bool.or_false] at h
  cases isList with
  | true =>
    rw [if_pos rfl] at h
    cases optional with
    | true => cases h
    | false =>
      obtain rfl := eq_of_unwrapOptional hu
      obtain rfl := eq_list_of_unwrapList hl
      rw [if_neg Bool.false_ne_true] at h
      split at h
      · rename_i target ht
        cases h
        obtain ⟨name, rfl, rfl⟩ := Schema.modelOf?_eq_some ht
        exact .models name
      · split at h
        · rename_i hitem
          cases h
          obtain rfl := LawfulBEq.eq_of_beq hitem
          exact .texts
        · cases h
  | false =>
    obtain rfl := eq_of_unwrapList hl
    rw [if_neg Bool.false_ne_true] at h
    split at h
    · rename_i target ht
      cases h
      obtain ⟨name, rfl, rfl⟩ := Schema.modelOf?_eq_some ht
      cases optional with
      | true => exact .modelOrNone hu
      | false =>
        obtain rfl := eq_of_unwrapOptional hu
        exact .model name
    · split at h
      · rename_i hitem
        cases h
        obtain rfl := LawfulBEq.eq_of_beq hitem
        cases optional with
        | true => exact .textOrNone hu
        | false =>
          obtain rfl := eq_of_unwrapOptional hu
          exact .text
      · cases h

theorem Infers.queries {a : FieldType} {shape : TargetShape} {mode : BindingMode}
    (h : a.Infers shape mode) : mode.queries = true := by
  cases h <;> rfl

theorem mem_members_of_unwrapOptional {a leaf : FieldType} {optional : Bool}
    (h : a.unwrapOptional = (leaf, optional)) (hl : leaf.members = [leaf]) : leaf ∈ a.members := by
  cases optional with
  | true =>
    obtain ⟨long, ms, rfl, hfilter, -⟩ := exists_union_of_unwrapOptional h
    have hmem : leaf ∈ ms.filter (!·.isNothing) := by
      rw [hfilter]
      exact List.mem_singleton_self leaf
    exact List.mem_of_mem_filter hmem
  | false =>
    obtain rfl := eq_of_unwrapOptional h
    rw [hl]
    exact List.mem_singleton_self leaf

theorem nothing_mem_members {a leaf : FieldType} (h : a.unwrapOptional = (leaf, true)) :
    .nothing ∈ a.members := by
  obtain ⟨long, ms, rfl, -, hany⟩ := exists_union_of_unwrapOptional h
  obtain ⟨c, hc, hn⟩ := List.any_eq_true.1 hany
  obtain rfl := eq_nothing_of_isNothing hn
  exact hc

end FieldType

/-! ## Values of a type -/

/-- The value is of the type, or of a member of the union, just as it is. -/
def Value.Inhabits (v : Value) (a : FieldType) : Prop :=
  ∃ member ∈ a.members, Validation.isExact member v = true

namespace Validation

theorem isExact_model {name : String} {v : Value} :
    isExact (.model name) v = true ↔ v.IsInstance name := by
  cases v with
  | record m fields => simp only [isExact, Value.IsInstance, beq_iff_eq, eq_comm (a := name)]
  | rooted m root => simp only [isExact, Value.IsInstance, beq_iff_eq, eq_comm (a := name)]
  | _ => simp [isExact, Value.IsInstance]

theorem isExact_list {item : FieldType} {vs : List Value} :
    isExact (.list item) (.list vs) = true ↔ ∀ v ∈ vs, isExact item v = true := by
  simp [isExact]

/-- The items of the types that are queried: a text, or an instance of a model. -/
def IsLeaf (a : FieldType) : Prop := a = .text ∨ ∃ name, a = .model name

variable {a leaf : FieldType} {build : Build} {v : Value}

theorem isExact_of_inhabits (ha : a.members = [a]) (hv : v.Inhabits a) : isExact a v = true := by
  obtain ⟨member, hmem, hexact⟩ := hv
  rw [ha, List.mem_singleton] at hmem
  rw [← hmem]
  exact hexact

/-- A text is accepted as it is, and so is an instance of the declared model. -/
theorem check_leaf (hl : IsLeaf leaf) (h : isExact leaf v = true) : check build leaf v = .ok v := by
  rcases hl with rfl | ⟨name, rfl⟩
  · cases v with
    | text s => simp [check, checkText, Except.map]
    | _ => cases h
  · cases v with
    | record m fields =>
      have hm : m = name := isExact_model.1 h
      simp [check, hm]
    | rooted m root =>
      have hm : m = name := isExact_model.1 h
      simp [check, hm]
    | _ => cases h

/-- Results that are all good are collected as they are. -/
theorem collect_zipIdx {g : Value → Nat → Checked Value} {vs : List Value}
    (h : ∀ v ∈ vs, ∀ i, g v i = .ok v) (k : Nat) :
    collect ((vs.zipIdx k).map fun (x, i) => g x i) = .ok vs := by
  induction vs generalizing k with
  | nil => rfl
  | cons v vs ih =>
    have hrest := ih (fun u hu => h u (List.mem_cons_of_mem v hu)) (k + 1)
    rw [List.zipIdx_cons, List.map_cons, collect_cons_eq_ok]
    exact ⟨v, vs, h v List.mem_cons_self k, hrest, rfl⟩

theorem check_list (hl : IsLeaf leaf) (h : isExact (.list leaf) v = true) :
    check build (.list leaf) v = .ok v := by
  cases v with
  | list vs =>
    have hall := isExact_list.1 h
    have hcollect := collect_zipIdx (g := fun x i => located [.position i] (check build leaf x))
      (fun u hu i => located_eq_ok.2 (check_leaf hl (hall u hu))) 0
    simp only [check, itemsOf?, hcollect]
    rfl
  | _ => cases h

/-- Among the members of a union, one that a value fits exactly takes it. -/
theorem checkMembers_of_isExact {ms : List FieldType}
    (h : ∀ c ∈ ms, isExact c v = true → check build c v = .ok v)
    (hv : ∃ c ∈ ms, isExact c v = true) : checkMembers build ms v = .ok v := by
  have hexact : checkExact build ms v = some v := by
    induction ms with
    | nil =>
      obtain ⟨c, hc, -⟩ := hv
      cases hc
    | cons a ms ih =>
      by_cases ha : isExact a v = true
      · simp only [checkExact, ha, if_true, h a List.mem_cons_self ha]
      · obtain ⟨c, hc, hcv⟩ := hv
        have hc : c ∈ ms := by
          rcases List.mem_cons.1 hc with rfl | hc
          · exact absurd hcv ha
          · exact hc
        simp only [checkExact, ha]
        exact ih (fun d hd => h d (List.mem_cons_of_mem a hd)) ⟨c, hc, hcv⟩
  simp only [checkMembers, hexact]

theorem check_optional (ha : a.unwrapOptional = (leaf, true)) (hl : IsLeaf leaf)
    (hv : v.Inhabits a) : check build a v = .ok v := by
  obtain ⟨long, ms, rfl, hfilter, hany⟩ := FieldType.exists_union_of_unwrapOptional ha
  have hmember : ∀ c ∈ ms, isExact c v = true → check build c v = .ok v := by
    intro c hc hcv
    cases hn : c.isNothing with
    | true =>
      obtain rfl := FieldType.eq_nothing_of_isNothing hn
      cases v with
      | none => simp only [check]
      | _ => cases hcv
    | false =>
      have hleaf : c ∈ ms.filter (!·.isNothing) := List.mem_filter.2 ⟨hc, by rw [hn]; rfl⟩
      rw [hfilter, List.mem_singleton] at hleaf
      exact check_leaf (hleaf ▸ hl) hcv
  have hmembers := checkMembers_of_isExact hmember hv
  cases v with
  | none => simp only [check, hany, if_true]
  | _ => simpa only [check] using hmembers

/-- A value of a type that shapes are inferred from is accepted as it is. -/
theorem check_of_inhabits {shape : TargetShape} {mode : BindingMode} (ha : a.Infers shape mode)
    (hv : v.Inhabits a) : check build a v = .ok v := by
  cases ha with
  | text => exact check_leaf (.inl rfl) (isExact_of_inhabits rfl hv)
  | model name => exact check_leaf (.inr ⟨name, rfl⟩) (isExact_of_inhabits rfl hv)
  | texts => exact check_list (.inl rfl) (isExact_of_inhabits rfl hv)
  | models name => exact check_list (.inr ⟨name, rfl⟩) (isExact_of_inhabits rfl hv)
  | textOrNone h => exact check_optional h (.inl rfl) hv
  | modelOrNone h => exact check_optional h (.inr ⟨_, rfl⟩) hv

end Validation

/-! ## Models that declare nothing else -/

/-- Every field is queried or ignored, and nothing renames, limits, checks or transforms its
value. -/
structure Model.Unadorned (m : Model) : Prop where
  bound : ∀ f ∈ m.fields, f.directives = [.ignore] ∨
    ∃ query, f.directives = [.scrape query none none]
  unaliased : ∀ f ∈ m.fields, f.readingAlias? = none
  unlimited : ∀ f ∈ m.fields, f.limits = ⟨none, none, none, none⟩
  unchecked : ∀ f ∈ m.fields, f.checks = []
  whole : m.checks = []
  defaults : m.config.validateDefault = false
  extra : m.config.forbidExtra = false
  distinct : (m.fields.map (·.name)).Nodup
  single : m.wraps = true → ∃ f, m.fields = [f]

/-- A field of such a model is bound by its query, as its type calls for, or has a default. -/
theorem Model.Unadorned.fieldOf {m : Model} (h : m.Unadorned) {decl : FieldDecl}
    (hd : decl ∈ m.fields) {i : Identifier} {f : FieldSpec} (hf : Schema.fieldOf m i decl = .ok f) :
    f.transform = none ∧
      ((f.mode = .ignore ∧ decl.directives = [.ignore] ∧ ∃ v, decl.default? = some v) ∨
        ∃ query shape, decl.directives = [.scrape query none none] ∧ f.query = some query ∧
          f.shape = some shape ∧ decl.type.Infers shape f.mode) := by
  obtain ⟨d, hdir, hb, -⟩ := Schema.fieldOf_eq_ok hf
  have htransform := (Schema.bindingOf_eq_ok hb).2.2.2
  rcases h.bound decl hd with hignore | ⟨query, hscrape⟩
  · rw [hignore, List.cons.injEq] at hdir
    obtain rfl := hdir.1
    refine ⟨htransform, .inl ?_⟩
    unfold Schema.bindingOf at hb
    dsimp only [Directive.ignore] at hb
    split at hb
    · cases hb
    · rename_i hreq
      refine ⟨by rw [(Schema.fits_of_specOf hb (by simp)).2], hignore, ?_⟩
      rcases hv : decl.default? with _ | v
      · simp [FieldDecl.isRequired, hv] at hreq
      · exact ⟨v, rfl⟩
  · rw [hscrape, List.cons.injEq] at hdir
    obtain rfl := hdir.1
    refine ⟨htransform, .inr ?_⟩
    unfold Schema.bindingOf at hb
    dsimp only [Directive.scrape] at hb
    obtain ⟨⟨shape, mode⟩, hi, hb⟩ := bind_eq_ok.1 hb
    have hinfers := FieldType.infers_of_inferShape hi
    obtain rfl := (Schema.fits_of_specOf hb fun s hs => by
      cases hs
      exact Schema.inferShape_fits hi).2
    exact ⟨query, shape, hscrape, rfl, rfl, hinfers⟩

/-- What a field may be bound to: a value of its type, or nothing if it has a default. -/
def FieldDecl.Admits (decl : FieldDecl) : Option Value → Prop
  | some v => (∃ shape mode, decl.type.Infers shape mode) ∧ v.Inhabits decl.type
  | none => ∃ v, decl.default? = some v

namespace Validation

variable {m : Model} {decl : FieldDecl} {build : Build}

theorem keepsLimits_none (v : Value) : keepsLimits ⟨none, none, none, none⟩ v = .ok v := by
  have hlength : lengthIssue? ⟨none, none, none, none⟩ v = none := by
    cases v <;> rfl
  have hbound : boundIssue? ⟨none, none, none, none⟩ v = none := by
    unfold boundIssue?
    cases v.number? <;> rfl
  unfold keepsLimits
  rw [hlength, hbound]
  rfl

theorem checkField_unadorned (build : Build) (h : m.Unadorned) (hd : decl ∈ m.fields) {v : Value}
    (hv : decl.Admits (some v)) : checkField build decl [] v = .ok v := by
  obtain ⟨⟨shape, mode, hinfers⟩, hinhabits⟩ := hv
  have hcheck : check build decl.type v = .ok v := check_of_inhabits hinfers hinhabits
  have hlimits : keepsLimits decl.limits v = .ok v := by
    rw [h.unlimited decl hd]
    exact keepsLimits_none v
  have hchecks : passChecks [] decl.checks v = .ok v := by
    rw [h.unchecked decl hd]
    rfl
  exact bind_eq_ok.2 ⟨v, hcheck, bind_eq_ok.2 ⟨v, hlimits, hchecks⟩⟩

theorem defaultField_unadorned (h : m.Unadorned) {v : Value} (hv : decl.default? = some v) :
    defaultField build m decl [] = .ok v := by
  simp only [defaultField, hv, h.defaults, Bool.false_eq_true, if_false]

theorem find?_of_unaliased (m : Model) (h : decl.readingAlias? = none) (data : Entries) :
    find? m decl data = (data.lookup decl.name).map fun v => ([.name decl.name], v) := by
  have hways : waysTo m decl = [[.name decl.name]] := by
    simp only [waysTo, h]
  unfold find?
  rw [hways, List.findSome?_singleton, follow?_name]

/-- A field is read as it is bound, and takes a default where it is not. -/
theorem exists_readField_unadorned (build : Build) (h : m.Unadorned) (hd : decl ∈ m.fields)
    {data : Entries} (hv : decl.Admits (data.lookup decl.name)) :
    ∃ u, readField build m data decl [] = .ok u ∧
      ∀ v, data.lookup decl.name = some v → u = v := by
  unfold readField
  rw [find?_of_unaliased m (h.unaliased decl hd)]
  cases hl : data.lookup decl.name with
  | none =>
    rw [hl] at hv
    obtain ⟨u, hu⟩ := hv
    exact ⟨u, defaultField_unadorned h hu, by simp⟩
  | some v =>
    rw [hl] at hv
    exact ⟨v, located_eq_ok.2 (checkField_unadorned build h hd hv), by simp⟩

/-- A record is put together from values that its fields admit, and holds them. -/
theorem exists_recordOf_unadorned (h : m.Unadorned) {data : Entries}
    (hv : ∀ decl ∈ m.fields, decl.Admits (data.lookup decl.name)) :
    ∃ v, recordOf build m data = .ok v ∧
      ∀ decl ∈ m.fields, ∀ u, data.lookup decl.name = some u → v.held? decl.name = some u := by
  let read (decl : FieldDecl) : Value := (readField build m data decl []).toOption.getD .none
  have hread : ∀ decl ∈ m.fields, readField build m data decl [] = .ok (read decl) := by
    intro decl hd
    obtain ⟨u, hu, -⟩ := exists_readField_unadorned build h hd (hv decl hd)
    simp only [read, hu]
    rfl
  have hsolitary : ∀ decl ∈ m.fields, decl.Solitary := fun decl hd =>
    FieldDecl.overlooks_of_unchecked (h.unchecked decl hd) _
  have hreads : Reads build m data [] m.fields
      (m.fields.map fun decl => (decl.name, read decl)) := by
    rw [reads_solitary hsolitary, List.forall₂_map_right_iff, List.forall₂_same]
    exact fun decl hd => ⟨rfl, hread decl hd⟩
  have hprepare : prepare m data = data := by
    rw [prepare, h.whole]
    rfl
  have hextra : extraIssues m data = [] := by
    rw [extraIssues, h.extra]
    rfl
  refine ⟨.record m.name (m.fields.map fun decl => (decl.name, read decl)), ?_, ?_⟩
  · refine recordOf_eq_ok.2 ⟨_, rfl, ?_, by rw [h.whole]; rfl⟩
    rw [hprepare]
    exact readFields_eq_ok.2 ⟨hreads, hextra⟩
  · intro decl hd u hu
    obtain ⟨u', hu', hsame⟩ := exists_readField_unadorned build h hd (hv decl hd)
    obtain ⟨v, hlookup, hv'⟩ := hreads.lookup h.distinct decl hd
    rw [readField_solitary (hsolitary decl hd), hu', Except.ok.injEq] at hv'
    rw [Value.held?, hlookup, ← hv', hsame u hu]

/-- A value that the only field admits is wrapped as it is. -/
theorem exists_rootedOf_unadorned (h : m.Unadorned) (hfields : m.fields = [decl])
    {own : Option Value} (hv : decl.Admits own) :
    ∃ v, rootedOf build m own = .ok v ∧ ∀ u, own = some u → v.held? decl.name = some u := by
  have hd : decl ∈ m.fields := by
    rw [hfields]
    exact List.mem_singleton_self decl
  have hhead : m.fields.head? = some decl := by rw [hfields]; rfl
  unfold rootedOf
  rw [hhead]
  cases own with
  | none =>
    obtain ⟨u, hu⟩ := hv
    refine ⟨.rooted m.name u, ?_, by simp⟩
    simp only [hu, h.defaults, Bool.false_eq_true, if_false]
    rfl
  | some v =>
    refine ⟨.rooted m.name v, ?_, fun u hu => hu⟩
    simp only [checkField_unadorned build h hd hv]
    rfl

end Validation

namespace Binder

variable {family : Family} {m : Model} {s : Schema}

/-! ## Instances -/

/-- Every field has its place among the bound values. -/
theorem exists_mem_zip (hs : Schema.ofModel m = .ok s) {values : List (Option Value)}
    (hlen : values.length = s.fields.length) {decl : FieldDecl} (hd : decl ∈ m.fields) :
    ∃ p ∈ m.fields.zip (s.fields.zip values), p.1 = decl := by
  have hfields := (Schema.fieldsFrom_eq_ok (Schema.ofModel_eq_ok hs).2.2).1.length_eq
  have hfst : (m.fields.zip (s.fields.zip values)).map Prod.fst = m.fields := by
    apply List.map_fst_zip
    rw [List.length_zip]
    omega
  rw [← hfst] at hd
  exact List.mem_map.1 hd

/-- Values that the fields admit are put together to an instance that holds them. -/
theorem exists_assemble_unadorned (hm : family.model? m.name = some m)
    (hs : Schema.ofModel m = .ok s) (hu : m.Unadorned) {values : List (Option Value)}
    (hlen : values.length = s.fields.length)
    (hv : ∀ p ∈ m.fields.zip (s.fields.zip values), p.1.Admits p.2.2) :
    ∃ v, assemble family s (boundOf s.fields values) = .ok v ∧
      ∀ p ∈ m.fields.zip (s.fields.zip values), ∀ u, p.2.2 = some u →
        v.held? p.1.name = some u := by
  rw [assemble_eq hm hs]
  cases hw : m.wraps with
  | true =>
    obtain ⟨decl, hdecl⟩ := hu.single hw
    obtain ⟨f, hf, hid⟩ := Schema.exists_field_of_wraps hs hw hdecl
    rw [hf, List.length_singleton, List.length_eq_one_iff] at hlen
    obtain ⟨x, rfl⟩ := hlen
    rw [hdecl, hf, List.zip_cons_cons, List.zip_cons_cons, List.zip_nil_left] at hv ⊢
    have hlookup : (boundOf [f] [x]).lookup (.position 0) = x :=
      hid ▸ lookup_boundOf_singleton f x
    rw [if_pos rfl, hlookup]
    obtain ⟨v, hroot, hheld⟩ :=
      Validation.exists_rootedOf_unadorned hu hdecl (hv _ (List.mem_singleton_self _))
    exact ⟨v, by rw [Validation.wrapperOf, hroot]; rfl, List.forall_mem_singleton.2 hheld⟩
  | false =>
    have hlookup : ∀ p ∈ m.fields.zip (s.fields.zip values),
        (namedEntries (boundOf s.fields values)).lookup p.1.name = p.2.2 :=
      lookup_boundOf (forall₂_identifier hs hw) hu.distinct
    rw [if_neg Bool.false_ne_true]
    have hadmits : ∀ decl ∈ m.fields,
        decl.Admits ((namedEntries (boundOf s.fields values)).lookup decl.name) := by
      intro decl hd
      obtain ⟨p, hp, rfl⟩ := exists_mem_zip hs hlen hd
      rw [hlookup p hp]
      exact hv p hp
    obtain ⟨v, hrecord, hheld⟩ := Validation.exists_recordOf_unadorned hu hadmits
    refine ⟨v, by rw [Validation.instanceOf, hrecord]; rfl, fun p hp u hpu => ?_⟩
    exact hheld p.1 (List.of_mem_zip hp).1 u ((hlookup p hp).trans hpu)

end Binder

end QueryBinding
