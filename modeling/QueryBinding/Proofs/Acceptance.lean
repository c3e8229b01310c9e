-- Which models have a schema: just those whose fields are all well declared.
-- Any other model is refused for the first of its fields that is not, and a
-- schema that is built fits together as a whole.
import QueryBinding.Proofs.Schemas

namespace QueryBinding

/-! ## Well declared fields -/

namespace FieldDecl

/-- The field is not queried, and has a default to rest on. -/
structure RestsOnDefault (f : FieldDecl) (d : Directive) : Prop where
  mode : d.mode = some .useDefault ∨ d.mode = some .ignore
  query : d.query = none
  transform : d.transform = none
  default : ∃ v, f.default? = some v

/-- The field asks a query, and its type has a shape. -/
structure Asks (f : FieldDecl) (d : Directive) : Prop where
  mode : d.mode = none
  query : ∃ q, d.query = some q ∧ q ≠ ""
  transform : ∀ t, d.transform = some t → t.isCallable = true
  shape : ∃ shape mode, Schema.inferShape f.type d.shape d.transform.isSome = .ok (shape, mode)

/-- The field has no alias but its own name. -/
structure KeepsName (f : FieldDecl) : Prop where
  aliasName : ∀ a, f.aliasName = some a → a = f.name
  validationAlias : ∀ a, f.validationAlias = some a → a = .key f.name

/-- Values can be bound to the field by its name, and its one directive says how. -/
structure WellDeclared (m : Model) (f : FieldDecl) : Prop where
  named : m.wraps = true ∨ m.readsNames = true ∨ f.KeepsName
  bound : ∃ d, f.directives = [d] ∧ (f.RestsOnDefault d ∨ f.Asks d)

end FieldDecl

/-- A field that is not queried, with the default that it rests on. -/
def FieldSpec.resting (identifier : Identifier) (mode : BindingMode) (v : Value) : FieldSpec :=
  ⟨identifier, mode, none, none, none, if mode = .useDefault then some v else none⟩

namespace Schema

variable {m : Model} {f : FieldDecl} {d : Directive} {identifier : Identifier}

/-! ## Aliases -/

theorem keepsName_iff : f.KeepsName ↔
    ∀ a ∈ (f.aliasName.map Alias.key).toList ++ f.readingAlias?.toList, a = .key f.name := by
  rcases f with ⟨name, type, directives, default, factory, aliasName,
    validationAlias, limits, checks⟩
  constructor
  · rintro ⟨halias, hvalidation⟩ a ha
    cases aliasName <;> cases validationAlias <;> simp_all [FieldDecl.readingAlias?]
  · intro h
    cases aliasName <;> cases validationAlias <;> constructor <;>
      simp_all [FieldDecl.readingAlias?]

theorem checkAliases_eq_ok_iff : checkAliases m f = .ok () ↔ m.readsNames = true ∨ f.KeepsName := by
  unfold checkAliases
  cases m.readsNames with
  | true => simp
  | false =>
    rw [keepsName_iff, if_neg Bool.false_ne_true]
    rcases hfind : ((f.aliasName.map Alias.key).toList ++ f.readingAlias?.toList).find?
      (· != Alias.key f.name) with _ | a
    · have hall := List.find?_eq_none.1 hfind
      simpa using hall
    · have hne : a ≠ .key f.name := by simpa using List.find?_some hfind
      have hmem := List.mem_of_find?_eq_some hfind
      simp only [reduceCtorEq, Bool.false_eq_true, false_or, false_iff]
      exact fun hall => hne (hall a hmem)

/-! ## Shapes -/

theorem explicitShape_optionality {kind : ShapeKind} {leaf : FieldType} {optional : Bool}
    {shape : TargetShape} {mode : BindingMode}
    (h : explicitShape kind leaf optional = .ok (shape, mode)) :
    FieldSpec.checkOptionality mode shape.kind = .ok () := by
  have hmode : FieldSpec.checkOptionality
      (if kind = .optionalScalar ∨ (kind = .nestedOne ∧ optional) then .optional else .required)
      kind = .ok () := by
    cases kind <;> cases optional <;> rfl
  unfold explicitShape at h
  dsimp only at h
  split at h
  · cases h
    exact hmode
  · split at h <;> cases h
    exact hmode

/-- The shape and the mode that are inferred for a field go together. -/
theorem inferShape_optionality {type : FieldType} {explicit : Option ShapeKind} {transformed : Bool}
    {shape : TargetShape} {mode : BindingMode}
    (h : inferShape type explicit transformed = .ok (shape, mode)) :
    FieldSpec.checkOptionality mode shape.kind = .ok () := by
  unfold inferShape at h
  rcases hu : type.unwrapOptional with ⟨inner, optional⟩
  rcases hl : inner.unwrapList with ⟨item, isList⟩
  simp only [hu, hl] at h
  cases explicit with
  | some kind => exact explicitShape_optionality h
  | none =>
    dsimp only at h
    split at h
    · split at h
      · cases h
      · split at h
        · cases h
          rfl
        · split at h <;> cases h
          rfl
    · split at h
      · cases h
        cases optional <;> rfl
      · split at h <;> cases h
        cases optional <;> rfl

/-! ## Directives -/

theorem specOf_of_check {s : FieldSpec} (hc : s.check = .ok s)
    (ht : ∀ t, s.transform = some t → t.isCallable = true) : specOf s = .ok s := by
  have hfits : specOf.fits s = .ok s := by
    unfold specOf.fits
    rw [hc]
  unfold specOf
  split
  · rename_i t hs
    rw [if_pos (ht t hs), hfits]
  · exact hfits

/-- A field that is not queried rests on its default, which is made anew or left to the model. -/
theorem bindingOf_of_rests {mode : BindingMode} {v : Value} (hm : d.mode = some mode)
    (hquery : d.query = none) (ht : d.transform = none) (hq : mode.queries = false)
    (hv : f.default? = some v) :
    bindingOf identifier d f = .ok (.resting identifier mode v) := by
  have hcheck : (FieldSpec.resting identifier mode v).check = .ok (.resting identifier mode v) := by
    cases mode <;> simp [FieldSpec.check, FieldSpec.resting, BindingMode.queries] at hq ⊢
  unfold bindingOf
  simp only [hm, hquery, ht, hv, FieldDecl.isRequired, Option.isNone_some, Bool.false_eq_true,
    if_false]
  exact specOf_of_check hcheck fun t h => by cases h

theorem exists_bindingOf_of_rests (h : f.RestsOnDefault d) :
    ∃ s, bindingOf identifier d f = .ok s := by
  obtain ⟨v, hv⟩ := h.default
  rcases h.mode with hm | hm
  · exact ⟨_, bindingOf_of_rests hm h.query h.transform rfl hv⟩
  · exact ⟨_, bindingOf_of_rests hm h.query h.transform rfl hv⟩

theorem exists_bindingOf_of_asks (h : f.Asks d) : ∃ s, bindingOf identifier d f = .ok s := by
  obtain ⟨q, hq, hne⟩ := h.query
  obtain ⟨shape, mode, hi⟩ := h.shape
  have hcheck : FieldSpec.check ⟨identifier, mode, d.query, some shape, d.transform, none⟩ =
      .ok ⟨identifier, mode, d.query, some shape, d.transform, none⟩ := by
    unfold FieldSpec.check
    rw [if_pos (inferShape_fits hi).2]
    simp [hq, hne, inferShape_optionality hi, Except.map]
  refine ⟨⟨identifier, mode, d.query, some shape, d.transform, none⟩, ?_⟩
  unfold bindingOf
  rw [h.mode]
  exact bind_eq_ok.2 ⟨(shape, mode), hi, specOf_of_check hcheck h.transform⟩

theorem rests_or_asks_of_bindingOf {s : FieldSpec} (h : bindingOf identifier d f = .ok s) :
    f.RestsOnDefault d ∨ f.Asks d := by
  unfold bindingOf at h
  split at h
  · rename_i mode hm
    split at h
    · cases h
    · rename_i hrequired
      obtain ⟨hcheck, -⟩ := specOf_eq_ok h
      obtain ⟨-, hasks, hsilent, -⟩ := check_eq_ok hcheck
      have hq : mode.queries = false := by
        by_contra hq
        obtain ⟨q, shape, -, -, hshape, -⟩ := hasks (by simpa using hq)
        cases hshape
      refine .inl ⟨?_, (hsilent hq).1, (hsilent hq).2, ?_⟩
      · cases mode <;> simp [BindingMode.queries, hm] at hq ⊢
      · simpa [FieldDecl.isRequired, Option.isNone_iff_eq_none, Option.ne_none_iff_exists']
          using hrequired
  · rename_i hm
    obtain ⟨⟨shape, mode⟩, hi, hspec⟩ := bind_eq_ok.1 h
    obtain ⟨hcheck, hcallable⟩ := specOf_eq_ok hspec
    obtain ⟨q, shape', hq, hne, -⟩ := (check_eq_ok hcheck).2.1 (inferShape_fits hi).2
    exact .inr ⟨hm, ⟨q, hq, hne⟩, hcallable, shape, mode, hi⟩

/-! ## Fields -/

theorem exists_fieldOf_iff : (∃ s, fieldOf m identifier f = .ok s) ↔ f.WellDeclared m := by
  constructor
  · rintro ⟨s, hs⟩
    obtain ⟨d, hd, hbinding, haliases⟩ := fieldOf_eq_ok hs
    refine ⟨?_, d, hd, rests_or_asks_of_bindingOf hbinding⟩
    cases hw : m.wraps with
    | true => exact .inl rfl
    | false => exact .inr (checkAliases_eq_ok_iff.1 (haliases hw))
  · rintro ⟨hnamed, d, hd, hbound⟩
    have hbinding : ∃ s, bindingOf identifier d f = .ok s :=
      hbound.elim exists_bindingOf_of_rests exists_bindingOf_of_asks
    have haliases : m.wraps = false → checkAliases m f = .ok () := by
      intro hw
      exact checkAliases_eq_ok_iff.2 (hnamed.resolve_left (by simp [hw]))
    unfold fieldOf
    rw [hd]
    cases hw : m.wraps with
    | true => exact hbinding
    | false =>
      obtain ⟨s, hs⟩ := hbinding
      exact ⟨s, bind_eq_ok.2 ⟨(), haliases hw, hs⟩⟩

theorem fieldsFrom_cons (m : Model) (index : Nat) (f : FieldDecl) (fs : List FieldDecl) :
    fieldsFrom m index (f :: fs) =
      match fieldOf m (identifierOf m index f) f with
      | .error cause => .error ⟨m.name, cause, some (identifierOf m index f)⟩
      | .ok s => (fieldsFrom m (index + 1) fs).map (s :: ·) := rfl

/-- The fields of a list are accepted, or else the first that is not well declared is told. -/
theorem fieldsFrom_cases (m : Model) (index : Nat) (fs : List FieldDecl) :
    ((∀ f ∈ fs, f.WellDeclared m) ∧ ∃ specs, fieldsFrom m index fs = .ok specs) ∨
      ∃ before f after cause, fs = before ++ f :: after ∧ (∀ g ∈ before, g.WellDeclared m) ∧
        ¬ f.WellDeclared m ∧ fieldsFrom m index fs =
          .error ⟨m.name, cause, some (identifierOf m (index + before.length) f)⟩ := by
  induction fs generalizing index with
  | nil => exact .inl ⟨by simp, [], rfl⟩
  | cons f fs ih =>
    rcases hf : fieldOf m (identifierOf m index f) f with cause | s
    · have hnot : ¬ f.WellDeclared m := by
        intro hwell
        obtain ⟨s, hs⟩ := exists_fieldOf_iff.2 hwell
        rw [hs] at hf
        cases hf
      refine .inr ⟨[], f, fs, cause, rfl, by simp, hnot, ?_⟩
      rw [fieldsFrom_cons, hf]
      rfl
    · have hwell : f.WellDeclared m := exists_fieldOf_iff.1 ⟨s, hf⟩
      rcases ih (index + 1) with ⟨hall, specs, hspecs⟩ |
        ⟨before, g, after, cause, rfl, hbefore, hg, he⟩
      · refine .inl ⟨List.forall_mem_cons.2 ⟨hwell, hall⟩, s :: specs, ?_⟩
        rw [fieldsFrom_cons, hf, hspecs]
        rfl
      · refine .inr ⟨f :: before, g, after, cause, rfl, List.forall_mem_cons.2 ⟨hwell, hbefore⟩,
          hg, ?_⟩
        rw [fieldsFrom_cons, hf, he, List.length_cons, Nat.add_right_comm, Nat.add_assoc]
        rfl

/-! ## Identifiers -/

theorem identifiers_fieldsFrom {index : Nat} {fs : List FieldDecl} {specs : List FieldSpec}
    (h : fieldsFrom m index fs = .ok specs) :
    specs.map (·.identifier) = (fs.zipIdx index).map fun (f, i) => identifierOf m i f := by
  induction fs generalizing index specs with
  | nil =>
    cases h
    rfl
  | cons f fs ih =>
    rw [fieldsFrom_cons] at h
    rcases hf : fieldOf m (identifierOf m index f) f with cause | s
    · rw [hf] at h
      cases h
    · rw [hf] at h
      obtain ⟨rest, hrest, rfl⟩ := map_eq_ok.1 h
      rw [List.map_cons, List.zipIdx_cons, List.map_cons, ih hrest, identifier_of_fieldOf hf]

theorem identifiers_eq {s : Schema} (hs : ofModel m = .ok s) :
    s.identifiers = m.fields.mapIdx (identifierOf m) := by
  rw [List.mapIdx_eq_zipIdx_map]
  exact identifiers_fieldsFrom (ofModel_eq_ok hs).2.2

end Schema

/-- The fields have names of their own, and what wraps a value has one field. -/
structure Model.Declared (m : Model) : Prop where
  distinct : (m.fields.map (·.name)).Nodup
  single : m.wraps = true → ∃ f, m.fields = [f]

namespace Schema

variable {m : Model} {s : Schema}

theorem identifiers_of_wraps (hs : ofModel m = .ok s) (hm : m.Declared) (hw : m.wraps = true) :
    s.identifiers = [.position 0] := by
  obtain ⟨f, hf⟩ := hm.single hw
  rw [identifiers_eq hs, hf, List.mapIdx_singleton, identifierOf, hw]
  rfl

theorem identifiers_of_names (hs : ofModel m = .ok s) (hw : m.wraps = false) :
    s.identifiers = m.fields.map fun f => .name f.name := by
  rw [identifiers_eq hs]
  refine List.ext_getElem (by simp) fun i _ _ => ?_
  simp [identifierOf, hw]

theorem nodup_identifiers (hs : ofModel m = .ok s) (hm : m.Declared) : s.identifiers.Nodup := by
  cases hw : m.wraps with
  | true =>
    rw [identifiers_of_wraps hs hm hw]
    exact List.nodup_singleton _
  | false =>
    have hnames : (m.fields.map fun f => Identifier.name f.name) =
        (m.fields.map (·.name)).map .name := by rw [List.map_map]; rfl
    rw [identifiers_of_names hs hw, hnames]
    exact hm.distinct.map fun _ _ => Identifier.name.inj

theorem field_of_mem {f : FieldSpec} (hn : s.identifiers.Nodup) (hf : f ∈ s.fields) :
    s.field f.identifier = .ok f := by
  have hfind : s.fields.find? (·.identifier == f.identifier) = some f := by
    obtain ⟨before, after, hfields⟩ := List.append_of_mem hf
    rw [identifiers, hfields, List.map_append, List.map_cons] at hn
    rw [hfields]
    refine List.find?_eq_some_iff_append.2 ⟨beq_self_eq_true _, before, after, rfl, ?_⟩
    intro g hg
    have hne : g.identifier ≠ f.identifier :=
      (List.nodup_append.1 hn).2.2 _ (List.mem_map_of_mem hg) _ List.mem_cons_self
    simpa using hne
  unfold field field?
  rw [hfind]

/-- Schemas are built for well declared models and for no others. A model that has none is refused
for the first of its fields that is not well declared; and in a schema that is built, every field
fits together, and is found by its identifier, in the order of declaration. -/
theorem a_schema_is_built_for_every_well_declared_model (m : Model) :
    ((∃ s, ofModel m = .ok s) ↔ ∀ f ∈ m.fields, f.WellDeclared m) ∧
      ((¬ ∀ f ∈ m.fields, f.WellDeclared m) → ∃ before f after cause,
        m.fields = before ++ f :: after ∧ (∀ g ∈ before, g.WellDeclared m) ∧ ¬ f.WellDeclared m ∧
          ofModel m = .error ⟨m.name, cause, some (identifierOf m before.length f)⟩) ∧
      ∀ s, ofModel m = .ok s → (∀ f ∈ s.fields, f.Fits) ∧
        s.identifiers = m.fields.mapIdx (identifierOf m) ∧
        (m.Declared → s.identifiers.Nodup ∧ (m.wraps = true → s.identifiers = [.position 0]) ∧
          ∀ f ∈ s.fields, s.field f.identifier = .ok f) := by
  refine ⟨?_, ?_, ?_⟩
  · rcases fieldsFrom_cases m 0 m.fields with ⟨hall, specs, hspecs⟩ |
      ⟨_, f, _, cause, hm, -, hf, he⟩
    · exact ⟨fun _ => hall, fun _ => ⟨_, map_eq_ok.2 ⟨specs, hspecs, rfl⟩⟩⟩
    · refine ⟨?_, fun hall => absurd (hall f (by simp [hm])) hf⟩
      rintro ⟨s, hs⟩
      rw [(ofModel_eq_ok hs).2.2] at he
      cases he
  · intro hnot
    rcases fieldsFrom_cases m 0 m.fields with ⟨hall, -⟩ |
      ⟨before, f, after, cause, hm, hbefore, hf, he⟩
    · exact absurd hall hnot
    · rw [Nat.zero_add] at he
      exact ⟨before, f, after, cause, hm, hbefore, hf, map_eq_error.2 he⟩
  · intro s hs
    refine ⟨?_, identifiers_eq hs, fun hm => ?_⟩
    · intro f hf
      obtain ⟨decl, -, i, hfield⟩ := exists_decl hs hf
      obtain ⟨d, -, hbinding, -⟩ := fieldOf_eq_ok hfield
      exact (bindingOf_eq_ok hbinding).1
    · have hn := nodup_identifiers hs hm
      exact ⟨hn, identifiers_of_wraps hs hm, fun f hf => field_of_mem hn hf⟩

/-- A title that is queried, and a source that rests on its default. -/
def articles : Model :=
  .plain "Article" [.bound "title" .text (.scrape "//h1" none none) none,
    .bound "source" .text .ignore (some (.text "web"))]

/-- The same title, and a source that has no default to rest on. -/
def sourceless : Model :=
  .plain "Article" [.bound "title" .text (.scrape "//h1" none none) none,
    .bound "source" .text .ignore none]

theorem a_source_without_a_default_is_told :
    (∃ s, ofModel articles = .ok s ∧ s.identifiers = [.name "title", .name "source"] ∧
      s.identifiers.Nodup ∧ ∀ f ∈ s.fields, s.field f.identifier = .ok f) ∧
    ∃ before f after cause, sourceless.fields = before ++ f :: after ∧ f.name = "source" ∧
      ¬ f.WellDeclared sourceless ∧
      ofModel sourceless = .error ⟨"Article", cause, some (.name "source")⟩ := by
  have hrefused : ofModel sourceless =
      .error ⟨"Article", .needsDefault .ignore, some (.name "source")⟩ := by rfl
  constructor
  · obtain ⟨s, hs⟩ : ∃ s, ofModel articles = .ok s := ⟨_, by rfl⟩
    obtain ⟨-, -, hbuilt⟩ := a_schema_is_built_for_every_well_declared_model articles
    obtain ⟨-, hidentifiers, hdeclared⟩ := hbuilt s hs
    obtain ⟨hn, -, hfield⟩ := hdeclared ⟨by decide, fun hw => by cases hw⟩
    exact ⟨s, hs, hidentifiers, hn, hfield⟩
  · obtain ⟨haccepts, hrefuses, -⟩ := a_schema_is_built_for_every_well_declared_model sourceless
    have hnot : ¬ ∀ f ∈ sourceless.fields, f.WellDeclared sourceless := by
      intro hall
      obtain ⟨s, hs⟩ := haccepts.2 hall
      rw [hrefused] at hs
      cases hs
    obtain ⟨before, f, after, cause, hfields, -, hf, he⟩ := hrefuses hnot
    have hname : f.name = "source" := by
      rw [hrefused] at he
      simp only [identifierOf, sourceless, Model.plain, Except.error.injEq, SchemaFailure.mk.injEq,
        Option.some.injEq, Bool.false_eq_true, if_false, Identifier.name.injEq] at he
      exact he.2.2.symm
    exact ⟨before, f, after, cause, hfields, hname, hf, he.trans (by rw [identifierOf, hname]; rfl)⟩

end Schema

end QueryBinding
