-- The laws of accepted schemas: what the fields of a schema are made of once
-- the model that it belongs to is accepted. The other laws read a field only
-- through these.
import Mathlib
import QueryBinding.Schema

namespace QueryBinding

/-! ## Steps that may fail -/

theorem bind_eq_ok {ε α β : Type} {x : Except ε α} {f : α → Except ε β} {y : β} :
    (x >>= f) = .ok y ↔ ∃ a, x = .ok a ∧ f a = .ok y := by
  cases x with
  | error e => simp [bind, Except.bind]
  | ok a => simp [bind, Except.bind]

theorem map_eq_ok {ε α β : Type} {x : Except ε α} {f : α → β} {y : β} :
    x.map f = .ok y ↔ ∃ a, x = .ok a ∧ f a = y := by
  cases x with
  | error e => simp [Except.map]
  | ok a => simp [Except.map]

theorem map_eq_error {ε α β : Type} {x : Except ε α} {f : α → β} {e : ε} :
    x.map f = .error e ↔ x = .error e := by
  cases x with
  | error e' => simp [Except.map]
  | ok a => simp [Except.map]

/-! ## Lists side by side -/

theorem exists_mem_right {α β : Type*} {R : α → β → Prop} {as : List α} {bs : List β}
    (h : List.Forall₂ R as bs) {a : α} (ha : a ∈ as) : ∃ b ∈ bs, R a b := by
  induction h with
  | nil => cases ha
  | cons hab _ ih =>
    rcases List.mem_cons.1 ha with rfl | ha
    · exact ⟨_, List.mem_cons_self, hab⟩
    · obtain ⟨b, hb, hr⟩ := ih ha
      exact ⟨b, List.mem_cons_of_mem _ hb, hr⟩

theorem exists_mem_left {α β : Type*} {R : α → β → Prop} {as : List α} {bs : List β}
    (h : List.Forall₂ R as bs) {b : β} (hb : b ∈ bs) : ∃ a ∈ as, R a b :=
  exists_mem_right h.flip hb

/-! ## What fits together -/

/-- A nested shape has a model for its target, and no other shape has a target. -/
structure TargetShape.Fits (s : TargetShape) : Prop where
  nested : s.kind.nested = true → ∃ name, s.target = some (.model name)
  plain : s.kind.nested = false → s.target = none

/-- The parts of a field as an accepted schema holds it. -/
structure FieldSpec.Fits (f : FieldSpec) : Prop where
  asks : f.mode.queries = true → ∃ q shape, f.query = some q ∧ q ≠ "" ∧ f.shape = some shape
  shape : ∀ shape, f.shape = some shape → shape.Fits
  optionality : f.mode.queries = true → ∀ shape, f.shape = some shape →
    FieldSpec.checkOptionality f.mode shape.kind = .ok ()
  silent : f.mode.queries = false → f.query = none ∧ f.shape = none ∧ f.transform = none
  default : f.mode = .useDefault → ∃ v, f.factory = some v
  callable : ∀ t, f.transform = some t → t.isCallable = true

namespace Schema

theorem modelOf?_eq_some {a : FieldType} {t : Target} (h : modelOf? a = some t) :
    ∃ name, a = .model name ∧ t = .model name := by
  cases a <;> simp [modelOf?] at h
  exact ⟨_, rfl, h.symm⟩

/-! ## Shapes -/

theorem fits_nested {kind : ShapeKind} (hk : kind.nested = true) (name : String) :
    TargetShape.Fits ⟨kind, some (.model name)⟩ :=
  ⟨fun _ => ⟨name, rfl⟩, fun hn => by simp [hk] at hn⟩

theorem fits_plain {kind : ShapeKind} (hk : kind.nested = false) : TargetShape.Fits ⟨kind, none⟩ :=
  ⟨fun hn => by simp [hk] at hn, fun _ => rfl⟩

theorem explicitShape_fits {kind : ShapeKind} {leaf : FieldType} {optional : Bool}
    {shape : TargetShape} {mode : BindingMode}
    (h : explicitShape kind leaf optional = .ok (shape, mode)) :
    shape.Fits ∧ mode.queries = true := by
  have hmode : ∀ p : Prop, [Decidable p] →
      (if p then BindingMode.optional else .required).queries = true := by
    intro p _
    split <;> rfl
  unfold explicitShape at h
  dsimp only at h
  split at h
  · rename_i hk
    cases h
    exact ⟨fits_plain (by simpa using hk), hmode _⟩
  · rename_i hk
    split at h
    · rename_i target ht
      cases h
      obtain ⟨name, -, rfl⟩ := modelOf?_eq_some ht
      exact ⟨fits_nested (by simpa using hk) name, hmode _⟩
    · cases h

theorem inferShape_fits {type : FieldType} {explicit : Option ShapeKind} {transformed : Bool}
    {shape : TargetShape} {mode : BindingMode}
    (h : inferShape type explicit transformed = .ok (shape, mode)) :
    shape.Fits ∧ mode.queries = true := by
  unfold inferShape at h
  rcases hu : type.unwrapOptional with ⟨inner, optional⟩
  rcases hl : inner.unwrapList with ⟨item, isList⟩
  simp only [hu, hl] at h
  cases explicit with
  | some kind => exact explicitShape_fits h
  | none =>
    have hmode : (if optional then BindingMode.optional else .required).queries = true := by
      split <;> rfl
    have hkind : (if optional then ShapeKind.optionalScalar else .scalar).nested = false := by
      split <;> rfl
    dsimp only at h
    split at h
    · split at h
      · cases h
      · split at h
        · rename_i target ht
          cases h
          obtain ⟨name, -, rfl⟩ := modelOf?_eq_some ht
          exact ⟨fits_nested rfl name, rfl⟩
        · split at h <;> cases h
          exact ⟨fits_plain rfl, rfl⟩
    · split at h
      · rename_i target ht
        cases h
        obtain ⟨name, -, rfl⟩ := modelOf?_eq_some ht
        exact ⟨fits_nested rfl name, hmode⟩
      · split at h <;> cases h
        exact ⟨fits_plain hkind, hmode⟩

/-- A text nests nothing, whatever shape is asked for. -/
theorem inferShape_text {explicit : Option ShapeKind} {transformed : Bool} {shape : TargetShape}
    {mode : BindingMode} (h : inferShape .text explicit transformed = .ok (shape, mode)) :
    shape.kind.nested = false := by
  cases explicit with
  | some kind =>
    change explicitShape kind .text false = .ok (shape, mode) at h
    unfold explicitShape at h
    dsimp only at h
    split at h
    · rename_i hk
      cases h
      simpa using hk
    · cases h
  | none =>
    cases h
    rfl

/-! ## Fields -/

theorem check_eq_ok {s f : FieldSpec} (h : s.check = .ok f) :
    f = s ∧
      (s.mode.queries = true → ∃ q shape, s.query = some q ∧ q ≠ "" ∧ s.shape = some shape ∧
        FieldSpec.checkOptionality s.mode shape.kind = .ok ()) ∧
      (s.mode.queries = false → s.query = none ∧ s.transform = none) ∧
      (s.mode = .useDefault → ∃ v, s.factory = some v) := by
  unfold FieldSpec.check at h
  split at h
  · rename_i hq
    split at h
    · cases h
    · rename_i hne
      split at h
      · cases h
      · rename_i shape hs
        rcases hc : FieldSpec.checkOptionality s.mode shape.kind with e | u
        · simp [hc, Except.map] at h
        · simp only [hc, Except.map, Except.ok.injEq] at h
          refine ⟨h.symm, fun _ => ?_, fun hn => by simp [hq] at hn,
            fun hd => by simp [hd, BindingMode.queries] at hq⟩
          rcases hqq : s.query with _ | q
          · simp [hqq] at hne
          · exact ⟨q, shape, rfl, by simpa [hqq] using hne, hs, hc⟩
  · rename_i hq
    split at h
    · cases h
    · rename_i hn
      split at h
      · cases h
      · rename_i hd
        cases h
        refine ⟨rfl, fun hn => absurd hn hq, fun _ => ?_, fun hm => ?_⟩
        · simpa using hn
        · simpa [hm, Option.isNone_iff_eq_none, Option.ne_none_iff_exists'] using hd

theorem specOf_eq_ok {s f : FieldSpec} (h : specOf s = .ok f) :
    s.check = .ok f ∧ ∀ t, s.transform = some t → t.isCallable = true := by
  have hfits : ∀ {s f : FieldSpec}, specOf.fits s = .ok f → s.check = .ok f := by
    intro s f h
    unfold specOf.fits at h
    split at h
    · rename_i hc
      cases h
      exact hc
    · cases h
  unfold specOf at h
  split at h
  · rename_i t ht
    split at h
    · rename_i hcall
      refine ⟨hfits h, fun u hu => ?_⟩
      rw [ht] at hu
      cases hu
      exact hcall
    · cases h
  · rename_i hn
    exact ⟨hfits h, fun t ht => by simp [hn] at ht⟩

/-- The parts that a directive gives a field, once they are found to fit together. -/
theorem fits_of_specOf {s f : FieldSpec} (h : specOf s = .ok f)
    (hshape : ∀ shape, s.shape = some shape → shape.Fits ∧ s.mode.queries = true) :
    f.Fits ∧ f = s := by
  obtain ⟨hc, hcall⟩ := specOf_eq_ok h
  obtain ⟨rfl, hasks, hsilent, hdefault⟩ := check_eq_ok hc
  refine ⟨⟨fun hq => ?_, fun shape hs => (hshape shape hs).1, fun hq shape hs => ?_, fun hq => ?_,
    hdefault, hcall⟩, rfl⟩
  · obtain ⟨q, shape, h1, h2, h3, -⟩ := hasks hq
    exact ⟨q, shape, h1, h2, h3⟩
  · obtain ⟨-, shape', -, -, h3, h4⟩ := hasks hq
    rw [h3] at hs
    cases hs
    exact h4
  · refine ⟨(hsilent hq).1, ?_, (hsilent hq).2⟩
    rcases hs : f.shape with _ | shape
    · rfl
    · simp [(hshape shape hs).2] at hq

theorem bindingOf_eq_ok {identifier : Identifier} {d : Directive} {decl : FieldDecl} {f : FieldSpec}
    (h : bindingOf identifier d decl = .ok f) :
    f.Fits ∧ f.identifier = identifier ∧ f.query = d.query ∧ f.transform = d.transform := by
  unfold bindingOf at h
  split at h
  · split at h
    · cases h
    · obtain ⟨hf, rfl⟩ := fits_of_specOf h (by simp)
      exact ⟨hf, rfl, rfl, rfl⟩
  · rcases hi : inferShape decl.type d.shape d.transform.isSome with e | ⟨shape, mode⟩
    · simp [hi, bind, Except.bind] at h
    · simp only [hi, bind, Except.bind] at h
      obtain ⟨hf, rfl⟩ := fits_of_specOf h fun s hs => by cases hs; exact inferShape_fits hi
      exact ⟨hf, rfl, rfl, rfl⟩

theorem shape_of_bindingOf {identifier : Identifier} {d : Directive} {decl : FieldDecl}
    {f : FieldSpec} (h : bindingOf identifier d decl = .ok f) {shape : TargetShape}
    (hs : f.shape = some shape) :
    ∃ mode, inferShape decl.type d.shape d.transform.isSome = .ok (shape, mode) := by
  unfold bindingOf at h
  split at h
  · split at h
    · cases h
    · rw [(fits_of_specOf h (by simp)).2] at hs
      cases hs
  · rcases hi : inferShape decl.type d.shape d.transform.isSome with e | ⟨shape', mode⟩
    · simp [hi, bind, Except.bind] at h
    · simp only [hi, bind, Except.bind] at h
      rw [(fits_of_specOf h fun s hs => by cases hs; exact inferShape_fits hi).2] at hs
      cases hs
      exact ⟨mode, rfl⟩

/-- An accepted field has one directive, and its aliases let values be bound by name. -/
theorem fieldOf_eq_ok {m : Model} {identifier : Identifier} {decl : FieldDecl} {f : FieldSpec}
    (h : fieldOf m identifier decl = .ok f) :
    ∃ d, decl.directives = [d] ∧ bindingOf identifier d decl = .ok f ∧
      (m.wraps = false → checkAliases m decl = .ok ()) := by
  unfold fieldOf at h
  split at h
  · cases h
  · rename_i d hd
    refine ⟨d, hd, ?_⟩
    cases hw : m.wraps with
    | true => simpa [hw, bind, Except.bind, pure, Except.pure] using h
    | false =>
      rcases ha : checkAliases m decl with e | u
      · simp [hw, ha, bind, Except.bind] at h
      · simp only [hw, ha, bind, Except.bind, Bool.not_false, if_true] at h
        exact ⟨h, fun _ => rfl⟩
  · cases h

theorem identifier_of_fieldOf {m : Model} {identifier : Identifier} {decl : FieldDecl}
    {f : FieldSpec} (h : fieldOf m identifier decl = .ok f) : f.identifier = identifier := by
  obtain ⟨d, -, hb, -⟩ := fieldOf_eq_ok h
  exact (bindingOf_eq_ok hb).2.1

/-! ## Whole schemas -/

/-- The identifier of a declared field, given its place. -/
def identifierOf (m : Model) (index : Nat) (decl : FieldDecl) : Identifier :=
  if m.wraps then .position index else .name decl.name

/-- The fields of a schema and the declarations that they stand for, side by side. -/
theorem fieldsFrom_eq_ok {m : Model} {index : Nat} {decls : List FieldDecl} {fs : List FieldSpec}
    (h : fieldsFrom m index decls = .ok fs) :
    List.Forall₂ (fun decl f => ∃ i, fieldOf m (identifierOf m i decl) decl = .ok f) decls fs ∧
      (∀ f ∈ fs.head?, ∀ decl ∈ decls.head?, f.identifier = identifierOf m index decl) := by
  induction decls generalizing index fs with
  | nil =>
    cases h
    exact ⟨.nil, by simp⟩
  | cons decl decls ih =>
    unfold fieldsFrom at h
    dsimp only at h
    split at h
    · cases h
    · rename_i f hf
      rcases hr : fieldsFrom m (index + 1) decls with e | rest
      · simp [hr, Except.map] at h
      · simp only [hr, Except.map, Except.ok.injEq] at h
        subst h
        refine ⟨.cons ⟨index, hf⟩ (ih hr).1, ?_⟩
        simpa [identifierOf] using identifier_of_fieldOf hf

theorem ofModel_eq_ok {m : Model} {s : Schema} (h : ofModel m = .ok s) :
    s.target = m.name ∧ s.positional = m.wraps ∧ fieldsFrom m 0 m.fields = .ok s.fields := by
  unfold ofModel at h
  rcases hf : fieldsFrom m 0 m.fields with e | fs
  · simp [hf, Except.map] at h
  · simp only [hf, Except.map, Except.ok.injEq] at h
    subst h
    exact ⟨rfl, rfl, rfl⟩

theorem ofTarget_eq_ok {family : Family} {name : String} {s : Schema}
    (h : ofTarget family (.model name) = .ok s) :
    ∃ m, family.model? name = some m ∧ ofModel m = .ok s := by
  simp only [ofTarget] at h
  split at h
  · rename_i m hm
    exact ⟨m, hm, h⟩
  · cases h

/-- Every field of an accepted model has a declaration. -/
theorem exists_decl {m : Model} {s : Schema} (h : ofModel m = .ok s) {f : FieldSpec}
    (hf : f ∈ s.fields) : ∃ decl ∈ m.fields, ∃ i, fieldOf m (identifierOf m i decl) decl = .ok f :=
  exists_mem_left (fieldsFrom_eq_ok (ofModel_eq_ok h).2.2).1 hf

/-- Every declared field of an accepted model has its place in the schema. -/
theorem exists_spec {m : Model} {s : Schema} (h : ofModel m = .ok s) {decl : FieldDecl}
    (hd : decl ∈ m.fields) : ∃ f ∈ s.fields, ∃ i, fieldOf m (identifierOf m i decl) decl = .ok f :=
  exists_mem_right (fieldsFrom_eq_ok (ofModel_eq_ok h).2.2).1 hd

/-- The schema of a model that wraps a value has one field, and its position is the first. -/
theorem exists_field_of_wraps {m : Model} {s : Schema} (h : ofModel m = .ok s) (hw : m.wraps = true)
    {decl : FieldDecl} (hdecl : m.fields = [decl]) :
    ∃ f, s.fields = [f] ∧ f.identifier = .position 0 := by
  obtain ⟨hall, hhead⟩ := fieldsFrom_eq_ok (ofModel_eq_ok h).2.2
  rw [hdecl] at hall hhead
  obtain ⟨f, fs, -, hnil, hf⟩ := List.forall₂_cons_left_iff.1 hall
  rw [List.forall₂_nil_left_iff.1 hnil] at hf
  refine ⟨f, hf, ?_⟩
  rw [hhead f (by rw [hf]; rfl) decl rfl, identifierOf, hw]
  rfl

end Schema

/-! ## Accepted models -/

theorem Family.name_of_model? {family : Family} {name : String} {m : Model}
    (h : family.model? name = some m) : m.name = name := by
  simpa using List.find?_some h

theorem Family.mem_of_model? {family : Family} {name : String} {m : Model}
    (h : family.model? name = some m) : m ∈ family := List.mem_of_find?_eq_some h

namespace Schema

/-- Every field of an accepted schema fits together. -/
theorem fits_of_mem_fields {family : Family} {name : String} {s : Schema}
    (h : ofTarget family (.model name) = .ok s) {f : FieldSpec} (hf : f ∈ s.fields) : f.Fits := by
  obtain ⟨m, -, hs⟩ := ofTarget_eq_ok h
  obtain ⟨decl, -, i, hd⟩ := exists_decl hs hf
  obtain ⟨d, -, hb, -⟩ := fieldOf_eq_ok hd
  exact (bindingOf_eq_ok hb).1

end Schema

/-- What a field nests is a model, and its shape is a nested one. -/
theorem FieldSpec.Fits.target_model {f : FieldSpec} (h : f.Fits) {t : Target}
    (ht : f.target? = some t) :
    ∃ shape name, f.shape = some shape ∧ shape.kind.nested = true ∧
      shape.target = some (.model name) ∧ t = .model name := by
  obtain ⟨shape, hs, htarget⟩ := Option.bind_eq_some_iff.1 ht
  cases hk : shape.kind.nested with
  | true =>
    obtain ⟨name, hn⟩ := (h.shape shape hs).nested hk
    exact ⟨shape, name, hs, hk, hn, by rw [hn] at htarget; cases htarget; rfl⟩
  | false =>
    rw [(h.shape shape hs).plain hk] at htarget
    cases htarget

end QueryBinding
