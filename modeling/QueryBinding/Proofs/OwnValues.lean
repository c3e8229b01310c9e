-- Whose value a field holds. Bound values are handed on under the names of their
-- fields, and a field is looked for under its aliases first. So in a model that
-- reads names a field holds the value of another field if an alias leads there.
import QueryBinding.Proofs.Assembly
import QueryBinding.Proofs.Pairs

namespace QueryBinding

/-! ## Models of texts -/

/-- Fields are texts, and nothing limits, checks or transforms their values. -/
structure Model.Textual (m : Model) : Prop where
  typed : ∀ f ∈ m.fields, f.type = .text
  unlimited : ∀ f ∈ m.fields, f.limits = ⟨none, none, none, none⟩
  unchecked : ∀ f ∈ m.fields, f.checks = []
  untransformed : ∀ f ∈ m.fields, ∀ d ∈ f.directives, d.transform = none
  whole : m.checks = []
  distinct : (m.fields.map (·.name)).Nodup
  single : m.wraps = true → ∃ f, m.fields = [f]

/-- A field that is bound by itself: nothing is nested in it, and nothing transforms its value. -/
structure FieldSpec.Flat (f : FieldSpec) : Prop where
  untransformed : f.transform = none
  unnested : ∀ shape, f.shape = some shape → shape.kind.nested = false

theorem Model.Textual.flat {m : Model} (h : m.Textual) {i : Identifier} {decl : FieldDecl}
    (hd : decl ∈ m.fields) {f : FieldSpec} (hf : Schema.fieldOf m i decl = .ok f) : f.Flat := by
  obtain ⟨d, hdir, hb, -⟩ := Schema.fieldOf_eq_ok hf
  refine ⟨?_, fun shape hs => ?_⟩
  · rw [(Schema.bindingOf_eq_ok hb).2.2.2]
    exact h.untransformed decl hd d (by rw [hdir]; exact List.mem_singleton_self d)
  · obtain ⟨mode, hi⟩ := Schema.shape_of_bindingOf hb hs
    rw [h.typed decl hd] at hi
    exact Schema.inferShape_text hi

namespace Binder

open Run

variable {ν : Type} {b : Binder ν} {scope : Option ν} {presets : Bound}

/-! ## Values of single fields -/

/-- What a field is bound to when it is bound alone: by its own query, default or preset. -/
def alone (b : Binder ν) (scope : Option ν) (presets : Bound) (w : World ν) (f : FieldSpec) :
    Option Value :=
  match ((b.bindOne (fun _ _ => throw .endless) scope presets f).run.run w).1 with
  | .ok v => v
  | .error _ => none

/-- The entry of a field in the bound values, if it has a value. -/
def entryOf (own : FieldSpec → Option Value) (f : FieldSpec) : Option (Identifier × Value) :=
  (own f).map fun v => (f.identifier, v)

/-- A flat field is bound to the same value wherever it is bound. -/
theorem bindOne_eq_alone {nested : Target → ν → Run ν Value} {f : FieldSpec} (hf : f.Flat)
    (w : World ν) {w₁ w₂ : World ν} {v : Option Value}
    (h : (b.bindOne nested scope presets f).run.run w₁ = (.ok v, w₂)) :
    b.alone scope presets w f = v := by
  -- worlds do not matter here, since nothing is transformed
  have hblind : Blind fun _ _ : World ν => True := fun _ _ _ _ _ _ _ => trivial
  have hagrees : Agrees (fun _ _ => True) (b.bindOne nested scope presets f)
      (b.bindOne (fun _ _ => throw .endless) scope presets f) := by
    refine agrees_bindOne hblind
      (agrees_bindField hblind (fun t ht => ?_) fun shape ms n hs hk => ?_)
    · rw [hf.untransformed] at ht
      cases ht
    · rw [hf.unnested shape hs] at hk
      cases hk
  rcases hagrees w₁ w trivial with hend | ⟨heq, -⟩
  · rw [h] at hend
    cases hend
  · rw [h] at heq
    rw [alone, ← heq]

/-- Flat fields are bound to their own values, each under its identifier. -/
theorem bindAll_eq_alone {nested : Target → ν → Run ν Value} {fs : List FieldSpec}
    (hfs : ∀ f ∈ fs, f.Flat) (w : World ν) {w₁ w₂ : World ν} {values : Bound}
    (h : (b.bindAll nested scope presets fs).run.run w₁ = (.ok values, w₂)) :
    values = fs.filterMap (entryOf (b.alone scope presets w)) := by
  induction fs generalizing w₁ w₂ values with
  | nil =>
    cases h
    rfl
  | cons f fs ih =>
    obtain ⟨v, w₃, hone, h⟩ := run_bind_eq_ok h
    obtain ⟨rest, w₄, hrest, h⟩ := run_bind_eq_ok h
    have hv := bindOne_eq_alone (hfs f List.mem_cons_self) w hone
    have hvalues := ih (fun g hg => hfs g (List.mem_cons_of_mem _ hg)) hrest
    rw [List.filterMap_cons, entryOf, hv, ← hvalues]
    cases v <;> cases h <;> rfl

/-! ## Values under names -/

variable {own : FieldSpec → Option Value} {decls : List FieldDecl} {fs : List FieldSpec}

theorem filterMap_entryOf (own : FieldSpec → Option Value) (fs : List FieldSpec) :
    fs.filterMap (entryOf own) = boundOf fs (fs.map own) := by
  induction fs with
  | nil => rfl
  | cons f fs ih =>
    rw [List.filterMap_cons, List.map_cons, entryOf]
    cases own f with
    | none => exact ih
    | some u => exact congrArg _ ih

/-- Every key of the bound values is the name of a field. -/
theorem exists_decl_of_lookup
    (h : List.Forall₂ (fun decl f => f.identifier = .name decl.name) decls fs) {key : String}
    {v : Value} (hv : (namedEntries (fs.filterMap (entryOf own))).lookup key = some v) :
    ∃ decl ∈ decls, key = decl.name := by
  rw [filterMap_entryOf] at hv
  exact exists_decl_of_lookup_boundOf h hv

/-- Under the name of a field lies its own value. -/
theorem lookup_named (h : List.Forall₂ (fun decl f => f.identifier = .name decl.name) decls fs)
    (hn : (decls.map (·.name)).Nodup) : ∀ p ∈ decls.zip fs,
      (namedEntries (fs.filterMap (entryOf own))).lookup p.1.name = own p.2 := by
  intro p hp
  have hvalues : fs.zip (fs.map own) = fs.map fun f => (f, own f) := by
    simpa using List.zip_map' (f := id) (g := own) (l := fs)
  have hmem : (p.1, p.2, own p.2) ∈ decls.zip (fs.zip (fs.map own)) := by
    rw [hvalues, List.zip_map_right]
    exact List.mem_map.2 ⟨p, hp, rfl⟩
  rw [filterMap_entryOf]
  exact lookup_boundOf h hn _ hmem

end Binder

namespace Validation

variable {m : Model} {decl : FieldDecl} {data : Entries}

/-! ## Ways to a field -/

theorem follow?_name (data : Entries) (key : String) : follow? data [.name key] = data.lookup key :=
  Option.bind_fun_some (data.lookup key)

/-- What is found lies at the end of one of the ways to the field. -/
theorem follow?_of_find? {steps : Path} {v : Value} (h : find? m decl data = some (steps, v)) :
    steps ∈ waysTo m decl ∧ follow? data steps = some v := by
  obtain ⟨way, hmem, hway⟩ := List.exists_of_findSome?_eq_some h
  obtain ⟨u, hu, heq⟩ := Option.map_eq_some_iff.1 hway
  cases heq
  exact ⟨hmem, hu⟩

/-- A way into bound values starts at a key that is there. -/
theorem exists_key_of_follow? {head : Identifier} {rest : Path} {v : Value}
    (h : follow? data (head :: rest) = some v) : ∃ key u, head = .name key ∧
      data.lookup key = some u ∧ followFrom? u rest = some v := by
  obtain ⟨u, hu, hrest⟩ := Option.bind_eq_some_iff.1 h
  cases head with
  | name key => exact ⟨key, u, rfl, hu, hrest⟩
  | position i => cases hu

/-- Where names are not read, the only way to a field is its name. -/
theorem waysTo_of_not_readsNames (h : Schema.checkAliases m decl = .ok ())
    (hn : m.readsNames = false) : waysTo m decl = [[.name decl.name]] := by
  unfold Schema.checkAliases at h
  rw [hn] at h
  simp only [Bool.false_eq_true, if_false] at h
  split at h
  · cases h
  · rename_i hnone
    rcases ha : decl.readingAlias? with _ | a
    · simp only [waysTo, ha]
    · have heq : a = .key decl.name := by
        rw [List.find?_eq_none] at hnone
        have hmem : a ∈ (decl.aliasName.map Alias.key).toList ++ decl.readingAlias?.toList := by
          rw [ha]
          exact List.mem_append_right _ (List.mem_singleton_self a)
        simpa using hnone a hmem
      simp only [waysTo, ha, heq, hn, Alias.ways, Bool.false_eq_true, if_false, List.append_nil]

/-- The name of a field of an accepted model is one of the ways to it. -/
theorem name_mem_waysTo (h : m.readsNames = false → Schema.checkAliases m decl = .ok ()) :
    [.name decl.name] ∈ waysTo m decl := by
  cases hn : m.readsNames with
  | false =>
    rw [waysTo_of_not_readsNames (h hn) hn]
    exact List.mem_singleton_self _
  | true =>
    unfold waysTo
    split
    · exact List.mem_singleton_self _
    · rw [hn]
      exact List.mem_append_right _ (List.mem_singleton_self _)

/-! ## Wrapped values -/

/-- What is wrapped is the validated value of the only field, or else the default of the field. -/
theorem exists_root_of_rootedOf (hdecl : m.fields = [decl]) {build : Build} {own : Option Value}
    {v : Value} (hv : rootedOf build m own = .ok v) : ∃ root, v = .rooted m.name root ∧
      (match own with
        | some u => checkField build decl [] u
        | none => defaultField build m decl []) = .ok root := by
  have hhead : m.fields.head? = some decl := by rw [hdecl]; rfl
  have hwrapped : ∀ x : Checked Value, (x >>= fun root => pure (Value.rooted m.name root)) = .ok v →
      ∃ root, v = .rooted m.name root ∧ x = .ok root := by
    intro x hx
    obtain ⟨root, hroot, hx⟩ := bind_eq_ok.1 hx
    cases hx
    exact ⟨root, rfl, hroot⟩
  simp only [rootedOf, hhead] at hv
  cases own with
  | some u => exact hwrapped _ hv
  | none =>
    rw [defaultField]
    dsimp only at hv ⊢
    split at hv
    · split at hv
      · rename_i hvalidate
        obtain ⟨root, rfl, hroot⟩ := hwrapped _ hv
        exact ⟨root, rfl, by rw [if_pos hvalidate, located_eq_ok]; exact hroot⟩
      · rename_i hvalidate
        obtain ⟨root, rfl, hroot⟩ := hwrapped _ hv
        exact ⟨root, rfl, by rw [if_neg hvalidate]; exact hroot⟩
    · obtain ⟨root, -, heq⟩ := hwrapped _ hv
      cases heq

/-! ## Values of text fields -/

theorem checkField_textual (h : m.Textual) (hd : decl ∈ m.fields) (build : Build) (v : Value) :
    checkField build decl [] v = (checkText v).map .text := by
  unfold checkField
  rw [h.typed decl hd, h.unlimited decl hd, h.unchecked decl hd, check]
  rcases checkText v with is | s <;> rfl

/-- The value that is meant for a field: what it is bound to, or else its default. -/
def meant (m : Model) (decl : FieldDecl) : Option Value → Checked Value
  | some v => checkField FieldSpec.noModel decl [] v
  | none => defaultField FieldSpec.noModel m decl []

theorem defaultField_textual (h : m.Textual) (hd : decl ∈ m.fields) (build : Build) :
    defaultField build m decl [] = meant m decl none := by
  rcases hv : decl.default? with _ | v
  · simp only [meant, defaultField, hv]
  · simp only [meant, defaultField, hv, checkField_textual h hd]

/-- An alias leads a field to a value that is not the one meant for it. -/
def Strays (m : Model) (decl : FieldDecl) (data : Entries) (own : Option Value) : Prop :=
  m.wraps = false ∧ ∃ steps v, find? m decl data = some (steps, v) ∧ steps ≠ [.name decl.name] ∧
    checkField FieldSpec.noModel decl [] v ≠ meant m decl own

/-- A text field that is read holds the value that is meant for it, unless it strays. -/
theorem readField_eq_meant_iff (h : m.Textual) (hw : m.wraps = false) (hd : decl ∈ m.fields)
    (hname : [.name decl.name] ∈ waysTo m decl) {build : Build} {v : Value}
    (hv : readField build m data decl [] = .ok v) :
    meant m decl (data.lookup decl.name) = .ok v ↔
      ¬ Strays m decl data (data.lookup decl.name) := by
  unfold readField at hv
  rcases hf : find? m decl data with _ | ⟨steps, u⟩
  · have hnone : data.lookup decl.name = none := by
      have hway := List.findSome?_eq_none_iff.1 hf _ hname
      rwa [Option.map_eq_none_iff, follow?_name] at hway
    rw [hf, defaultField_textual h hd] at hv
    rw [hnone]
    refine iff_of_true hv ?_
    rintro ⟨-, steps, u, hsome, -⟩
    rw [hf] at hsome
    cases hsome
  · rw [hf, located_eq_ok, checkField_textual h hd,
      ← checkField_textual h hd FieldSpec.noModel] at hv
    by_cases hs : steps = [.name decl.name]
    · have hu := (follow?_of_find? hf).2
      rw [hs, follow?_name] at hu
      rw [hu]
      refine iff_of_true hv ?_
      rintro ⟨-, steps', u', hsome, hne, -⟩
      rw [hf] at hsome
      cases hsome
      exact hne hs
    · constructor
      · rintro hmeant ⟨-, steps', u', hsome, -, hne⟩
        rw [hf] at hsome
        cases hsome
        exact hne (hv.trans hmeant.symm)
      · intro hstays
        by_contra hmeant
        exact hstays ⟨hw, steps, u, hf, hs, fun heq => hmeant (heq.symm.trans hv)⟩

/-- A text that is wrapped is the one that is meant. -/
theorem meant_of_rootedOf (h : m.Textual) (hdecl : m.fields = [decl]) {build : Build}
    {own : Option Value} {v : Value} (hv : rootedOf build m own = .ok v) :
    ∃ root, v = .rooted m.name root ∧ meant m decl own = .ok root := by
  have hd : decl ∈ m.fields := by rw [hdecl]; exact List.mem_singleton_self decl
  obtain ⟨root, rfl, hroot⟩ := exists_root_of_rootedOf hdecl hv
  refine ⟨root, rfl, ?_⟩
  cases own with
  | some u => rwa [meant, checkField_textual h hd, ← checkField_textual h hd build]
  | none => rwa [← defaultField_textual h hd build]

end Validation

/-! ## Fields that are apart -/

/-- No way to a field, but its own name, starts at the name of a field. -/
def Model.Apart (m : Model) : Prop :=
  ∀ f ∈ m.fields, ∀ way ∈ Validation.waysTo m f, way = [.name f.name] ∨
    ∃ head rest, way = head :: rest ∧ ∀ g ∈ m.fields, head ≠ .name g.name

theorem Model.Apart.not_strays {m : Model} (h : m.Apart) {decl : FieldDecl} (hd : decl ∈ m.fields)
    {data : Validation.Entries}
    (hkeys : ∀ key v, data.lookup key = some v → ∃ g ∈ m.fields, key = g.name)
    (own : Option Value) : ¬ Validation.Strays m decl data own := by
  rintro ⟨-, steps, v, hf, hne, -⟩
  obtain ⟨hmem, hu⟩ := Validation.follow?_of_find? hf
  obtain ⟨head, rest, rfl, hout⟩ := (h decl hd _ hmem).resolve_left hne
  obtain ⟨key, x, rfl, hx, -⟩ := Validation.exists_key_of_follow? hu
  obtain ⟨g, hg, rfl⟩ := hkeys key x hx
  exact hout g hg rfl

/-- A model that does not read names keeps its fields apart: its aliases are their names. -/
theorem Schema.apart_of_not_readsNames {m : Model} {s : Schema} (hs : Schema.ofModel m = .ok s)
    (hw : m.wraps = false) (hn : m.readsNames = false) : m.Apart := by
  intro f hf way hmem
  obtain ⟨spec, -, i, hof⟩ := Schema.exists_spec hs hf
  obtain ⟨d, -, -, haliases⟩ := Schema.fieldOf_eq_ok hof
  rw [Validation.waysTo_of_not_readsNames (haliases hw) hn, List.mem_singleton] at hmem
  exact .inl hmem

/-! ## Instances -/

/-- What an instance holds in a field. A model that wraps a value has no other field. -/
def Value.held? (name : String) : Value → Option Value
  | .record _ fields => fields.lookup name
  | .rooted _ root => some root
  | _ => none

def Value.Holds (v : Value) (name : String) (x : Validation.Checked Value) : Prop :=
  ∃ w, v.held? name = some w ∧ x = .ok w

namespace Binder

variable {ν : Type} {b : Binder ν} {m : Model} {s : Schema}

theorem forall₂_identifier (hs : Schema.ofModel m = .ok s) (hw : m.wraps = false) :
    List.Forall₂ (fun decl f => f.identifier = .name decl.name) m.fields s.fields := by
  refine (Schema.fieldsFrom_eq_ok (Schema.ofModel_eq_ok hs).2.2).1.imp ?_
  rintro decl f ⟨i, hf⟩
  rw [Schema.identifier_of_fieldOf hf, Schema.identifierOf, hw]
  rfl

/-- An instance of a model that wraps a text holds the value that is meant for it. -/
theorem holds_of_wraps (hs : Schema.ofModel m = .ok s) (ht : m.Textual) (hw : m.wraps = true)
    {own : FieldSpec → Option Value} {build : Validation.Build} {v : Value}
    (h : Validation.rootedOf build m
      ((s.fields.filterMap (entryOf own)).lookup (.position 0)) = .ok v) :
    ∀ p ∈ m.fields.zip s.fields, v.Holds p.1.name (Validation.meant m p.1 (own p.2)) := by
  obtain ⟨decl, hdecl⟩ := ht.single hw
  obtain ⟨f, hf, hid⟩ := Schema.exists_field_of_wraps hs hw hdecl
  have hlookup : (s.fields.filterMap (entryOf own)).lookup (.position 0) = own f := by
    rw [hf]
    rcases ho : own f with _ | u <;> simp [entryOf, ho, hid]
  rw [hlookup] at h
  intro p hp
  rw [hdecl, hf, List.zip_cons_cons, List.zip_nil_left, List.mem_singleton] at hp
  subst hp
  obtain ⟨root, rfl, hroot⟩ := Validation.meant_of_rootedOf ht hdecl h
  exact ⟨root, rfl, hroot⟩

/-- An instance of a model of texts holds the values that are meant for its fields, but for fields
that stray. -/
theorem holds_iff_of_instance (hs : Schema.ofModel m = .ok s) (ht : m.Textual)
    (hw : m.wraps = false) {own : FieldSpec → Option Value} {build : Validation.Build} {v : Value}
    (h : Validation.recordOf build m (namedEntries (s.fields.filterMap (entryOf own))) = .ok v) :
    ∀ p ∈ m.fields.zip s.fields, v.Holds p.1.name (Validation.meant m p.1 (own p.2)) ↔
      ¬ Validation.Strays m p.1 (namedEntries (s.fields.filterMap (entryOf own))) (own p.2) := by
  obtain ⟨fields, rfl, hread, -⟩ := Validation.recordOf_eq_ok.1 h
  have hprepare : ∀ data, Validation.prepare m data = data := by
    intro data
    rw [Validation.prepare, ht.whole]
    rfl
  rw [hprepare] at hread
  intro p hp
  have hd := (List.of_mem_zip hp).1
  obtain ⟨spec, -, i, hof⟩ := Schema.exists_spec hs hd
  obtain ⟨d, -, -, haliases⟩ := Schema.fieldOf_eq_ok hof
  obtain ⟨w, hlookup, hw'⟩ := (Validation.readFields_eq_ok.1 hread).1.lookup ht.distinct p.1 hd
  have hsolitary : p.1.Solitary := FieldDecl.overlooks_of_unchecked (ht.unchecked p.1 hd) _
  rw [Validation.readField_solitary hsolitary] at hw'
  have hiff := Validation.readField_eq_meant_iff ht hw hd
    (Validation.name_mem_waysTo fun _ => haliases hw) hw'
  rw [lookup_named (forall₂_identifier hs hw) ht.distinct p hp] at hiff
  rw [← hiff]
  constructor
  · rintro ⟨w', hheld, heq⟩
    rw [heq, ← Option.some.inj (hlookup.symm.trans hheld)]
  · intro heq
    exact ⟨w, hlookup, heq⟩

/-- Of a model of texts, a field of an instance holds the value that is meant for it, from its own
query, preset or default, unless an alias leads it astray; and no field strays in a model that wraps
its value, or does not read names, or keeps its fields apart. -/
theorem a_field_holds_its_own_value_unless_it_strays (b : Binder ν) {m : Model} {s : Schema}
    (hm : b.family.model? m.name = some m) (hs : Schema.ofModel m = .ok s) (ht : m.Textual)
    (w : World ν) (hw : Registry.Faithful b.family w.registry) (scope : Option ν) (presets : Bound)
    {v : Value} (hv : ((b.materialize (.model m.name) scope presets).run.run w).1 = .ok v) :
    (∀ p ∈ m.fields.zip s.fields,
      v.Holds p.1.name (Validation.meant m p.1 (b.alone scope presets w p.2)) ↔
        ¬ Validation.Strays m p.1
          (namedEntries (s.fields.filterMap (entryOf (b.alone scope presets w))))
          (b.alone scope presets w p.2)) ∧
    (m.wraps = true ∨ m.readsNames = false ∨ m.Apart → ∀ p ∈ m.fields.zip s.fields,
      v.Holds p.1.name (Validation.meant m p.1 (b.alone scope presets w p.2))) := by
  have hof : Schema.ofTarget b.family (.model m.name) = .ok s := by
    simp only [Schema.ofTarget, hm]
    exact hs
  have hflat : ∀ f ∈ s.fields, f.Flat := by
    intro f hf
    obtain ⟨decl, hd, i, hfield⟩ := Schema.exists_decl hs hf
    exact ht.flat hd hfield
  obtain ⟨nested, values, w₁, w₂, hbind, hassemble⟩ := exists_bound_of_materialize hw hof hv
  rw [bindAll_eq_alone hflat w hbind] at hassemble
  rw [assemble_eq hm hs] at hassemble
  cases hwraps : m.wraps with
  | true =>
    rw [hwraps, if_pos rfl] at hassemble
    have hall := holds_of_wraps hs ht hwraps (Validation.eq_ok_of_mapError hassemble)
    refine ⟨fun p hp => iff_of_true (hall p hp) ?_, fun _ => hall⟩
    rintro ⟨hfalse, -⟩
    rw [hwraps] at hfalse
    cases hfalse
  | false =>
    rw [hwraps, if_neg Bool.false_ne_true] at hassemble
    have hall := holds_iff_of_instance hs ht hwraps (Validation.eq_ok_of_mapError hassemble)
    refine ⟨hall, fun hapart p hp => (hall p hp).2 ?_⟩
    have happart : m.Apart := by
      rcases hapart with h | h | h
      · cases h
      · exact Schema.apart_of_not_readsNames hs hwraps h
      · exact h
    exact happart.not_strays (List.of_mem_zip hp).1
      (fun key u hu => exists_decl_of_lookup (forall₂_identifier hs hwraps) hu) _

/-- A field with an alias, in a model that reads names. -/
def aliased (name aliasName query : String) : FieldDecl :=
  ⟨name, .text, [.scrape query none none], none, none, some aliasName, none,
    ⟨none, none, none, none⟩, []⟩

/-- A document that answers every query with the query itself. -/
def echo : Document Unit := ⟨fun query _ => .ok [.text query], fun _ => .ok "", 1⟩

/-- A headline that is also called a title, which is no field. -/
def headlines : Model :=
  ⟨"Article", [aliased "headline" "title" "//h1"], false, ⟨true, false, false, false, false⟩, []⟩

theorem headlines_textual : headlines.Textual := by
  constructor <;> simp [headlines, aliased, Directive.scrape]

def headlineSpec : FieldSpec :=
  ⟨.name "headline", .required, some "//h1", some ⟨.scalar, none⟩, none, none⟩

theorem a_headline_holds_its_own_value :
    Schema.ofModel headlines = .ok ⟨"Article", [headlineSpec], false⟩ ∧ headlines.Textual ∧
      (Value.record "Article" [("headline", .text "//h1")]).Holds "headline"
        (Validation.meant headlines (aliased "headline" "title" "//h1")
          (Binder.alone ⟨[headlines], echo, .error⟩ none []
            ⟨.empty, [], .initial .standard, []⟩ headlineSpec)) := by
  have hapart : headlines.Apart := by
    simp [Model.Apart, Model.readsNames, headlines, aliased, Validation.waysTo,
      FieldDecl.readingAlias?, Alias.ways]
  have hrun : ((materialize ⟨[headlines], echo, .error⟩ (.model "Article") none []).run.run
      ⟨.empty, [], .initial .standard, []⟩).1 =
        .ok (.record "Article" [("headline", .text "//h1")]) := by
    cbv
  refine ⟨rfl, headlines_textual, ?_⟩
  exact (a_field_holds_its_own_value_unless_it_strays ⟨[headlines], echo, .error⟩ (m := headlines)
    (s := ⟨"Article", [headlineSpec], false⟩) rfl rfl headlines_textual
    ⟨.empty, [], .initial .standard, []⟩ (Registry.faithful_empty _) none [] hrun).2
      (.inr (.inr hapart)) (aliased "headline" "title" "//h1", headlineSpec)
      (List.mem_singleton_self _)

/-- Two fields, the first with the name of the second for its alias. -/
def twins : Model :=
  ⟨"A", [aliased "a" "b" "//a", .bound "b" .text (.scrape "//b" none none) none], false,
    ⟨true, false, false, false, false⟩, []⟩

/-- The first field holds what the query of the second one gave. -/
theorem an_alias_takes_the_value_of_another_field :
    twins.Textual ∧
      Schema.ofModel twins = .ok ⟨"A",
        [⟨.name "a", .required, some "//a", some ⟨.scalar, none⟩, none, none⟩,
          ⟨.name "b", .required, some "//b", some ⟨.scalar, none⟩, none, none⟩], false⟩ ∧
      echo.evaluate "//a" none = .ok [.text "//a"] ∧
      ((materialize ⟨[twins], echo, .error⟩ (.model "A") none []).run.run
        ⟨.empty, [], .initial .standard, []⟩).1 =
          .ok (.record "A" [("a", .text "//b"), ("b", .text "//b")]) := by
  refine ⟨?_, rfl, rfl, by cbv⟩
  constructor <;> simp [twins, aliased, FieldDecl.bound, Directive.scrape]

end Binder

end QueryBinding
