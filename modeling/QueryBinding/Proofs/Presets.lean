-- Presets. Two runs that differ in their presets alone make the same calls, and
-- the presets decide about the ignored fields of the instance itself and about
-- nothing else, above all not about what is nested in it, as long as no check of
-- another field looks at an ignored one.
import QueryBinding.Proofs.Nesting
import QueryBinding.Proofs.Typing

namespace QueryBinding

namespace Run

variable {ν α β : Type}

theorem run_map (g : α → β) (m : Run ν α) (w : World ν) :
    (g <$> m).run.run w = ((m.run.run w).1.map g, (m.run.run w).2) := by
  rw [map_eq_pure_bind]
  rcases h : m.run.run w with ⟨e | a, w'⟩
  · rw [run_bind_error h]
    rfl
  · rw [run_bind_ok h]
    rfl

theorem run_bind_ofExcept (m : Run ν α) (f : α → Except Failure β) (w : World ν) :
    (m >>= fun a => ofExcept (f a)).run.run w = ((m.run.run w).1 >>= f, (m.run.run w).2) := by
  rcases h : m.run.run w with ⟨e | a, w'⟩
  · rw [run_bind_error h]
    rfl
  · rw [run_bind_ok h, run_ofExcept]
    rfl

theorem length_of_run_mapM {f : α → Run ν β} {as : List α} {bs : List β} {w w' : World ν}
    (h : (as.mapM f).run.run w = (.ok bs, w')) : bs.length = as.length := by
  induction as generalizing bs w with
  | nil =>
    cases h
    rfl
  | cons a as ih =>
    rw [List.mapM_cons] at h
    obtain ⟨b, w₁, -, h⟩ := run_bind_eq_ok h
    obtain ⟨rest, w₂, hrest, h⟩ := run_bind_eq_ok h
    cases h
    rw [List.length_cons, List.length_cons, ih hrest]

end Run

namespace Binder

open Run

variable {ν : Type} {b : Binder ν}

/-! ## Bound values under presets -/

/-- The preset that reaches a field. Only an ignored field has one. -/
def presetFor (presets : Bound) (f : FieldSpec) : Option Value :=
  if f.mode = .ignore then presets.lookup f.identifier else none

theorem presetFor_nil (f : FieldSpec) : presetFor [] f = none := by
  unfold presetFor
  split <;> rfl

/-- A field is bound to its preset, and without one as if there were no presets. -/
theorem bindOne_presetFor (nested : Target → ν → Run ν Value) (scope : Option ν) (presets : Bound)
    (f : FieldSpec) : b.bindOne nested scope presets f =
      (presetFor presets f).or <$> b.bindOne nested scope [] f := by
  unfold bindOne presetFor
  cases f.mode with
  | required => simp
  | optional => simp
  | useDefault =>
    cases f.factory with
    | none => simp
    | some v => simp
  | ignore => simp

/-- Fields are bound one after the other, each to its own value. -/
theorem bindAll_eq_mapM (nested : Target → ν → Run ν Value) (scope : Option ν) (presets : Bound)
    (fs : List FieldSpec) : b.bindAll nested scope presets fs =
      boundOf fs <$> fs.mapM (b.bindOne nested scope presets) := by
  induction fs with
  | nil => simp [bindAll, boundOf]
  | cons f fs ih =>
    simp only [bindAll, ih, List.mapM_cons, map_bind, map_pure, bind_map_left]
    refine bind_congr fun v => bind_congr fun vs => ?_
    cases v with
    | none => rfl
    | some v => rfl

/-- The values of fields under presets, given their values without. -/
def withPresets (presets : Bound) (fs : List FieldSpec) (values : List (Option Value)) :
    List (Option Value) :=
  List.zipWith (fun f => (presetFor presets f).or) fs values

theorem mapM_bindOne_presetFor (nested : Target → ν → Run ν Value) (scope : Option ν)
    (presets : Bound) (fs : List FieldSpec) : fs.mapM (b.bindOne nested scope presets) =
      withPresets presets fs <$> fs.mapM (b.bindOne nested scope []) := by
  induction fs with
  | nil => simp [withPresets]
  | cons f fs ih =>
    simp only [List.mapM_cons, ih, bindOne_presetFor nested scope presets f, map_bind, map_pure,
      bind_map_left]
    rfl

/-- What a structure does before it is put together does not depend on the presets. -/
theorem exists_run_structureWithin (b : Binder ν) (s : Schema) (scope : Option ν) (w : World ν) :
    ∃ values w',
      ((b.bindAll b.below scope [] s.fields).run.run w).1 = values.map (boundOf s.fields) ∧
      (∀ vs, values = .ok vs → vs.length = s.fields.length) ∧
      ∀ presets, (b.structureWithin b.depth s scope presets).run.run w =
        (values >>= fun vs => assemble b.family s
          (boundOf s.fields (withPresets presets s.fields vs)), w') := by
  rcases hrun : (s.fields.mapM (b.bindOne b.below scope [])).run.run w with ⟨values, w'⟩
  refine ⟨values, w', ?_, fun vs hvs => ?_, fun presets => ?_⟩
  · rw [bindAll_eq_mapM, run_map, hrun]
  · subst hvs
    exact length_of_run_mapM hrun
  · change (b.bindAll b.below scope presets s.fields >>= fun values =>
      Run.ofExcept (assemble b.family s values)).run.run w = _
    rw [bindAll_eq_mapM, mapM_bindOne_presetFor, bind_map_left, bind_map_left,
      run_bind_ofExcept, hrun]

/-- Two whole runs with presets that are ignored fields bind the same values to the other fields,
and make the same calls. -/
theorem exists_run_materialize (b : Binder ν) {name : String} {s : Schema} {w : World ν}
    (hd : ¬ b.family.Doomed name) (hs : Schema.ofTarget b.family (.model name) = .ok s)
    (hw : Registry.Faithful b.family w.registry) (scope : Option ν) :
    ∃ values trace, ((b.upTo (.model name) scope [] s.fields).run.run w).1 =
        values.map (boundOf s.fields) ∧
      (∀ vs, values = .ok vs → vs.length = s.fields.length) ∧
      ∀ presets, checkPresets s presets = .ok () →
        ((b.materialize (.model name) scope presets).run.run w).1 =
          (values >>= fun vs => assemble b.family s
            (boundOf s.fields (withPresets presets s.fields vs))) ∧
        ((b.materialize (.model name) scope presets).run.run w).2.trace = trace := by
  obtain ⟨log, hlookup⟩ := exists_run_lookup hd hs hw
  let w₁ : World ν :=
    { w with registry := (w.registry.register b.family name).registry, log := log }
  obtain ⟨values, w₂, hbound, hlength, hstructure⟩ := b.exists_run_structureWithin s scope
    { w₁ with log := (w₁.log.enter [("target", .text s.target)]).2 }
  refine ⟨values, w₂.trace, ?_, hlength, fun presets hpresets => ?_⟩
  · have hnone : checkPresets s [] = .ok () := checkPresets_eq_ok (by simp)
    rw [← hbound, upTo, enter, bind_assoc, run_bind_ok hlookup, hnone]
    rfl
  · rw [materialize_eq, run_bind_ok hlookup, instantiate, hpresets]
    have hrun := run_logging [("target", .text s.target)]
      (Run.ensuring (b.structureWithin b.depth s scope presets) report) w₁
    rw [run_ensuring, hstructure presets] at hrun
    obtain ⟨log', hreport⟩ := exists_report_log (values >>= fun vs => assemble b.family s
      (boundOf s.fields (withPresets presets s.fields vs))) w₂
    rw [hreport] at hrun
    exact ⟨congrArg Prod.fst hrun, congrArg (fun r => r.2.trace) hrun⟩

end Binder

/-! ## Instances of models that are read as they are -/

/-- Nothing renames the fields of the model, and nothing checks an instance as a whole. -/
structure Model.Direct (m : Model) : Prop where
  unaliased : ∀ f ∈ m.fields, f.aliasName = none ∧ f.validationAlias = none
  whole : m.checks = []
  distinct : (m.fields.map (·.name)).Nodup
  single : m.wraps = true → ∃ f, m.fields = [f]

theorem Model.Direct.readingAlias? {m : Model} (h : m.Direct) {decl : FieldDecl}
    (hd : decl ∈ m.fields) : decl.readingAlias? = none := by
  rw [FieldDecl.readingAlias?, (h.unaliased decl hd).1, (h.unaliased decl hd).2]
  rfl

/-- The fields of an instance before one of its fields. -/
def Value.before (name : String) : Value → Validation.Entries
  | .record _ fields => fields.takeWhile (·.1 != name)
  | _ => []

namespace Validation

variable {family : Family} {m : Model} {decl : FieldDecl} {earlier : Entries}

/-- A bound value, validated for its field, given the fields before it. -/
def validated (family : Family) (m : Model) (decl : FieldDecl) (earlier : Entries) (v : Value) :
    Checked Value :=
  checkField (builder family m (if m.wraps then some v else none)) decl earlier v

/-- What becomes of a field, given the value that it is bound to, if there is one. -/
def settled (family : Family) (m : Model) (decl : FieldDecl) (earlier : Entries) :
    Option Value → Checked Value
  | some v => validated family m decl earlier v
  | none => defaultField (builder family m none) m decl earlier

theorem readField_eq_settled (hm : m.Direct) (hd : decl ∈ m.fields) (hw : m.wraps = false)
    {data : Entries} {v : Value}
    (h : readField (builder family m none) m data decl earlier = .ok v) :
    settled family m decl earlier (data.lookup decl.name) = .ok v := by
  unfold readField at h
  rw [find?_of_unaliased m (hm.readingAlias? hd)] at h
  cases hl : data.lookup decl.name with
  | none =>
    rw [hl] at h
    exact h
  | some u =>
    rw [hl] at h
    rw [settled, validated, hw]
    exact located_eq_ok.1 h

theorem settled_of_wrapperOf (hfields : m.fields = [decl]) (hw : m.wraps = true)
    {own : Option Value} {v : Value} (h : wrapperOf family m own = .ok v) :
    ∃ root, v = .rooted m.name root ∧ settled family m decl [] own = .ok root := by
  obtain ⟨root, rfl, hroot⟩ := exists_root_of_rootedOf hfields h
  refine ⟨root, rfl, ?_⟩
  cases own with
  | none => exact hroot
  | some u =>
    rw [settled, validated, hw, if_pos rfl]
    exact hroot

/-- Two readings give the same in a field that is found alike in both, if its checks look at no
hidden field and the fields that are not hidden are found alike in both. -/
theorem Reads.lookup_eq {build : Build} {data data' earlier earlier' fields fields' : Entries}
    {fs : List FieldDecl} {hidden : String → Bool} (h : Reads build m data earlier fs fields)
    (h' : Reads build m data' earlier' fs fields') (hn : (fs.map (·.name)).Nodup)
    (hsame : visible hidden earlier = visible hidden earlier')
    (hfs : ∀ f ∈ fs, hidden f.name = false →
      f.Overlooks hidden ∧ find? m f data = find? m f data') :
    ∀ f ∈ fs, f.Overlooks hidden → find? m f data = find? m f data' →
      fields.lookup f.name = fields'.lookup f.name := by
  induction h generalizing earlier' fields' with
  | nil => simp
  | @cons earlier f fs v es hv _ ih =>
    obtain - | ⟨hv', hes'⟩ := h'
    rename_i v' es'
    rw [List.map_cons, List.nodup_cons] at hn
    have heq : f.Overlooks hidden → find? m f data = find? m f data' → v = v' := by
      intro hover hfound
      have hread : readField build m data f earlier = readField build m data' f earlier' := by
        rw [readField_congr hover hsame, readField, readField, hfound]
      rw [hv, hv'] at hread
      exact Except.ok.inj hread
    -- what is read here is hidden from the fields behind, or it is the same in both
    have hnext : visible hidden (earlier ++ [(f.name, v)]) =
        visible hidden (earlier' ++ [(f.name, v')]) := by
      unfold visible at hsame ⊢
      rw [List.filter_append, List.filter_append, hsame]
      cases hh : hidden f.name with
      | true => simp [hh]
      | false =>
        obtain ⟨hover, hfound⟩ := hfs f List.mem_cons_self hh
        rw [heq hover hfound]
    intro g hg hover hfound
    rcases List.mem_cons.1 hg with rfl | hg
    · rw [List.lookup_cons_self, List.lookup_cons_self, heq hover hfound]
    · have hne : (g.name == f.name) = false :=
        beq_false_of_ne fun hname => hn.1 (hname ▸ List.mem_map_of_mem hg)
      rw [List.lookup_cons, List.lookup_cons, hne]
      exact ih hes' hn.2 hnext (fun g hg => hfs g (List.mem_cons_of_mem _ hg)) g hg hover hfound

end Validation

/-- The fields of an instance are read from the values as they are bound. -/
theorem Model.Direct.reads_of_instanceOf {family : Family} {m : Model} (h : m.Direct)
    {data : Validation.Entries} {v : Value} (hv : Validation.instanceOf family m data = .ok v) :
    ∃ fields, v = .record m.name fields ∧
      Validation.Reads (Validation.builder family m none) m data [] m.fields fields := by
  obtain ⟨fields, rfl, hread, -⟩ := Validation.recordOf_eq_ok.1 hv
  have hprepare : Validation.prepare m data = data := by
    rw [Validation.prepare, h.whole]
    rfl
  rw [hprepare] at hread
  exact ⟨fields, rfl, (Validation.readFields_eq_ok.1 hread).1⟩

/-- Whether a name is that of an ignored field. -/
def Schema.ignores (s : Schema) (name : String) : Bool :=
  s.fields.any fun f => f.mode == .ignore && f.identifier == .name name

namespace Binder

open Run

variable {ν : Type} {b : Binder ν} {family : Family} {m : Model} {s : Schema}

/-- Every field of an instance holds what has become of the value that it was bound to. -/
theorem held_of_assemble (hm : family.model? m.name = some m) (hs : Schema.ofModel m = .ok s)
    (hdirect : m.Direct) {values : List (Option Value)} (hlen : values.length = s.fields.length)
    {v : Value} (h : assemble family s (boundOf s.fields values) = .ok v) :
    ∀ p ∈ m.fields.zip (s.fields.zip values), ∃ x, v.held? p.1.name = some x ∧
      Validation.settled family m p.1 (v.before p.1.name) p.2.2 = .ok x := by
  rw [assemble_eq hm hs] at h
  have h := Validation.eq_ok_of_mapError h
  cases hw : m.wraps with
  | true =>
    obtain ⟨decl, hdecl⟩ := hdirect.single hw
    obtain ⟨f, hf, hid⟩ := Schema.exists_field_of_wraps hs hw hdecl
    rw [hf, List.length_singleton, List.length_eq_one_iff] at hlen
    obtain ⟨o, rfl⟩ := hlen
    have hlookup : (boundOf [f] [o]).lookup (.position 0) = o :=
      hid ▸ lookup_boundOf_singleton f o
    rw [hw, if_pos rfl, hf, hlookup] at h
    obtain ⟨root, rfl, hroot⟩ := Validation.settled_of_wrapperOf hdecl hw h
    rw [hdecl, hf, List.zip_cons_cons, List.zip_cons_cons, List.zip_nil_left,
      List.forall_mem_singleton]
    exact ⟨root, rfl, hroot⟩
  | false =>
    rw [hw, if_neg Bool.false_ne_true] at h
    obtain ⟨fields, rfl, hreads⟩ := hdirect.reads_of_instanceOf h
    intro p hp
    have hd := (List.of_mem_zip hp).1
    obtain ⟨x, hlookup, hx⟩ := hreads.lookup hdirect.distinct p.1 hd
    have hsettled := Validation.readField_eq_settled hdirect hd hw hx
    rw [lookup_boundOf (forall₂_identifier hs hw) hdirect.distinct p hp] at hsettled
    exact ⟨x, hlookup, hsettled⟩

/-! ## Whole runs -/

/-- Every field has its place among values with and without presets. -/
theorem exists_mem_zip_withPresets {decls : List FieldDecl} {fs : List FieldSpec}
    {vs : List (Option Value)} (hlen : vs.length = fs.length) {p : FieldDecl × FieldSpec}
    (hp : p ∈ decls.zip fs) : ∃ o, ∀ presets,
      (p.1, p.2, (presetFor presets p.2).or o) ∈
        decls.zip (fs.zip (withPresets presets fs vs)) := by
  induction decls generalizing fs vs with
  | nil => cases hp
  | cons decl decls ih =>
    cases fs with
    | nil => cases hp
    | cons f fs =>
      obtain ⟨o, vs, rfl⟩ := List.exists_cons_of_length_eq_add_one hlen
      rw [List.zip_cons_cons, List.mem_cons] at hp
      rcases hp with rfl | hp
      · exact ⟨o, fun presets => List.mem_cons_self⟩
      · obtain ⟨o', ho'⟩ := ih (Nat.succ.inj hlen) hp
        exact ⟨o', fun presets => List.mem_cons_of_mem _ (ho' presets)⟩

/-- Two instances hold the same in a field without a preset, if the checks of other fields than
ignored ones, and those of the field, look at no ignored field. -/
theorem held_eq_of_assemble (hm : family.model? m.name = some m) (hs : Schema.ofModel m = .ok s)
    (hdirect : m.Direct)
    (hblind : ∀ p ∈ m.fields.zip s.fields, p.2.mode ≠ .ignore → p.1.Overlooks s.ignores)
    {presets : Bound} {vs : List (Option Value)} (hlen : vs.length = s.fields.length) {v v' : Value}
    (h : assemble family s (boundOf s.fields (withPresets presets s.fields vs)) = .ok v)
    (h' : assemble family s (boundOf s.fields (withPresets [] s.fields vs)) = .ok v') :
    ∀ p ∈ m.fields.zip s.fields, presetFor presets p.2 = none → p.1.Overlooks s.ignores →
      v.held? p.1.name = v'.held? p.1.name := by
  intro p hp hnone hover
  cases hw : m.wraps with
  | true =>
    obtain ⟨decl, hdecl⟩ := hdirect.single hw
    obtain ⟨f, hf, -⟩ := Schema.exists_field_of_wraps hs hw hdecl
    rw [hf, List.length_singleton, List.length_eq_one_iff] at hlen
    obtain ⟨o, rfl⟩ := hlen
    rw [hdecl, hf, List.zip_cons_cons, List.zip_nil_left, List.mem_singleton] at hp
    subst hp
    have hsame : withPresets presets [f] [o] = withPresets [] [f] [o] := by
      simp only [withPresets, List.zipWith_cons_cons, hnone, presetFor_nil]
      rfl
    rw [hf, hsame, ← hf, h', Except.ok.injEq] at h
    rw [h]
  | false =>
    rw [assemble_eq hm hs, hw, if_neg Bool.false_ne_true] at h h'
    obtain ⟨fields, rfl, hreads⟩ := hdirect.reads_of_instanceOf (Validation.eq_ok_of_mapError h)
    obtain ⟨fields', rfl, hreads'⟩ := hdirect.reads_of_instanceOf (Validation.eq_ok_of_mapError h')
    have hids := forall₂_identifier hs hw
    have hfound : ∀ p ∈ m.fields.zip s.fields, presetFor presets p.2 = none →
        Validation.find? m p.1
            (namedEntries (boundOf s.fields (withPresets presets s.fields vs))) =
          Validation.find? m p.1
            (namedEntries (boundOf s.fields (withPresets [] s.fields vs))) := by
      intro p hp hnone
      have hunaliased := hdirect.readingAlias? (List.of_mem_zip hp).1
      obtain ⟨o, ho⟩ := exists_mem_zip_withPresets hlen hp
      rw [Validation.find?_of_unaliased m hunaliased, Validation.find?_of_unaliased m hunaliased,
        lookup_boundOf hids hdirect.distinct _ (ho presets),
        lookup_boundOf hids hdirect.distinct _ (ho []), hnone, presetFor_nil]
    refine hreads.lookup_eq hreads' hdirect.distinct rfl (fun f hf hshown => ?_) p.1
      (List.of_mem_zip hp).1 hover (hfound p hp hnone)
    rw [← List.map_fst_zip hids.length_eq.le, List.mem_map] at hf
    obtain ⟨q, hq, rfl⟩ := hf
    have hmode : q.2.mode ≠ .ignore := by
      intro hmode
      have hid := (List.forall₂_iff_zip.1 hids).2 hq
      have hignored : s.ignores q.1.name = true :=
        List.any_eq_true.2 ⟨q.2, (List.of_mem_zip hq).2, by simp [hmode, hid]⟩
      rw [hshown] at hignored
      cases hignored
    exact ⟨hblind q hq hmode, hfound q hq (if_neg hmode)⟩

theorem checkPresets_eq_error {presets : Bound} {p : Identifier × Value} (hp : p ∈ presets)
    (h : ∀ f ∈ s.fields, f.mode = .ignore → f.identifier ≠ p.1) :
    checkPresets s presets = .error (.fault (.notIgnored s.target (unknownPresets s presets))) := by
  have hnotin : p.1 ∉ (s.fields.filter (·.mode == .ignore)).map (·.identifier) := by
    intro hmem
    obtain ⟨f, hf, hid⟩ := List.mem_map.1 hmem
    obtain ⟨hf, hmode⟩ := List.mem_filter.1 hf
    exact h f hf (by simpa using hmode) hid
  have hunknown : p.1.text ∈ unknownPresets s presets := by
    unfold unknownPresets
    dsimp only
    rw [List.mem_mergeSort]
    refine List.mem_map.2 ⟨p, List.mem_filter.2 ⟨hp, ?_⟩, rfl⟩
    simpa using hnotin
  unfold checkPresets
  split
  · rename_i hnil
    rw [hnil] at hunknown
    cases hunknown
  · rfl

/-- Presets reach only the ignored fields of the instance itself. Of a model that is read as it is,
and whose checks of other fields look at no ignored one, let one run be given presets and another
none, in the same world. If the presets are ignored fields of the model, both runs make the same
calls, and what fails while fields are bound fails alike. Of two instances, the first holds the
validated preset in an ignored field that has one, and both hold the same in every other field,
whatever is nested in it, unless it is an ignored field with checks that look at another one. Other
presets are refused before any call. -/
theorem presets_reach_only_ignored_fields (b : Binder ν) {m : Model} {s : Schema}
    (hm : b.family.model? m.name = some m)
    (hs : (Registry.register b.family .empty m.name).result = .ok s) (hdirect : m.Direct)
    (hblind : ∀ p ∈ m.fields.zip s.fields, p.2.mode ≠ .ignore → p.1.Overlooks s.ignores)
    (scope : Option ν) (presets : Bound) (w : World ν)
    (hw : Registry.Faithful b.family w.registry) :
    let preset := (b.materialize (.model m.name) scope presets).run.run w
    let plain := (b.materialize (.model m.name) scope []).run.run w
    ((∀ p ∈ presets, ∃ f ∈ s.fields, f.mode = .ignore ∧ f.identifier = p.1) →
      preset.2.trace = plain.2.trace ∧
      (∀ e, ((b.upTo (.model m.name) scope [] s.fields).run.run w).1 = .error e →
        plain.1 = .error e ∧ preset.1 = .error e) ∧
      ∀ v v', preset.1 = .ok v → plain.1 = .ok v' → ∀ p ∈ m.fields.zip s.fields,
        match presetFor presets p.2 with
        | some u => ∃ x, v.held? p.1.name = some x ∧
            Validation.validated b.family m p.1 (v.before p.1.name) u = .ok x
        | none => p.2.mode ≠ .ignore ∨ p.1.Overlooks s.ignores →
            ∃ x, v.held? p.1.name = some x ∧ v'.held? p.1.name = some x) ∧
    ((∃ p ∈ presets, ∀ f ∈ s.fields, f.mode = .ignore → f.identifier ≠ p.1) →
      preset.1 = .error (.fault (.notIgnored m.name (unknownPresets s presets))) ∧
        preset.2.trace = w.trace) := by
  have hof := Registry.ofTarget_of_register_ok (Registry.faithful_empty b.family) hs
  have hd := (Registry.settled_of_register_ok hs).not_doomed
  have hmodel : Schema.ofModel m = .ok s := by
    obtain ⟨m', hm', hof⟩ := Schema.ofTarget_eq_ok hof
    rw [hm] at hm'
    cases hm'
    exact hof
  intro preset plain
  refine ⟨fun hpresets => ?_, ?_⟩
  · obtain ⟨values, trace, hbound, hlength, hrun⟩ := b.exists_run_materialize hd hof hw scope
    obtain ⟨hpreset, htrace⟩ := hrun presets (checkPresets_eq_ok hpresets)
    obtain ⟨hplain, htrace'⟩ := hrun [] (checkPresets_eq_ok (by simp))
    refine ⟨htrace.trans htrace'.symm, fun e he => ?_, fun v v' hv hv' p hp => ?_⟩
    · rw [hbound] at he
      obtain rfl := map_eq_error.1 he
      exact ⟨hplain, hpreset⟩
    · obtain ⟨vs, rfl, hv⟩ := bind_eq_ok.1 (hpreset.symm.trans hv)
      have hv' := hplain.symm.trans hv'
      obtain ⟨o, ho⟩ := exists_mem_zip_withPresets (hlength vs rfl) hp
      obtain ⟨x, hx, hsettled⟩ := held_of_assemble hm hmodel hdirect
        (by simp [withPresets, hlength vs rfl]) hv _ (ho presets)
      cases hpreset : presetFor presets p.2 with
      | some u =>
        rw [hpreset, Option.some_or] at hsettled
        exact ⟨x, hx, hsettled⟩
      | none =>
        intro hover
        have hover : p.1.Overlooks s.ignores := hover.elim (hblind p hp) id
        have hsame := held_eq_of_assemble hm hmodel hdirect hblind (hlength vs rfl) hv hv' p hp
          hpreset hover
        exact ⟨x, hx, hsame.symm.trans hx⟩
  · rintro ⟨p, hp, hne⟩
    have hcheck := checkPresets_eq_error hp hne
    rw [(Schema.ofModel_eq_ok hmodel).1] at hcheck
    obtain ⟨log, hlookup⟩ := exists_run_lookup (ν := ν) hd hof hw
    have hrun : preset = (.error (.fault (.notIgnored m.name (unknownPresets s presets))),
        { w with registry := (w.registry.register b.family m.name).registry, log := log }) := by
      change (b.materialize (.model m.name) scope presets).run.run w = _
      rw [materialize_eq, run_bind_ok hlookup, instantiate, hcheck]
      rfl
    rw [hrun]
    exact ⟨rfl, rfl⟩

/-- An entry has a title and parts, which are entries, and a note. -/
def entry : Model :=
  .plain "Entry" [.bound "title" .text (.scrape "title" none none) none,
    .bound "parts" (.list (.model "Entry")) (.scrape "part" none none) none,
    .bound "note" .text .ignore (some (.text "-"))]

theorem entry_direct : entry.Direct := by
  constructor <;> simp [entry, Model.plain, FieldDecl.bound]

def entrySchema : Schema :=
  ⟨"Entry", [⟨.name "title", .required, some "title", some ⟨.scalar, none⟩, none, none⟩,
    ⟨.name "parts", .required, some "part", some ⟨.nestedList, some (.model "Entry")⟩, none, none⟩,
    ⟨.name "note", .ignore, none, none, none, none⟩], false⟩

/-- A document of one entry with one part. -/
def entryPage : Document Bool :=
  ⟨fun query scope =>
      if query = "title" then .ok [.text "t"]
      else if query = "part" ∧ scope = none then .ok [.node true]
      else .ok [],
    fun _ => .ok "", 2⟩

def entryValue (note : String) (parts : List Value) : Value :=
  .record "Entry" [("title", .text "t"), ("parts", .list parts), ("note", .text note)]

def runEntry (presets : Bound) : Except Failure Value × World Bool :=
  (materialize ⟨[entry], entryPage, .error⟩ (.model "Entry") none presets).run.run
    ⟨.empty, [], .initial .standard, []⟩

/-- A note does not reach the part of an entry, and a title is refused. -/
theorem a_note_reaches_only_its_entry :
    (runEntry [(.name "note", .text "n")]).1 = .ok (entryValue "n" [entryValue "-" []]) ∧
    (runEntry []).1 = .ok (entryValue "-" [entryValue "-" []]) ∧
    (runEntry [(.name "note", .text "n")]).2.trace = (runEntry []).2.trace ∧
    (∃ x, (entryValue "n" [entryValue "-" []]).held? "note" = some x ∧
      Validation.validated [entry] entry (.bound "note" .text .ignore (some (.text "-")))
        [("title", .text "t"), ("parts", .list [entryValue "-" []])] (.text "n") = .ok x) ∧
    (runEntry [(.name "title", .text "n")]).1 =
      .error (.fault (.notIgnored "Entry" ["title"])) := by
  have hpreset : (runEntry [(.name "note", .text "n")]).1 =
      .ok (entryValue "n" [entryValue "-" []]) := by
    cbv
  have hplain : (runEntry []).1 = .ok (entryValue "-" [entryValue "-" []]) := by
    cbv
  have hblind : ∀ p ∈ entry.fields.zip entrySchema.fields, p.2.mode ≠ .ignore →
      p.1.Overlooks entrySchema.ignores := by
    intro p hp _
    have hunchecked : ∀ f ∈ entry.fields, f.checks = [] := by
      simp [entry, Model.plain, FieldDecl.bound]
    exact FieldDecl.overlooks_of_unchecked (hunchecked p.1 (List.of_mem_zip hp).1) _
  have hall := fun presets => presets_reach_only_ignored_fields
    ⟨[entry], entryPage, .error⟩ (m := entry) (s := entrySchema) rfl rfl entry_direct hblind none
    presets ⟨.empty, [], .initial .standard, []⟩ (Registry.faithful_empty _)
  obtain ⟨htrace, -, hheld⟩ := (hall [(.name "note", .text "n")]).1 (by simp [entrySchema])
  obtain ⟨hrefused, -⟩ := (hall [(.name "title", .text "n")]).2
    ⟨_, List.mem_singleton_self _, by simp [entrySchema]⟩
  have hnote := hheld _ _ hpreset hplain
    (.bound "note" .text .ignore (some (.text "-")),
      ⟨.name "note", .ignore, none, none, none, none⟩)
    (by simp [entry, Model.plain, entrySchema])
  refine ⟨hpreset, hplain, htrace, hnote, hrefused.trans ?_⟩
  simp [unknownPresets, entrySchema, entry, Model.plain, Identifier.text]

/-- A check that puts the base, which is read before, in front of an address. -/
def joined (earlier : Validation.Entries) : Value → Option Value
  | .text address => (earlier.lookup "base").map fun base => .text (base.plain ++ address)
  | _ => none

/-- A link has a base, which is ignored, and an address below it. -/
def link : Model :=
  .plain "Link" [.bound "base" .text .ignore (some (.text "")),
    { FieldDecl.bound "address" .text (.scrape "item" none none) none with
      checks := [⟨.custom joined, ⟨"", false⟩⟩] }]

def linkValue (base address : String) : Value :=
  .record "Link" [("base", .text base), ("address", .text address)]

/-- A ticket has a number, which is counted, and a note. -/
def ticket : Model :=
  .plain "Ticket" [.bound "number" .text (.scrape "//n" (some (.counting 0 "n")) none) none,
    .bound "note" .text .ignore (some (.text "-"))]

def ticketValue (number note : String) : Value :=
  .record "Ticket" [("number", .text number), ("note", .text note)]

/-- A run on an echo for a model alone. -/
def runAlone (m : Model) (presets : Bound) (w : World Unit) : Except Failure Value × World Unit :=
  (materialize ⟨[m], echo, .error⟩ (.model m.name) none presets).run.run w

/-- A check may look at an ignored field, and then a preset for this field reaches the field of the
check. And a transform may count, and then a run with a preset gives another value than the run
without that comes before it. -/
theorem a_preset_may_reach_a_field_behind_it :
    (let w : World Unit := ⟨.empty, [], .initial .standard, []⟩
    (runAlone link [(.name "base", .text "list/")] w).1 = .ok (linkValue "list/" "list/item") ∧
      (runAlone link [] w).1 = .ok (linkValue "" "item") ∧
      (linkValue "list/" "list/item").held? "address" ≠ (linkValue "" "item").held? "address") ∧
    (let w : World Unit := ⟨.empty, [], .initial .standard, []⟩
    (runAlone ticket [] w).1 = .ok (ticketValue "n1" "-") ∧
      (runAlone ticket [(.name "note", .text "x")] (runAlone ticket [] w).2).1 =
        .ok (ticketValue "n2" "x") ∧
      (ticketValue "n2" "x").held? "number" ≠ (ticketValue "n1" "-").held? "number") := by
  refine ⟨⟨by cbv, by cbv, ?_⟩, by cbv, by cbv, ?_⟩
  · change some (Value.text _) ≠ some (Value.text _)
    simp
  · change some (Value.text _) ≠ some (Value.text _)
    simp

end Binder

end QueryBinding
