-- How an instance is put together: where each field is looked for in the bound
-- values, which value it takes, and at which field a complaint is told.
import QueryBinding.Proofs.Runs

namespace QueryBinding

namespace Validation

/-! ## Results -/

theorem located_eq_ok {α : Type} {at_ : Path} {x : Checked α} {a : α} :
    located at_ x = .ok a ↔ x = .ok a := by
  cases x with
  | error is => simp [located]
  | ok b => simp [located]

theorem eq_ok_of_mapError {ε ε' α : Type} {g : ε → ε'} {x : Except ε α} {a : α}
    (h : x.mapError g = .ok a) : x = .ok a := by
  cases x with
  | error e => cases h
  | ok b =>
    cases h
    rfl

theorem collect_cons_eq_ok {α : Type} {r : Checked α} {rs : List (Checked α)} {as : List α} :
    collect (r :: rs) = .ok as ↔ ∃ a rest, r = .ok a ∧ collect rs = .ok rest ∧ as = a :: rest := by
  rcases r with is | a
  · rcases hc : collect rs with js | bs <;> simp [collect, hc]
  · rcases hc : collect rs with js | bs
    · simp [collect, hc]
    · simp [collect, hc, eq_comm]

/-! ## Checks that look at other fields -/

/-- What can be seen of fields when some names are hidden. -/
def visible (hidden : String → Bool) (fields : Entries) : Entries :=
  fields.filter fun e => !hidden e.1

end Validation

/-- The checks of a field look at no field with a hidden name. -/
def FieldDecl.Overlooks (f : FieldDecl) (hidden : String → Bool) : Prop :=
  ∀ c ∈ f.checks, ∀ revise, c.rule = .custom revise → ∀ earlier earlier' v,
    Validation.visible hidden earlier = Validation.visible hidden earlier' →
      revise earlier v = revise earlier' v

/-- The checks of a field look at its own value only. -/
def FieldDecl.Solitary (f : FieldDecl) : Prop := f.Overlooks fun _ => true

theorem FieldDecl.overlooks_of_unchecked {f : FieldDecl} (h : f.checks = [])
    (hidden : String → Bool) : f.Overlooks hidden := by
  intro c hc
  rw [h] at hc
  cases hc

namespace Validation

variable {build : Build} {m : Model} {f : FieldDecl} {data earlier earlier' fields : Entries}
  {fs : List FieldDecl} {hidden : String → Bool}

theorem revised?_congr {rule : FieldRule} {v : Value}
    (h : ∀ revise, rule = .custom revise → revise earlier v = revise earlier' v) :
    FieldRule.revised? rule earlier v = FieldRule.revised? rule earlier' v := by
  cases rule with
  | custom revise => exact h revise rfl
  | _ => rfl

theorem passChecks_congr {checks : List FieldCheck}
    (h : ∀ c ∈ checks, ∀ revise, c.rule = .custom revise → ∀ v,
      revise earlier v = revise earlier' v) (v : Value) :
    passChecks earlier checks v = passChecks earlier' checks v := by
  induction checks generalizing v with
  | nil => rfl
  | cons c checks ih =>
    rw [passChecks, passChecks, revised?_congr fun revise hc => h c List.mem_cons_self revise hc v]
    cases FieldRule.revised? c.rule earlier' v with
    | none => rfl
    | some w => exact ih (fun c hc => h c (List.mem_cons_of_mem _ hc)) w

/-- What becomes of a field depends on the fields that its checks look at, and no others. -/
theorem checkField_congr (h : f.Overlooks hidden)
    (hsame : visible hidden earlier = visible hidden earlier') (v : Value) :
    checkField build f earlier v = checkField build f earlier' v := by
  unfold checkField
  refine bind_congr fun v => bind_congr fun v => ?_
  exact passChecks_congr (fun c hc revise hr v => h c hc revise hr _ _ v hsame) v

theorem defaultField_congr (h : f.Overlooks hidden)
    (hsame : visible hidden earlier = visible hidden earlier') :
    defaultField build m f earlier = defaultField build m f earlier' := by
  unfold defaultField
  simp only [checkField_congr h hsame]

theorem readField_congr (h : f.Overlooks hidden)
    (hsame : visible hidden earlier = visible hidden earlier') :
    readField build m data f earlier = readField build m data f earlier' := by
  unfold readField
  simp only [checkField_congr h hsame, defaultField_congr h hsame]

theorem visible_all (fields : Entries) : visible (fun _ => true) fields = [] :=
  List.filter_eq_nil_iff.2 (by simp)

theorem checkField_solitary (h : f.Solitary) (earlier : Entries) (v : Value) :
    checkField build f earlier v = checkField build f [] v :=
  checkField_congr h ((visible_all earlier).trans (visible_all []).symm) v

theorem readField_solitary (h : f.Solitary) (earlier : Entries) :
    readField build m data f earlier = readField build m data f [] :=
  readField_congr h ((visible_all earlier).trans (visible_all []).symm)

/-! ## Records -/

/-- Fields are read one after the other, each with the fields before it in hand. -/
inductive Reads (build : Build) (m : Model) (data : Entries) :
    Entries → List FieldDecl → Entries → Prop
  | nil (earlier : Entries) : Reads build m data earlier [] []
  | cons {earlier : Entries} {f : FieldDecl} {fs : List FieldDecl} {v : Value} {es : Entries}
      (hv : readField build m data f earlier = .ok v)
      (h : Reads build m data (earlier ++ [(f.name, v)]) fs es) :
      Reads build m data earlier (f :: fs) ((f.name, v) :: es)

theorem readEach_eq_ok :
    readEach build m data fs earlier = .ok fields ↔ Reads build m data earlier fs fields := by
  induction fs generalizing earlier fields with
  | nil =>
    rw [readEach]
    constructor
    · rintro ⟨⟩
      exact .nil earlier
    · rintro ⟨⟩
      rfl
  | cons f fs ih =>
    rw [readEach]
    cases hv : readField build m data f earlier with
    | error is =>
      refine iff_of_false ?_ ?_
      · dsimp only
        split <;> nofun
      · rintro ⟨⟩
        rename_i hv' _
        rw [hv] at hv'
        cases hv'
    | ok v =>
      dsimp only
      rw [map_eq_ok]
      constructor
      · rintro ⟨es, hes, rfl⟩
        exact .cons hv (ih.1 hes)
      · rintro ⟨⟩
        rename_i es hv' hes
        rw [hv] at hv'
        cases hv'
        exact ⟨es, ih.2 hes, rfl⟩

/-- Fields are read when each of them is, and no key is left over. -/
theorem readFields_eq_ok : readFields build m data = .ok fields ↔
    Reads build m data [] m.fields fields ∧ extraIssues m data = [] := by
  rw [← readEach_eq_ok, readFields]
  rcases readEach build m data m.fields [] with is | values
  · simp
  · rcases extraIssues m data with _ | ⟨i, is⟩ <;> simp

/-- Every field has been read with the fields before it in hand. -/
theorem Reads.lookup (h : Reads build m data earlier fs fields) (hn : (fs.map (·.name)).Nodup) :
    ∀ f ∈ fs, ∃ v, fields.lookup f.name = some v ∧
      readField build m data f (earlier ++ fields.takeWhile (·.1 != f.name)) = .ok v := by
  induction h with
  | nil => simp
  | @cons earlier f fs v es hv _ ih =>
    rw [List.map_cons, List.nodup_cons] at hn
    intro g hg
    rcases List.mem_cons.1 hg with rfl | hg
    · refine ⟨v, List.lookup_cons_self, ?_⟩
      simpa using hv
    · have hne : g.name ≠ f.name := fun hname => hn.1 (hname ▸ List.mem_map_of_mem hg)
      obtain ⟨u, hu, hread⟩ := ih hn.2 g hg
      refine ⟨u, ?_, ?_⟩
      · rwa [List.lookup_cons, beq_false_of_ne hne]
      · rw [List.takeWhile_cons_of_pos (by simpa using hne.symm)]
        simpa using hread

/-- Fields whose checks look at their own values are read each for itself. -/
theorem reads_solitary (h : ∀ f ∈ fs, f.Solitary) : Reads build m data earlier fs fields ↔
    List.Forall₂ (fun f e => e.1 = f.name ∧ readField build m data f [] = .ok e.2) fs fields := by
  induction fs generalizing earlier fields with
  | nil =>
    rw [List.forall₂_nil_left_iff]
    constructor
    · rintro ⟨⟩
      rfl
    · rintro rfl
      exact .nil earlier
  | cons f fs ih =>
    have hf := h f List.mem_cons_self
    have hfs : ∀ g ∈ fs, g.Solitary := fun g hg => h g (List.mem_cons_of_mem _ hg)
    constructor
    · rintro (_ | ⟨hv, hes⟩)
      rw [readField_solitary hf] at hv
      exact .cons ⟨rfl, hv⟩ ((ih hfs).1 hes)
    · intro hall
      obtain ⟨⟨key, v⟩, es, ⟨hname, hv⟩, hes, rfl⟩ := List.forall₂_cons_left_iff.1 hall
      obtain rfl : key = f.name := hname
      rw [← readField_solitary hf earlier] at hv
      exact .cons hv ((ih hfs).2 hes)

theorem readFields_eq_ok_of_solitary (h : ∀ f ∈ m.fields, f.Solitary) :
    readFields build m data = .ok fields ↔
      List.Forall₂ (fun f e => e.1 = f.name ∧ readField build m data f [] = .ok e.2)
        m.fields fields ∧ extraIssues m data = [] := by
  rw [readFields_eq_ok, reads_solitary h]

theorem recordOf_eq_ok {build : Build} {m : Model} {data : Entries} {v : Value} :
    recordOf build m data = .ok v ↔ ∃ fields, v = .record m.name fields ∧
      readFields build m (prepare m data) = .ok fields ∧
      m.checks.findSome? (ModelCheck.fails fields) = none := by
  constructor
  · intro h
    obtain ⟨fields, hr, h⟩ := bind_eq_ok.1 h
    obtain ⟨checked, hk, h⟩ := bind_eq_ok.1 h
    cases h
    unfold keepsModelChecks at hk
    split at hk
    · cases hk
    · rename_i hnone
      cases hk
      exact ⟨_, rfl, hr, hnone⟩
  · rintro ⟨fields, rfl, hr, hnone⟩
    refine bind_eq_ok.2 ⟨fields, hr, bind_eq_ok.2 ⟨fields, ?_, rfl⟩⟩
    rw [keepsModelChecks, hnone]

end Validation

/-- The value is an instance of the model with this name. -/
def Value.IsInstance (name : String) : Value → Prop
  | .record m _ => m = name
  | .rooted m _ => m = name
  | _ => False

namespace Binder

open Run

variable {s : Schema}

/-! ## Looking bound values up -/

/-- Values under the identifiers of their fields, for the fields that have one. -/
def boundOf (fs : List FieldSpec) (values : List (Option Value)) : Bound :=
  (fs.zip values).filterMap fun (f, v) => v.map fun v => (f.identifier, v)

variable {decls : List FieldDecl} {fs : List FieldSpec} {values : List (Option Value)}

theorem boundOf_cons_none (f : FieldSpec) :
    boundOf (f :: fs) (none :: values) = boundOf fs values :=
  rfl

theorem boundOf_cons_some (f : FieldSpec) (v : Value) :
    boundOf (f :: fs) (some v :: values) = (f.identifier, v) :: boundOf fs values := rfl

theorem namedEntries_cons (name : String) (v : Value) (values : Bound) :
    namedEntries ((.name name, v) :: values) = (name, v) :: namedEntries values := rfl

/-- Every key of the bound values is the name of a field. -/
theorem exists_decl_of_lookup_boundOf
    (h : List.Forall₂ (fun decl f => f.identifier = .name decl.name) decls fs) {key : String}
    {v : Value} (hv : (namedEntries (boundOf fs values)).lookup key = some v) :
    ∃ decl ∈ decls, key = decl.name := by
  induction h generalizing values with
  | nil => cases hv
  | @cons decl f decls fs hid _ ih =>
    cases values with
    | nil => cases hv
    | cons x values =>
      have htail : (namedEntries (boundOf fs values)).lookup key = some v →
          ∃ d ∈ decl :: decls, key = d.name := by
        intro hv
        obtain ⟨d, hd, hk⟩ := ih hv
        exact ⟨d, List.mem_cons_of_mem _ hd, hk⟩
      cases x with
      | none => exact htail hv
      | some u =>
        rw [boundOf_cons_some, hid, namedEntries_cons] at hv
        by_cases hk : key = decl.name
        · exact ⟨decl, List.mem_cons_self, hk⟩
        · have hne : (key == decl.name) = false := by simpa using hk
          rw [List.lookup_cons, hne] at hv
          exact htail hv

/-- Under the name of a field lies its own value. -/
theorem lookup_boundOf (h : List.Forall₂ (fun decl f => f.identifier = .name decl.name) decls fs)
    (hn : (decls.map (·.name)).Nodup) : ∀ p ∈ decls.zip (fs.zip values),
      (namedEntries (boundOf fs values)).lookup p.1.name = p.2.2 := by
  induction h generalizing values with
  | nil => simp
  | @cons decl f decls fs hid hrest ih =>
    rw [List.map_cons, List.nodup_cons] at hn
    cases values with
    | nil => simp
    | cons x values =>
      intro p hp
      rw [List.zip_cons_cons, List.zip_cons_cons, List.mem_cons] at hp
      rcases hp with rfl | hp
      · cases x with
        | none =>
          -- nothing is bound to the field, and no other field has its name
          rw [boundOf_cons_none]
          rcases hl : (namedEntries (boundOf fs values)).lookup decl.name with _ | u
          · rfl
          · obtain ⟨d, hd, hk⟩ := exists_decl_of_lookup_boundOf hrest hl
            exact absurd (List.mem_map.2 ⟨d, hd, hk.symm⟩) hn.1
        | some u => rw [boundOf_cons_some, hid, namedEntries_cons, List.lookup_cons_self]
      · have hne : (p.1.name == decl.name) = false := by
          have hmem : p.1.name ∈ decls.map (·.name) := List.mem_map_of_mem (List.of_mem_zip hp).1
          simpa using fun hk : p.1.name = decl.name => hn.1 (hk ▸ hmem)
        cases x with
        | none => exact ih hn.2 p hp
        | some u =>
          rw [boundOf_cons_some, hid, namedEntries_cons, List.lookup_cons, hne]
          exact ih hn.2 p hp

theorem lookup_boundOf_singleton (f : FieldSpec) (x : Option Value) :
    (boundOf [f] [x]).lookup f.identifier = x := by
  cases x with
  | none => rfl
  | some u => rw [boundOf_cons_some, List.lookup_cons_self]

/-! ## Assembling -/

theorem isInstance_of_recordOf {build : Validation.Build} {m : Model} {data : Validation.Entries}
    {v : Value} (h : Validation.recordOf build m data = .ok v) : v.IsInstance m.name := by
  obtain ⟨fields, rfl, -⟩ := Validation.recordOf_eq_ok.1 h
  rfl

theorem isInstance_of_rootedOf {build : Validation.Build} {m : Model} {root : Option Value}
    {v : Value} (h : Validation.rootedOf build m root = .ok v) : v.IsInstance m.name := by
  have hwrap : ∀ x : Validation.Checked Value,
      (x >>= fun root => pure (Value.rooted m.name root)) = .ok v → v.IsInstance m.name := by
    intro x hx
    obtain ⟨value, -, hx⟩ := bind_eq_ok.1 hx
    cases hx
    rfl
  unfold Validation.rootedOf at h
  split at h
  · cases h
    rfl
  · dsimp only at h
    split at h
    · exact hwrap _ h
    · split at h
      · split at h <;> exact hwrap _ h
      · exact hwrap _ h

/-- A model without fields wraps nothing that could be rejected. -/
theorem exists_field_of_rootedOf_error {build : Validation.Build} {m : Model} {root : Option Value}
    {issues : List Issue} (h : Validation.rootedOf build m root = .error issues) :
    ∃ decl, m.fields.head? = some decl := by
  unfold Validation.rootedOf at h
  split at h
  · cases h
  · rename_i decl hd
    exact ⟨decl, hd⟩

/-- A complaint about an instance is told at one of its fields, or at none. -/
theorem errorPath_fields {m : Model} (hs : Schema.ofModel m = .ok s)
    (hroot : m.wraps = true → ∃ decl, m.fields.head? = some decl) (location : Path) :
    errorPath s m location = [] ∨ ∃ f ∈ s.fields, errorPath s m location = [f.identifier] := by
  obtain ⟨-, hpos, hfields⟩ := Schema.ofModel_eq_ok hs
  cases hw : m.wraps with
  | true =>
    obtain ⟨decl, hdecl⟩ := hroot hw
    obtain ⟨f, hf, -⟩ := Schema.exists_spec hs (List.mem_of_mem_head? hdecl)
    obtain ⟨g, rest, hg⟩ := List.exists_cons_of_ne_nil (List.ne_nil_of_mem hf)
    refine .inr ⟨g, by rw [hg]; exact List.mem_cons_self, ?_⟩
    rw [(Schema.fieldsFrom_eq_ok hfields).2 g (by rw [hg]; rfl) decl hdecl, Schema.identifierOf, hw]
    unfold errorPath
    rw [hpos, hw]
    rfl
  | false =>
    unfold errorPath
    rw [hpos, hw]
    simp only [Bool.false_eq_true, if_false]
    cases location with
    | nil => exact .inl rfl
    | cons head rest =>
      dsimp only
      split
      · rename_i hc
        obtain ⟨f, hf, hid⟩ := List.mem_map.1 (List.contains_iff_mem.1 hc)
        exact .inr ⟨f, hf, by rw [hid]⟩
      · split
        · rename_i decl hdecl
          obtain ⟨f, hf, i, hof⟩ := Schema.exists_spec hs (List.mem_of_find?_eq_some hdecl)
          refine .inr ⟨f, hf, ?_⟩
          rw [Schema.identifier_of_fieldOf hof, Schema.identifierOf, hw]
          rfl
        · exact .inl rfl

/-- Bound values are put together by the model of the schema. -/
theorem assemble_eq {family : Family} {m : Model} (hm : family.model? m.name = some m)
    (hs : Schema.ofModel m = .ok s) (values : Bound) :
    assemble family s values =
      (if m.wraps then Validation.wrapperOf family m (values.lookup (.position 0))
        else Validation.instanceOf family m (namedEntries values)).mapError (rejected s m) := by
  obtain ⟨htarget, hpos, -⟩ := Schema.ofModel_eq_ok hs
  unfold assemble
  rw [htarget, hm, hpos]
  cases m.wraps with
  | true =>
    simp only [if_true]
    cases Validation.wrapperOf family m (values.lookup (.position 0)) <;> rfl
  | false =>
    simp only [Bool.false_eq_true, if_false]
    cases Validation.instanceOf family m (namedEntries values) <;> rfl

/-- What is rejected is rejected at a field, or as a whole. -/
theorem rejected_fields {m : Model} (hs : Schema.ofModel m = .ok s)
    (hroot : m.wraps = true → ∃ decl, m.fields.head? = some decl) (issues : List Issue) :
    ∃ path cause, rejected s m issues = .extraction path (.conversion cause) ∧
      (path = [] ∨ ∃ f ∈ s.fields, path = [f.identifier]) := by
  cases issues with
  | nil => exact ⟨_, _, rfl, .inl rfl⟩
  | cons i is => exact ⟨_, _, rfl, errorPath_fields hs hroot i.path⟩

/-- Assembling gives an instance, or fails by a conversion at a field or at none. -/
theorem ends_assemble {family : Family} {name : String}
    (hs : Schema.ofTarget family (.model name) = .ok s) (values : Bound) :
    Ends (Value.IsInstance name) (fun e => ∃ path cause, e = .extraction path (.conversion cause) ∧
      (path = [] ∨ ∃ f ∈ s.fields, path = [f.identifier])) (assemble family s values) := by
  obtain ⟨m, hm, hof⟩ := Schema.ofTarget_eq_ok hs
  obtain rfl := Family.name_of_model? hm
  rw [assemble_eq hm hof]
  cases hw : m.wraps with
  | true =>
    rw [if_pos rfl]
    rcases h : Validation.wrapperOf family m (values.lookup (.position 0)) with issues | v
    · rw [h]
      exact rejected_fields hof (fun _ => exists_field_of_rootedOf_error h) issues
    · rw [h]
      exact isInstance_of_rootedOf h
  | false =>
    rw [if_neg Bool.false_ne_true]
    rcases h : Validation.instanceOf family m (namedEntries values) with issues | v
    · refine rejected_fields hof (fun hroot => ?_) issues
      rw [hw] at hroot
      cases hroot
    · exact isInstance_of_recordOf h

end Binder

end QueryBinding
