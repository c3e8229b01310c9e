-- How building an instance fails. `Fails` has one case for each thing that can
-- go wrong while a settled model is bound; every failure of a run is one of
-- them, and the path that it carries walks from field to field.
import QueryBinding.Proofs.Assembly
import QueryBinding.Proofs.Descent

namespace QueryBinding

namespace Binder

open Run

variable {ν : Type} {b : Binder ν} {s : Schema} {scope : Option ν}

/-! ## What can go wrong -/

/-- How building an instance of a settled model can fail, with a budget for nesting. -/
inductive Fails (b : Binder ν) : Nat → Schema → Option ν → Failure → Prop
  /-- The budget is spent. -/
  | deep (s : Schema) (scope : Option ν) : Fails b 0 s scope .endless
  /-- The whole is rejected, or one of its fields when the whole is put together. -/
  | rejected {depth : Nat} {s : Schema} {scope : Option ν} {path : Path}
      (hpath : path = [] ∨ ∃ f ∈ s.fields, path = [f.identifier]) (cause : ConversionCause) :
      Fails b (depth + 1) s scope (.extraction path (.conversion cause))
  | converted {depth : Nat} {s : Schema} {scope : Option ν} {f : FieldSpec} (hf : f ∈ s.fields)
      (cause : ConversionCause) :
      Fails b (depth + 1) s scope (.extraction [f.identifier] (.conversion cause))
  /-- The document refuses the query of a field. -/
  | asked {depth : Nat} {s : Schema} {scope : Option ν} {f : FieldSpec} {query : String}
      {e : Failure} (hf : f ∈ s.fields) (hq : f.mode.queries = true) (hquery : f.query = some query)
      (he : b.document.evaluate query scope = .error e) :
      Fails b (depth + 1) s scope (e.within f.identifier)
  /-- A node cannot be read, for another reason than a query. -/
  | unread {depth : Nat} {s : Schema} {scope : Option ν} {f : FieldSpec} {n : ν} {e : Failure}
      (hf : f ∈ s.fields) (he : b.document.nodeText n = .error e)
      (hne : ∀ query reason, e ≠ .field (.query query reason)) :
      Fails b (depth + 1) s scope (e.within f.identifier)
  /-- A required field has no match. -/
  | missing {depth : Nat} {s : Schema} {scope : Option ν} {f : FieldSpec} {query : String}
      {shape : TargetShape} (hf : f ∈ s.fields) (hmode : f.mode = .required)
      (hquery : f.query = some query) (hshape : f.shape = some shape)
      (hkind : shape.kind = .scalar ∨ shape.kind = .nestedOne) :
      Fails b (depth + 1) s scope (.extraction [f.identifier] (.missing query))
  /-- A nested structure fails. -/
  | nested {depth : Nat} {s inner : Schema} {scope : Option ν} {f : FieldSpec} {name : String}
      {n : ν} {e : Failure} (hn : b.Enters s scope f name n)
      (hs : Schema.ofTarget b.family (.model name) = .ok inner)
      (he : Fails b depth inner (some n) e) : Fails b (depth + 1) s scope (e.within f.identifier)

/-- How the binding of a queried field of an accepted schema can fail. -/
theorem explains_of_fits {depth : Nat} {f : FieldSpec} (hf : f ∈ s.fields) (hfits : f.Fits)
    (hq : f.mode.queries = true) :
    b.Explains scope f fun e => Fails b (depth + 1) s scope (e.within f.identifier) := by
  obtain ⟨query, shape, hquery, -, hshape⟩ := hfits.asks hq
  refine ⟨fun h => ?_, fun e he => ?_, fun cause => .converted hf cause,
    fun n e he hne => .unread hf he hne, fun shape' hs' hkind => ?_⟩
  · rw [hshape] at h
    cases h
  · rw [hquery] at he
    exact .asked hf hq hquery he
  · rw [hquery]
    rw [hshape] at hs'
    cases hs'
    have hopt := hfits.optionality hq shape hshape
    have hrequired : f.mode = .required := by
      rcases hm : f.mode
      · rfl
      · rcases hkind with hk | ⟨-, ho⟩
        · simp [FieldSpec.checkOptionality, hm, hk] at hopt
        · simp [FieldSpec.optional, hm] at ho
      · simp [hm, BindingMode.queries] at hq
      · simp [hm, BindingMode.queries] at hq
    exact .missing hf hrequired hquery hshape (hkind.imp_right And.left)

/-- Building an instance of a settled model leaves the registry as it is, and fails only in the
listed ways. -/
theorem keeps_structureWithin_settled {r : Registry} (depth : Nat) {name : String}
    (hr : Registry.Settled b.family r name)
    (hs : Schema.ofTarget b.family (.model name) = .ok s) (scope : Option ν) (presets : Bound) :
    Keeps (· = r) (b.structureWithin depth s scope presets) (Value.IsInstance name)
      (Fails b depth s scope) := by
  induction depth generalizing name s scope presets with
  | zero => exact .throw (.deep s scope)
  | succ depth ih =>
    refine .bind (keeps_bindAll fun f hf => keeps_bindOne fun hbinds => ?_) fun values _ =>
      .ofExcept ?_
    · have hfits := Schema.fits_of_mem_fields hs hf
      have hq : f.mode.queries = true := by
        rcases hbinds with hq | ⟨hm, hnone⟩
        · exact hq
        · -- a field of an accepted model that takes its default has one
          obtain ⟨v, hv⟩ := hfits.default hm
          rw [hv] at hnone
          cases hnone
      refine keeps_bindField (explains_of_fits hf hfits hq) fun shape ms n hshape hk hms hn => ?_
      obtain ⟨inner, htarget⟩ := (hfits.shape shape hshape).nested hk
      obtain ⟨query, -, hquery, -⟩ := hfits.asks hq
      rw [hquery] at hms
      have henters : b.Enters s scope f inner n :=
        ⟨hf, hq, ⟨shape, hshape, hk, htarget⟩, ⟨query, ms, hquery, hms, hn⟩⟩
      have hinner := hr.of_nests (henters.nests hs)
      obtain ⟨t, hget, ht⟩ := hinner.exists_get?
      rw [Coercion.targetOf, htarget]
      refine .bind (keeps_lookup_known hget) fun t' h => ?_
      subst h
      exact (ih hinner ht (some n) []).mono (fun _ _ => trivial) fun e he => .nested henters ht he
    · refine (ends_assemble hs values).mono (fun _ h => h) ?_
      rintro e ⟨path, cause, rfl, hpath⟩
      exact .rejected hpath cause

theorem checkPresets_eq_ok {presets : Bound}
    (h : ∀ p ∈ presets, ∃ f ∈ s.fields, f.mode = .ignore ∧ f.identifier = p.1) :
    checkPresets s presets = .ok () := by
  have hnone : unknownPresets s presets = [] := by
    unfold unknownPresets
    dsimp only
    rw [List.filter_eq_nil_iff.2, List.map_nil, List.mergeSort_nil]
    rintro p hp
    obtain ⟨f, hf, hm, hi⟩ := h p hp
    have hmem : p.1 ∈ (s.fields.filter (·.mode == .ignore)).map (·.identifier) :=
      List.mem_map.2 ⟨f, List.mem_filter.2 ⟨hf, by rw [hm]; rfl⟩, hi⟩
    simp only [List.contains_iff_mem.2 hmem, Bool.not_true, Bool.false_eq_true, not_false_eq_true]
  rw [checkPresets, hnone]

theorem fault_of_checkPresets {presets : Bound} {e : Failure}
    (h : checkPresets s presets = .error e) : ∃ cause, e = .fault cause := by
  unfold checkPresets at h
  split at h
  · cases h
  · cases h
    exact ⟨_, rfl⟩

/-- Building an instance of a settled model by its schema leaves the registry as it is. -/
theorem keeps_instantiate_settled {r : Registry} {name : String}
    (hr : Registry.Settled b.family r name)
    (hs : Schema.ofTarget b.family (.model name) = .ok s) (scope : Option ν) (presets : Bound) :
    Keeps (· = r) (b.instantiate s scope presets) (Value.IsInstance name)
      fun e => checkPresets s presets = .error e ∨ b.Fails b.depth s scope e := by
  refine .bind (P := fun _ => True) (.ofExcept ?_) fun _ _ => ?_
  · rcases checkPresets s presets with e | u
    · exact .inl rfl
    · trivial
  · refine keeps_logging (.ensuring ?_ registry_report)
    exact (keeps_structureWithin_settled _ hr hs scope presets).mono (fun _ h => h) fun _ => .inr

theorem keeps_materialize_settled {r : Registry} {name : String}
    (hr : Registry.Settled b.family r name)
    (hs : Schema.ofTarget b.family (.model name) = .ok s) (scope : Option ν) (presets : Bound) :
    Keeps (· = r) (b.materialize (.model name) scope presets) (Value.IsInstance name)
      fun e => checkPresets s presets = .error e ∨ b.Fails b.depth s scope e := by
  obtain ⟨t, hget, ht⟩ := hr.exists_get?
  rw [hs] at ht
  cases ht
  rw [materialize_eq]
  refine .bind (keeps_lookup_known hget) fun t ht => ?_
  subst ht
  exact keeps_instantiate_settled hr hs scope presets

/-! ## Failures that belong to no field -/

/-- Of a settled model no schema is refused, unless the document speaks of one. -/
theorem Fails.raises {depth : Nat} {e : Failure} {f : SchemaFailure}
    (h : b.Fails depth s scope e) (he : e = .schema f) : b.document.Raises (.schema f) := by
  induction h with
  | deep => cases he
  | rejected => cases he
  | converted => cases he
  | @asked _ _ scope _ query _ _ _ _ herr =>
    exact .inl ⟨query, scope, herr.trans (by rw [Failure.eq_schema_of_within he])⟩
  | @unread _ _ _ _ n _ _ herr =>
    exact .inr ⟨n, herr.trans (by rw [Failure.eq_schema_of_within he])⟩
  | missing => cases he
  | nested _ _ _ ih => exact ih (Failure.eq_schema_of_within he)

/-- A run that spends its budget has come down as deep as the budget allows. -/
theorem Fails.descent {depth : Nat} {e : Failure} (h : b.Fails depth s scope e)
    (he : e = .endless) : b.document.Raises .endless ∨
      ∀ name, Schema.ofTarget b.family (.model name) = .ok s → b.Descent depth (name, scope) := by
  induction h with
  | deep => exact .inr fun _ _ => trivial
  | rejected => cases he
  | converted => cases he
  | @asked _ _ scope _ query _ _ _ _ herr =>
    exact .inl (.inl ⟨query, scope, herr.trans (by rw [Failure.eq_endless_of_within he])⟩)
  | @unread _ _ _ _ n _ _ herr =>
    exact .inl (.inr ⟨n, herr.trans (by rw [Failure.eq_endless_of_within he])⟩)
  | missing => cases he
  | @nested _ s inner scope f other n e hn hs _ ih =>
    refine (ih (Failure.eq_endless_of_within he)).imp_right fun hdescent name hname => ?_
    exact ⟨(other, some n), ⟨s, f, n, hname, hn, rfl⟩, hdescent other hs⟩

/-! ## Paths -/

/-- A path goes from field to field, through nested structures, and ends at a field that is bound
in a scope. -/
inductive Walks (b : Binder ν) : Schema → Option ν → Path → FieldSpec → Option ν → Prop
  | last {s : Schema} {scope : Option ν} {f : FieldSpec} (hf : f ∈ s.fields) :
      Walks b s scope [f.identifier] f scope
  | into {s inner : Schema} {scope below : Option ν} {f g : FieldSpec} {name : String} {n : ν}
      {path : Path} (hn : b.Enters s scope f name n)
      (hs : Schema.ofTarget b.family (.model name) = .ok inner)
      (hw : Walks b inner (some n) path g below) :
      Walks b s scope (f.identifier :: path) g below

/-- What a failure with this path and this cause says about the fields. -/
def Accounts (b : Binder ν) (s : Schema) (scope : Option ν) (path : Path) : FieldFailure → Prop
  | .conversion _ => path = [] ∨ ∃ f below, b.Walks s scope path f below
  | .missing query => ∃ f below shape, b.Walks s scope path f below ∧ f.mode = .required ∧
    f.query = some query ∧ f.shape = some shape ∧
    (shape.kind = .scalar ∨ shape.kind = .nestedOne)
  | .query asked reason => ∃ f below query, b.Walks s scope path f below ∧
    f.mode.queries = true ∧ f.query = some query ∧
    b.document.evaluate query below = .error (.field (.query asked reason))

theorem Accounts.enter {inner : Schema} {f : FieldSpec} {name : String} {n : ν} {path : Path}
    {cause : FieldFailure} (h : b.Accounts inner (some n) path cause)
    (hn : b.Enters s scope f name n) (hs : Schema.ofTarget b.family (.model name) = .ok inner) :
    b.Accounts s scope (f.identifier :: path) cause := by
  cases cause with
  | conversion c =>
    right
    rcases h with rfl | ⟨g, below, hw⟩
    · exact ⟨f, scope, .last hn.mem⟩
    · exact ⟨g, below, .into hn hs hw⟩
  | missing query =>
    obtain ⟨g, below, shape, hw, hg⟩ := h
    exact ⟨g, below, shape, .into hn hs hw, hg⟩
  | query asked reason =>
    obtain ⟨g, below, query, hw, hg⟩ := h
    exact ⟨g, below, query, .into hn hs hw, hg⟩

end Binder

/-- A document that fails in no other way than by refusing queries. -/
structure Document.OnlyRefuses {ν : Type} (d : Document ν) : Prop where
  evaluate : ∀ query scope e, d.evaluate query scope = .error e →
    ∃ asked reason, e = .field (.query asked reason)
  nodeText : ∀ n e, d.nodeText n = .error e → ∃ asked reason, e = .field (.query asked reason)

theorem Document.OnlyRefuses.not_raises_endless {ν : Type} {d : Document ν} (h : d.OnlyRefuses) :
    ¬ d.Raises .endless := by
  rintro (⟨query, scope, he⟩ | ⟨n, he⟩)
  · obtain ⟨asked, reason, hq⟩ := h.evaluate query scope _ he
    cases hq
  · obtain ⟨asked, reason, hq⟩ := h.nodeText n _ he
    cases hq

namespace Binder

variable {ν : Type} {b : Binder ν} {s : Schema} {scope : Option ν}

theorem Fails.accounts {depth : Nat} {e : Failure} (h : b.Fails depth s scope e)
    (hd : b.document.OnlyRefuses) :
    e = .endless ∨ ∃ path cause, e = .extraction path cause ∧ b.Accounts s scope path cause := by
  induction h with
  | deep => exact .inl rfl
  | @rejected _ s scope path hpath cause =>
    refine .inr ⟨path, _, rfl, ?_⟩
    rcases hpath with rfl | ⟨f, hf, rfl⟩
    · exact .inl rfl
    · exact .inr ⟨f, scope, .last hf⟩
  | @converted _ s scope f hf cause => exact .inr ⟨_, _, rfl, .inr ⟨f, scope, .last hf⟩⟩
  | @asked _ s scope f query e hf hq hquery he =>
    obtain ⟨asked, reason, rfl⟩ := hd.evaluate query scope e he
    exact .inr ⟨_, _, rfl, f, scope, query, .last hf, hq, hquery, he⟩
  | @unread _ s scope f n e hf he hne =>
    obtain ⟨asked, reason, rfl⟩ := hd.nodeText n e he
    exact absurd rfl (hne asked reason)
  | @missing _ s scope f query shape hf hmode hquery hshape hkind =>
    exact .inr ⟨_, _, rfl, f, scope, shape, .last hf, hmode, hquery, hshape, hkind⟩
  | nested hn hs _ ih =>
    rcases ih with rfl | ⟨path, cause, rfl, hacc⟩
    · exact .inl rfl
    · exact .inr ⟨_, _, rfl, hacc.enter hn hs⟩

/-- Of a model that registers in an empty registry, and a document that only refuses queries, a run
gives an instance, or fails at the end of a path of fields, unless structures nest without end:
then a model is met again below the node where it was met before. -/
theorem a_failure_is_told_along_the_fields (b : Binder ν) (name : String) {s : Schema}
    (hs : (Registry.register b.family .empty name).result = .ok s) (w : World ν)
    (hw : w.registry = (Registry.register b.family .empty name).registry)
    (hd : b.document.OnlyRefuses) (scope : Option ν) (presets : Bound)
    (hp : ∀ p ∈ presets, ∃ f ∈ s.fields, f.mode = .ignore ∧ f.identifier = p.1) :
    match ((b.materialize (.model name) scope presets).run.run w).1 with
    | .ok v => v.IsInstance name
    | .error (.extraction path cause) => b.Accounts s scope path cause
    | .error .endless => b.Endless (name, scope)
    | .error _ => False := by
  have hsettled := Registry.settled_of_register_ok hs
  have hof := Registry.ofTarget_of_register_ok (Registry.faithful_empty b.family) hs
  have hends := (keeps_materialize_settled hsettled hof scope presets w hw).2
  rcases hrun : ((b.materialize (.model name) scope presets).run.run w).1 with e | v
  · rw [hrun] at hends
    rcases hends with hpresets | hfails
    · rw [checkPresets_eq_ok hp] at hpresets
      cases hpresets
    · rcases hfails.accounts hd with rfl | ⟨path, cause, rfl, hacc⟩
      · exact endless_of_descent ((hfails.descent rfl).resolve_left hd.not_raises_endless name hof)
      · exact hacc
  · rw [hrun] at hends
    exact hends

/-- A page with posts, each with a title, and with a note that is never queried. -/
def pages : Family :=
  [.plain "Page" [.bound "posts" (.list (.model "Post")) (.scrape "post" none none) none,
      .bound "note" .text .ignore (some (.text ""))],
    .plain "Post" [.bound "title" .text (.scrape "title" none none) none]]

/-- A document of one node. It refuses every query but that for posts. -/
def closed : Document Unit :=
  ⟨fun query _ =>
      if query = "post" then .ok [.node ()] else .error (.field (.query (some query) "closed")),
    fun _ => .ok "", 1⟩

theorem closed_onlyRefuses : closed.OnlyRefuses := by
  refine ⟨fun query scope e he => ?_, fun n e he => by cases he⟩
  simp only [closed] at he
  split at he
  · cases he
  · cases he
    exact ⟨_, _, rfl⟩

def pageSchema : Schema :=
  ⟨"Page", [⟨.name "posts", .required, some "post", some ⟨.nestedList, some (.model "Post")⟩, none,
    none⟩, ⟨.name "note", .ignore, none, none, none, none⟩], false⟩

def closedPages : Binder Unit := ⟨pages, closed, .error⟩

def pagesRegistered : World Unit :=
  ⟨(Registry.register pages .empty "Page").registry, [], .initial .standard, []⟩

theorem a_refused_title_is_told_below_the_posts :
    ((closedPages.materialize (.model "Page") none [(.name "note", .text "n")]).run.run
        pagesRegistered).1 =
      .error (.extraction [.name "posts", .name "title"] (.query (some "title") "closed")) ∧
    closedPages.Accounts pageSchema none [.name "posts", .name "title"]
      (.query (some "title") "closed") := by
  have hpreset : ∀ p ∈ [(Identifier.name "note", Value.text "n")],
      ∃ f ∈ pageSchema.fields, f.mode = .ignore ∧ f.identifier = p.1 := by
    simp [pageSchema]
  have hrun : ((closedPages.materialize (.model "Page") none
      [(.name "note", .text "n")]).run.run pagesRegistered).1 =
      .error (.extraction [.name "posts", .name "title"] (.query (some "title") "closed")) := by
    cbv
  have h := a_failure_is_told_along_the_fields closedPages "Page" (s := pageSchema) rfl
    pagesRegistered rfl closed_onlyRefuses none [(.name "note", .text "n")] hpreset
  rw [hrun] at h
  exact ⟨hrun, h⟩

end Binder

end QueryBinding
