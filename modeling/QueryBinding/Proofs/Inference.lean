-- Shape inference. What the inferred shape makes of the matches of a query is of
-- the declared type. So in a family that declares nothing else, no value is
-- rejected when an instance is put together, at any depth.
import QueryBinding.Proofs.Calls
import QueryBinding.Proofs.Typing

namespace QueryBinding

/-! ## Failures that reject a value -/

/-- The cause is that a value was rejected when an instance was put together. -/
def FieldFailure.rejects : FieldFailure → Bool
  | .conversion (.validation _) => true
  | _ => false

def Failure.rejects : Failure → Bool
  | .field cause => cause.rejects
  | .extraction _ cause => cause.rejects
  | _ => false

theorem Failure.rejects_within (i : Identifier) (e : Failure) :
    (e.within i).rejects = e.rejects := by
  cases e <;> rfl

/-- A failure rejects no value, unless the document itself fails as if a value were rejected. -/
def Document.Excuses {ν : Type} (d : Document ν) (e : Failure) : Prop :=
  e.rejects = true → ∃ e', d.Raises e' ∧ e'.rejects = true

namespace Document

variable {ν : Type} {d : Document ν} {e : Failure}

theorem excuses_of_rejects_false (h : e.rejects = false) : d.Excuses e := by
  intro hr
  rw [h] at hr
  cases hr

theorem excuses_of_raises (h : d.Raises e) : d.Excuses e := fun hr => ⟨e, h, hr⟩

theorem Excuses.within (h : d.Excuses e) (i : Identifier) : d.Excuses (e.within i) := by
  intro hr
  rw [Failure.rejects_within] at hr
  exact h hr

end Document

namespace Coercion

variable {ν : Type} {d : Document ν} {e : Failure}

theorem excuses_textOf {m : Match ν} (h : textOf d m = .error e) : d.Excuses e := by
  cases m with
  | text s => cases h
  | other v =>
    cases h
    exact Document.excuses_of_rejects_false rfl
  | node n =>
    simp only [textOf] at h
    split at h
    · cases h
    · cases h
      exact Document.excuses_of_rejects_false rfl
    · rename_i e' _ he
      cases h
      exact Document.excuses_of_raises (.inr ⟨n, he⟩)

theorem textsOf_error {policy : StringListPolicy} {ms : List (Match ν)}
    (h : textsOf d policy ms = .error e) : ∃ m, textOf d m = .error e := by
  cases policy with
  | error => exact allTexts_error h
  | drop => exact someTexts_error h

theorem excuses_plainValue {policy : StringListPolicy} {query : String} {kind : ShapeKind}
    {ms : List (Match ν)} (h : plainValue d policy query kind ms = .error e) : d.Excuses e := by
  unfold plainValue at h
  split at h
  · rw [map_eq_error] at h
    obtain ⟨m, hm⟩ := textsOf_error h
    exact excuses_textOf hm
  · cases h
  · cases h
    exact Document.excuses_of_rejects_false rfl
  · exact excuses_textOf (map_eq_error.1 h)

end Coercion

namespace Binder

open Run Coercion

variable {ν : Type} {b : Binder ν}
  {builds : String → ν → List (Call ν) → Except Failure Value → Prop} {f : FieldSpec}
  {ms : List (Match ν)} {calls : List (Call ν)}

/-! ## Coerced values -/

/-- A value is what the matches of a query come to in a field of a type, where structures are made
as told: the text of the first match, or the structure made for it; nothing, if that is admitted and
there is no match; the texts of all matches, but for those that a lenient policy drops; or a
structure for each match in order. -/
inductive Coerced (b : Binder ν) (made : String → ν → Value → Prop) :
    FieldType → List (Match ν) → Value → Prop
  | text {a : FieldType} {optional : Bool} {m : Match ν} {s : String} (rest : List (Match ν))
      (ha : a.unwrapOptional = (.text, optional)) (h : textOf b.document m = .ok s) :
      Coerced b made a (m :: rest) (.text s)
  | model {a : FieldType} {optional : Bool} {name : String} {n : ν} {v : Value}
      (rest : List (Match ν)) (ha : a.unwrapOptional = (.model name, optional))
      (h : made name n v) : Coerced b made a (.node n :: rest) v
  | absent {a leaf : FieldType} (ha : a.unwrapOptional = (leaf, true)) : Coerced b made a [] .none
  | texts {ms : List (Match ν)} (h : ∀ m ∈ ms, (∃ s, textOf b.document m = .ok s) ∨
        b.policy = .drop ∧ ∃ cause, textOf b.document m = .error (.field (.conversion cause))) :
      Coerced b made (.list .text) ms
        (.list ((ms.filterMap fun m => (textOf b.document m).toOption).map .text))
  | models {name : String} {ns : List ν} {vs : List Value} (h : List.Forall₂ (made name) ns vs) :
      Coerced b made (.list (.model name)) (ns.map .node) (.list vs)

/-- Structures are built into the value, with some calls. -/
def Built (builds : String → ν → List (Call ν) → Except Failure Value → Prop)
    (inner : String) (n : ν) (v : Value) : Prop :=
  ∃ calls, builds inner n calls (.ok v)

theorem Coerced.mono {made made' : String → ν → Value → Prop}
    (hmade : ∀ name n v, made name n v → made' name n v) {a : FieldType} {u : Value}
    (h : b.Coerced made a ms u) : b.Coerced made' a ms u := by
  cases h with
  | text rest ha h => exact .text rest ha h
  | model rest ha h => exact .model rest ha (hmade _ _ _ h)
  | absent ha => exact .absent ha
  | texts h => exact .texts h
  | models h => exact .models (h.imp fun n v => hmade _ n v)

/-- The texts of matches are those that the matches have. A match without one is left out only by a
lenient policy, and only if it does not convert. -/
theorem textsOf_eq_ok {d : Document ν} {policy : StringListPolicy} {texts : List String}
    (h : textsOf d policy ms = .ok texts) :
    texts = ms.filterMap (fun m => (textOf d m).toOption) ∧ ∀ m ∈ ms, (∃ s, textOf d m = .ok s) ∨
      policy = .drop ∧ ∃ cause, textOf d m = .error (.field (.conversion cause)) := by
  cases policy with
  | error =>
    change allTexts d ms = .ok texts at h
    induction ms generalizing texts with
    | nil =>
      cases h
      exact ⟨rfl, by simp⟩
    | cons m ms ih =>
      obtain ⟨s, hs, h⟩ := bind_eq_ok.1 h
      obtain ⟨rest, hrest, h⟩ := bind_eq_ok.1 h
      cases h
      obtain ⟨htexts, hall⟩ := ih hrest
      refine ⟨?_, List.forall_mem_cons.2 ⟨.inl ⟨s, hs⟩, hall⟩⟩
      rw [List.filterMap_cons, hs, htexts]
      rfl
  | drop =>
    change someTexts d ms = .ok texts at h
    induction ms generalizing texts with
    | nil =>
      cases h
      exact ⟨rfl, by simp⟩
    | cons m ms ih =>
      simp only [someTexts] at h
      split at h
      · rename_i s hs
        obtain ⟨rest, hrest, rfl⟩ := map_eq_ok.1 h
        obtain ⟨htexts, hall⟩ := ih hrest
        refine ⟨?_, List.forall_mem_cons.2 ⟨.inl ⟨s, hs⟩, hall⟩⟩
        rw [List.filterMap_cons, hs, htexts]
        rfl
      · rename_i cause hs
        obtain ⟨htexts, hall⟩ := ih h
        refine ⟨?_, List.forall_mem_cons.2 ⟨.inr ⟨rfl, cause, hs⟩, hall⟩⟩
        rw [List.filterMap_cons, hs, htexts]
        rfl
      · cases h

theorem coerced_texts {made : String → ν → Value → Prop} {query : String} {u : Value}
    (h : plainValue b.document b.policy query .stringList ms = .ok u) :
    b.Coerced made (.list .text) ms u := by
  obtain ⟨texts, ht, rfl⟩ := map_eq_ok.1 h
  obtain ⟨rfl, hall⟩ := textsOf_eq_ok ht
  exact .texts hall

theorem coerced_first {made : String → ν → Value → Prop} {a : FieldType} {optional : Bool}
    {m : Match ν} {u : Value} (rest : List (Match ν)) (ha : a.unwrapOptional = (.text, optional))
    (h : (textOf b.document m).map Value.text = .ok u) : b.Coerced made a (m :: rest) u := by
  obtain ⟨s, hs, rfl⟩ := map_eq_ok.1 h
  exact .text rest ha hs

theorem exists_node_of_buildsAt {build : ν → List (Call ν) → Except Failure Value → Prop}
    {m : Match ν} {v : Value} (h : BuildsAt build m calls (.ok v)) :
    ∃ n, m = .node n ∧ ∃ calls, build n calls (.ok v) := by
  cases h with
  | node h => exact ⟨_, rfl, _, h⟩

theorem coerced_models {name : String} {vs : List Value}
    (h : InTurn (BuildsAt (builds name)) ms calls (.ok vs)) :
    b.Coerced (Built builds) (.list (.model name)) ms (.list vs) := by
  have hall := h.forall₂_ok
  have hnodes : ∃ ns : List ν, ms = ns.map .node ∧ List.Forall₂ (Built builds name) ns vs := by
    clear h
    induction hall with
    | nil => exact ⟨[], rfl, .nil⟩
    | cons hm _ ih =>
      obtain ⟨_, hm⟩ := hm
      obtain ⟨n, rfl, hn⟩ := exists_node_of_buildsAt hm
      obtain ⟨ns, rfl, hns⟩ := ih
      exact ⟨n :: ns, rfl, .cons hn hns⟩
  obtain ⟨ns, rfl, hns⟩ := hnodes
  exact .models hns

/-- What the matches are converted to is the coerced value of the declared type. -/
theorem coerced_of_converts {a : FieldType} {shape : TargetShape} {u : Value}
    (ha : a.Infers shape f.mode) (hshape : f.shape = some shape)
    (h : Converts b builds f ms calls (.ok u)) :
    b.Coerced (Built builds) a ms u := by
  generalize hmode : f.mode = mode at ha
  cases ha with
  | text =>
    have hu := h.eq_plainValue hshape rfl
    cases ms with
    | nil => cases hu
    | cons m rest => exact coerced_first rest rfl hu.symm
  | textOrNone ha =>
    have hu := h.eq_plainValue hshape rfl
    cases ms with
    | nil =>
      cases hu
      exact .absent ha
    | cons m rest => exact coerced_first rest ha hu.symm
  | texts => exact coerced_texts (h.eq_plainValue hshape rfl).symm
  | model name =>
    rcases h.first_built hshape with ⟨rfl, hu⟩ | ⟨m, rest, rfl, hm⟩
    · -- a required structure is missing without a match
      rw [FieldSpec.optional, hmode] at hu
      cases hu
    · obtain ⟨n, rfl, hn⟩ := exists_node_of_buildsAt hm
      exact .model rest rfl hn
  | modelOrNone ha =>
    rcases h.first_built hshape with ⟨rfl, hu⟩ | ⟨m, rest, rfl, hm⟩
    · rw [FieldSpec.optional, hmode] at hu
      cases hu
      exact .absent ha
    · obtain ⟨n, rfl, hn⟩ := exists_node_of_buildsAt hm
      exact .model rest ha hn
  | models name =>
    obtain ⟨results, hturn, hu⟩ := h.all_built hshape
    obtain ⟨vs, rfl, rfl⟩ := map_eq_ok.1 hu.symm
    exact coerced_models hturn

/-- The coerced value is of the declared type. -/
theorem Coerced.inhabits {made : String → ν → Value → Prop} {a : FieldType} {u : Value}
    (h : b.Coerced made a ms u) (hmade : ∀ name n v, made name n v → v.IsInstance name) :
    u.Inhabits a := by
  cases h with
  | text rest ha h => exact ⟨.text, FieldType.mem_members_of_unwrapOptional ha rfl, rfl⟩
  | model rest ha h =>
    exact ⟨.model _, FieldType.mem_members_of_unwrapOptional ha rfl,
      Validation.isExact_model.2 (hmade _ _ _ h)⟩
  | absent ha => exact ⟨.nothing, FieldType.nothing_mem_members ha, rfl⟩
  | texts h =>
    refine ⟨.list .text, List.mem_singleton_self _, Validation.isExact_list.2 fun v hv => ?_⟩
    obtain ⟨s, -, rfl⟩ := List.mem_map.1 hv
    rfl
  | @models name ns vs h =>
    have hall : ∀ v ∈ vs, v.IsInstance name := by
      induction h with
      | nil => simp
      | cons hn _ ih => exact List.forall_mem_cons.2 ⟨hmade _ _ _ hn, ih⟩
    exact ⟨.list (.model name), List.mem_singleton_self _,
      Validation.isExact_list.2 fun v hv => Validation.isExact_model.2 (hall v hv)⟩

/-! ## Failures on the way -/

theorem excuses_buildsAt {build : ν → List (Call ν) → Except Failure Value → Prop} {m : Match ν}
    {e : Failure} (hb : ∀ n calls e, build n calls (.error e) → b.document.Excuses e)
    (h : BuildsAt build m calls (.error e)) : b.document.Excuses e := by
  cases h with
  | node h => exact hb _ _ _ h
  | refused h =>
    cases m with
    | node n => cases h
    | text s =>
      cases h
      exact Document.excuses_of_rejects_false rfl
    | other v =>
      cases h
      exact Document.excuses_of_rejects_false rfl

theorem excuses_converts {e : Failure}
    (hb : ∀ inner n calls e, builds inner n calls (.error e) → b.document.Excuses e)
    (h : Converts b builds f ms calls (.error e)) : b.document.Excuses e := by
  generalize hx : Except.error e = x at h
  cases h with
  | plain ms hshape hkind => exact excuses_plainValue hx.symm
  | absent hshape =>
    split at hx
    · cases hx
    · cases hx
      exact Document.excuses_of_rejects_false rfl
  | single rest hshape h =>
    subst hx
    exact excuses_buildsAt (hb _) h
  | many hshape h =>
    obtain rfl := map_eq_error.1 hx.symm
    obtain ⟨m, -, _, hm⟩ := h.exists_error
    exact excuses_buildsAt (hb _) hm

/-- A field without a transform fails by no rejected value, if no nested structure does. -/
theorem excuses_handles {scope : Option ν} {presets : Bound} {e : Failure} (ht : f.transform = none)
    (hb : ∀ inner n calls e, builds inner n calls (.error e) → b.document.Excuses e)
    (h : Handles b builds scope presets f calls (.error e)) : b.document.Excuses e := by
  generalize hx : Except.error e = x at h
  cases h with
  | ignored hmode => cases hx
  | default hmode hv => cases hx
  | @refused query _ hmode hquery he =>
    cases hx
    exact (Document.excuses_of_raises (.inl ⟨query, scope, he⟩)).within _
  | unconverted hmode hquery hms h =>
    cases hx
    exact (excuses_converts hb h).within _
  | finished hmode hquery hms h htransforms =>
    cases htransforms with
    | absent hnone => cases hx
    | called hsome counts =>
      rw [ht] at hsome
      cases hsome

/-- A queried field without a transform is bound to the coerced value of its type. -/
theorem coerced_of_handles {scope : Option ν} {presets : Bound} {a : FieldType}
    {shape : TargetShape} {query : String} {x : Option Value} (ha : a.Infers shape f.mode)
    (hshape : f.shape = some shape) (hquery : f.query = some query) (ht : f.transform = none)
    (h : Handles b builds scope presets f calls (.ok x)) :
    ∃ ms u, b.document.evaluate query scope = .ok ms ∧ x = some u ∧
      b.Coerced (Built builds) a ms u := by
  have hqueries := ha.queries
  generalize hx : Except.ok x = y at h
  cases h with
  | ignored hmode =>
    rw [hmode] at hqueries
    cases hqueries
  | default hmode hv =>
    rw [hmode] at hqueries
    cases hqueries
  | refused hmode hquery he => cases hx
  | unconverted hmode hquery hms h => cases hx
  | finished hmode hquery' hms h htransforms =>
    rw [hquery] at hquery'
    cases hquery'
    cases htransforms with
    | absent hnone =>
      cases hx
      exact ⟨_, _, hms, rfl, coerced_of_converts ha hshape h⟩
    | called hsome counts =>
      rw [ht] at hsome
      cases hsome

/-- An ignored field is bound to nothing without a preset. -/
theorem eq_none_of_handles {scope : Option ν} {x : Option Value} (hmode : f.mode = .ignore)
    (h : Handles b builds scope [] f calls (.ok x)) : x = none := by
  generalize hx : Except.ok x = y at h
  cases h with
  | ignored hmode' =>
    cases hx
    rfl
  | default hmode' hv =>
    rw [hmode] at hmode'
    cases hmode'
  | refused hmode' hquery he => cases hx
  | unconverted hmode' hquery hms h => cases hx
  | finished hmode' hquery hms h htransforms =>
    rw [hmode] at hmode'
    cases hmode'

/-! ## Instances of unadorned models -/

variable {m : Model} {s : Schema} {scope : Option ν}

theorem rel_of_mem_zip {α β γ : Type} {A : α → β → Prop} {R : β → γ → Prop} {xs : List α}
    {ys : List β} {zs : List γ} (hA : List.Forall₂ A xs ys) (hR : List.Forall₂ R ys zs) :
    ∀ p ∈ xs.zip (ys.zip zs), A p.1 p.2.1 ∧ R p.2.1 p.2.2 := by
  induction hA generalizing zs with
  | nil => simp
  | cons ha _ ih =>
    cases hR with
    | cons hr hrest =>
      rw [List.zip_cons_cons, List.zip_cons_cons, List.forall_mem_cons]
      exact ⟨⟨ha, hr⟩, ih hrest⟩

/-- If a field is queried, it has the coerced value of its matches, which is of the declared
type. -/
def Answers (b : Binder ν) (made : String → ν → Value → Prop) (scope : Option ν) (decl : FieldDecl)
    (x : Option Value) : Prop :=
  ∀ query, decl.directives = [.scrape query none none] →
    ∃ ms u, b.document.evaluate query scope = .ok ms ∧ x = some u ∧
      b.Coerced made decl.type ms u ∧ u.Inhabits decl.type

theorem Answers.mono {made made' : String → ν → Value → Prop}
    (hmade : ∀ name n v, made name n v → made' name n v) {decl : FieldDecl} {x : Option Value}
    (h : b.Answers made scope decl x) : b.Answers made' scope decl x := by
  intro query hdir
  obtain ⟨ms, u, hms, hx, hcoerced, hinhabits⟩ := h query hdir
  exact ⟨ms, u, hms, hx, hcoerced.mono hmade, hinhabits⟩

/-- The value is an instance of the model, and every queried field has its coerced value. -/
def Fills (b : Binder ν) (made : String → ν → Value → Prop) (scope : Option ν) (m : Model)
    (v : Value) : Prop :=
  v.IsInstance m.name ∧ ∀ decl ∈ m.fields, b.Answers made scope decl (v.held? decl.name)

/-- A field of an unadorned model is bound to what it admits. -/
theorem admits_of_handles (hu : m.Unadorned) {decl : FieldDecl} (hd : decl ∈ m.fields)
    {i : Identifier} {f : FieldSpec} (hf : Schema.fieldOf m i decl = .ok f)
    (hb : ∀ inner n calls v, builds inner n calls (.ok v) → v.IsInstance inner)
    {calls : List (Call ν)} {x : Option Value}
    (h : Handles b builds scope [] f calls (.ok x)) :
    decl.Admits x ∧ b.Answers (Built builds) scope decl x := by
  obtain ⟨ht, ⟨hmode, hignore, hdefault⟩ | ⟨query, shape, hscrape, hquery, hshape, hinfers⟩⟩ :=
    hu.fieldOf hd hf
  · obtain rfl := eq_none_of_handles hmode h
    refine ⟨hdefault, fun query hscrape => ?_⟩
    rw [hignore] at hscrape
    cases hscrape
  · obtain ⟨ms, u, hms, rfl, hcoerced⟩ := coerced_of_handles hinfers hshape hquery ht h
    have hinhabits : u.Inhabits decl.type := by
      apply hcoerced.inhabits
      rintro name n v ⟨calls', hv⟩
      exact hb name n calls' v hv
    refine ⟨⟨⟨shape, _, hinfers⟩, hinhabits⟩, fun query' hscrape' => ?_⟩
    rw [hscrape] at hscrape'
    cases hscrape'
    exact ⟨ms, u, hms, rfl, hcoerced, hinhabits⟩

/-- An unadorned model is put together, or fails by no rejected value, if the same holds of every
structure that it nests. -/
theorem ends_of_handles (hm : b.family.model? m.name = some m) (hs : Schema.ofModel m = .ok s)
    (hu : m.Unadorned)
    (hb : ∀ inner n calls x, builds inner n calls x →
      Ends (Value.IsInstance inner) b.document.Excuses x)
    {calls : List (Call ν)} {values : Except Failure (List (Option Value))}
    (h : InTurn (Handles b builds scope []) s.fields calls values) :
    Ends (b.Fills (Built builds) scope m) b.document.Excuses
      (values >>= fun values => assemble b.family s (boundOf s.fields values)) := by
  cases values with
  | error e =>
    obtain ⟨f, hf, _, hfails⟩ := h.exists_error
    obtain ⟨decl, hd, i, hof⟩ := Schema.exists_decl hs hf
    exact excuses_handles (hu.fieldOf hd hof).1 (fun inner n calls e => hb inner n calls _) hfails
  | ok values =>
    have hall := h.forall₂_ok
    have hbound : ∀ p ∈ m.fields.zip (s.fields.zip values),
        p.1.Admits p.2.2 ∧ b.Answers (Built builds) scope p.1 p.2.2 := by
      intro p hp
      obtain ⟨⟨i, hof⟩, calls', hhandles⟩ :=
        rel_of_mem_zip (Schema.fieldsFrom_eq_ok (Schema.ofModel_eq_ok hs).2.2).1 hall p hp
      exact admits_of_handles hu (List.of_mem_zip hp).1 hof
        (fun inner n calls v => hb inner n calls _) hhandles
    have hlen : values.length = s.fields.length := hall.length_eq.symm
    obtain ⟨v, hv, hheld⟩ := exists_assemble_unadorned hm hs hu hlen fun p hp => (hbound p hp).1
    have hof : Schema.ofTarget b.family (.model m.name) = .ok s := by
      simpa only [Schema.ofTarget, hm] using hs
    have hinstance := ends_assemble hof (boundOf s.fields values)
    change Ends _ _ (assemble b.family s (boundOf s.fields values))
    rw [hv] at hinstance ⊢
    refine ⟨hinstance, fun decl hd query hdir => ?_⟩
    obtain ⟨p, hp, rfl⟩ := exists_mem_zip hs hlen hd
    obtain ⟨ms, u, hms, hx, hcoerced⟩ := (hbound p hp).2 query hdir
    exact ⟨ms, u, hms, hheld p hp u hx, hcoerced⟩

/-! ## Whole runs -/

/-- Unadorned models are put together to every depth, or fail by no rejected value. -/
theorem ends_of_performs (hu : ∀ m ∈ b.family, m.Unadorned) {depth : Nat} {name : String}
    {s : Schema} (hs : Schema.ofTarget b.family (.model name) = .ok s) {scope : Option ν}
    {calls : List (Call ν)} {x : Except Failure Value} (h : b.Performs depth s scope [] calls x) :
    Ends (Value.IsInstance name) b.document.Excuses x := by
  induction depth generalizing name s scope calls x with
  | zero =>
    obtain ⟨-, rfl⟩ := h
    exact Document.excuses_of_rejects_false rfl
  | succ depth ih =>
    obtain ⟨values, hturn, rfl⟩ := h
    obtain ⟨m, hm, hof⟩ := Schema.ofTarget_eq_ok hs
    obtain rfl := Family.name_of_model? hm
    have hends := ends_of_handles hm hof (hu m (Family.mem_of_model? hm))
      (fun inner n calls x h => by
      obtain ⟨t, ht, hperforms⟩ := h
      exact ih ht hperforms) hturn
    exact hends.mono (fun v hv => hv.1) fun e he => he

theorem steady_of_unadorned {family : Family} (hu : ∀ m ∈ family, m.Unadorned) : family.Steady := by
  intro m hm decl hd d hdir t ht
  rcases (hu m hm).bound decl hd with hignore | ⟨query, hscrape⟩
  · rw [hignore, List.mem_singleton] at hdir
    rw [hdir] at ht
    cases ht
  · rw [hscrape, List.mem_singleton] at hdir
    rw [hdir] at ht
    cases ht

/-- A separate run below a node, from some world, gives the value. -/
def GivesAlone (b : Binder ν) (w : World ν) (name : String) (n : ν) (v : Value) : Prop :=
  ((b.materialize (.model name) (some n) []).run.run w).1 = .ok v

/-- A nested structure is built as its calls tell, and if that succeeds, a separate run from any
world gives the same. -/
theorem does_below (hsteady : b.family.Steady) {inner : String} (hd : ¬ b.family.Doomed inner)
    (n : ν) {w : World ν} (hw : Registry.Faithful b.family w.registry) :
    Does (Registry.Faithful b.family) (b.below (.model inner) n) fun calls x =>
      (∃ t, Schema.ofTarget b.family (.model inner) = .ok t ∧
        b.Performs (b.depth - 1) t (some n) [] calls x) ∧
      ∀ v, x = .ok v → b.GivesAlone w inner n v := by
  obtain ⟨t, ht⟩ := Family.exists_schema hd
  have hperforms : Does (Registry.Faithful b.family) (b.below (.model inner) n)
      (b.Performs (b.depth - 1) t (some n) []) :=
    does_lookup_bind hd ht (does_structureWithin (b.depth - 1) hd ht (some n) [])
  intro w' hw'
  obtain ⟨hI, calls, htrace, h⟩ := hperforms w' hw'
  refine ⟨hI, calls, htrace, ⟨t, ht, h⟩, fun v hv => ?_⟩
  rcases agrees_below b hd n w' w ⟨hw', hw, .inl hsteady⟩ with hend | ⟨heq, -⟩
  · rw [hv] at hend
    cases hend
  · exact heq.symm.trans hv

/-- Shape inference is sound. In a family in which fields are only queried or ignored, a run never
fails because a value is rejected, unless the document itself fails in that way. An instance that it
gives holds in every queried field the coerced value of the matches, whose structures are those of
separate runs; and that value is of the declared type. -/
theorem an_inferred_shape_fits_the_declared_type (b : Binder ν)
    (hu : ∀ m ∈ b.family, m.Unadorned) {name : String} {m : Model} {s : Schema}
    (hm : b.family.model? name = some m)
    (hs : (Registry.register b.family .empty name).result = .ok s) (scope : Option ν) (w : World ν)
    (hw : Registry.Faithful b.family w.registry) :
    match ((b.materialize (.model name) scope []).run.run w).1 with
    | .error e => b.document.Excuses e
    | .ok v => b.Fills (b.GivesAlone w) scope m v := by
  have hof := Registry.ofTarget_of_register_ok (Registry.faithful_empty b.family) hs
  have hd := (Registry.settled_of_register_ok hs).not_doomed
  obtain rfl := Family.name_of_model? hm
  have hmodel : Schema.ofModel m = .ok s := by
    simpa only [Schema.ofTarget, hm] using hof
  have hstructure : Does (Registry.Faithful b.family) (b.structureWithin b.depth s scope [])
      fun _ x => Ends (b.Fills (b.GivesAlone w) scope m) b.document.Excuses x := by
    apply Does.mono (does_fields hof (fun inner n hnests => does_below (steady_of_unadorned hu)
      (fun h => hd (.of_nests hnests h)) n hw) scope [])
    rintro calls x ⟨values, hturn, rfl⟩
    have hends := ends_of_handles hm hmodel (hu m (Family.mem_of_model? hm))
      (fun inner n calls x h => by
        obtain ⟨⟨t, ht, hperforms⟩, -⟩ := h
        exact ends_of_performs hu ht hperforms) hturn
    apply hends.mono
    · rintro v ⟨hinstance, hall⟩
      refine ⟨hinstance, fun decl hd => (hall decl hd).mono ?_⟩
      rintro inner n u ⟨calls', -, hrun⟩
      exact hrun u rfl
    · exact fun e he => he
  have hpresets : checkPresets s [] = .ok () := checkPresets_eq_ok (by simp)
  have hdoes : Does (Registry.Faithful b.family) (b.materialize (.model m.name) scope [])
      fun _ x => Ends (b.Fills (b.GivesAlone w) scope m) b.document.Excuses x := by
    apply does_lookup_bind hd hof
    rw [hpresets]
    exact does_logged hstructure _
  obtain ⟨-, calls, -, hends⟩ := hdoes w hw
  rcases hr : ((b.materialize (.model m.name) scope []).run.run w).1 with e | v
  · rw [hr] at hends
    exact hends
  · rw [hr] at hends
    exact hends

/-- A thread has replies, which are threads, and tags, which are wrapped in a model. -/
def thread : Model :=
  .plain "Thread" [.bound "title" .text (.scrape "title" none none) none,
    .bound "note" (.union false [.text, .nothing]) (.scrape "note" none none) none,
    .bound "tags" (.model "Tags") (.scrape "tags" none none) none,
    .bound "replies" (.list (.model "Thread")) (.scrape "reply" none none) none,
    .bound "seen" .integer .ignore (some (.int 0))]

def tags : Model :=
  ⟨"Tags", [.bound "root" (.list .text) (.scrape "tag" none none) none], true,
    ⟨false, false, false, false, false⟩, []⟩

theorem threads_unadorned : ∀ m ∈ [thread, tags], m.Unadorned := by
  rw [List.forall_mem_cons, List.forall_mem_singleton]
  constructor
  · constructor <;> simp [thread, Model.plain, FieldDecl.bound, FieldDecl.readingAlias?,
      Directive.scrape, Directive.ignore]
  · constructor <;> simp [tags, FieldDecl.bound, FieldDecl.readingAlias?, Directive.scrape]

/-- A document of one thread with one reply. Nothing has a note, and one tag is no text. -/
def talk : Document Bool :=
  ⟨fun query scope =>
      if query = "title" then .ok [.text "t"]
      else if query = "tags" then .ok [.node false]
      else if query = "tag" then .ok [.text "a", .other (.int 1), .text "b"]
      else if query = "reply" ∧ scope = none then .ok [.node true]
      else .ok [],
    fun _ => .ok "", 2⟩

def threadValue (replies : List Value) : Value :=
  .record "Thread" [("title", .text "t"), ("note", .none),
    ("tags", .rooted "Tags" (.list [.text "a", .text "b"])), ("replies", .list replies),
    ("seen", .int 0)]

theorem a_thread_holds_what_its_types_call_for :
    Fills ⟨[thread, tags], talk, .drop⟩
      (GivesAlone ⟨[thread, tags], talk, .drop⟩ ⟨.empty, [], .initial .standard, []⟩) none thread
      (threadValue [threadValue []]) := by
  have hrun : ((materialize ⟨[thread, tags], talk, .drop⟩ (.model "Thread") none []).run.run
      ⟨.empty, [], .initial .standard, []⟩).1 = .ok (threadValue [threadValue []]) := by
    cbv
  have hregister : ∃ s, (Registry.register [thread, tags] .empty "Thread").result = .ok s :=
    ⟨_, rfl⟩
  obtain ⟨s, hs⟩ := hregister
  have h := an_inferred_shape_fits_the_declared_type ⟨[thread, tags], talk, .drop⟩
    threads_unadorned (m := thread) rfl hs none ⟨.empty, [], .initial .standard, []⟩
    (Registry.faithful_empty _)
  rw [hrun] at h
  exact h

end Binder

end QueryBinding
