-- Runs of a model whose field rests on its default. Whether the default is handed
-- on or left to the model, the runs go side by side, and they end alike just when
-- validation keeps the default.
import QueryBinding.Proofs.Defaults

namespace QueryBinding

namespace Binder

open Run

variable {ν α β : Type} {family family' : Family} {b : Binder ν}

/-! ## Worlds of two families -/

/-- Two worlds hold the schemas of two families, and transforms have been called as often in one as
in the other. -/
structure Beside (family family' : Family) (w w' : World ν) : Prop where
  left : Registry.Faithful family w.registry
  right : Registry.Faithful family' w'.registry
  calls : w.calls = w'.calls

theorem Beside.symm {w w' : World ν} (h : Beside family family' w w') :
    Beside family' family w' w :=
  ⟨h.right, h.left, h.calls.symm⟩

theorem blind_beside : Blind (Beside family family' : World ν → World ν → Prop) :=
  fun _ _ _ _ _ _ h => ⟨h.left, h.right, h.calls⟩

theorem carries_beside (t : Transform) :
    Carries (Beside family family' : World ν → World ν → Prop) t := by
  intro w w' v trace trace' h
  rw [h.calls]
  exact ⟨rfl, h.left, h.right, rfl⟩

theorem target_of_ofTarget {name : String} {s : Schema}
    (hs : Schema.ofTarget family (.model name) = .ok s) : s.target = name := by
  obtain ⟨m, hm, hof⟩ := Schema.ofTarget_eq_ok hs
  rw [(Schema.ofModel_eq_ok hof).1, Family.name_of_model? hm]

/-- Looking up a model that neither family refuses gives its schema in each. -/
theorem agrees_lookup_beside {name : String} {s s' : Schema} {f f' : Schema → Run ν α}
    (hd : ¬ family.Doomed name) (hd' : ¬ family'.Doomed name)
    (hs : Schema.ofTarget family (.model name) = .ok s)
    (hs' : Schema.ofTarget family' (.model name) = .ok s')
    (h : Agrees (Beside family family') (f s) (f' s')) :
    Agrees (Beside family family') (lookup family (.model name) >>= f)
      (lookup family' (.model name) >>= f') := by
  intro w w' hw
  obtain ⟨log, hlog⟩ := exists_run_lookup hd hs hw.left
  obtain ⟨log', hlog'⟩ := exists_run_lookup hd' hs' hw.right
  rw [run_bind_ok hlog, run_bind_ok hlog']
  exact h _ _ ⟨Registry.faithful_register hw.left name, Registry.faithful_register hw.right name,
    hw.calls⟩

/-! ## Binding a field that rests on its default -/

variable {nested nested' : Target → ν → Run ν Value} {scope : Option ν} {fs gs : List FieldSpec}
  {m : Model} {decl : FieldDecl} {i : Identifier} {mode mode' : BindingMode} {v : Value}

/-- What is noted where a field rests on its default: that the default is made, if it is. -/
def restingNote (i : Identifier) (mode : BindingMode) : Run ν Unit :=
  if mode = .useDefault then Run.note (.factory i) else return ()

theorem agrees_restingNote {A : World ν → World ν → Prop} (hA : Blind A) (i : Identifier)
    (mode mode' : BindingMode) : Agrees A (restingNote i mode) (restingNote i mode') := by
  intro w w' h
  have hrun : ∀ mode (w : World ν), ∃ trace,
      (restingNote i mode).run.run w = (.ok (), { w with trace := trace }) := by
    intro mode w
    unfold restingNote
    split <;> exact ⟨_, rfl⟩
  obtain ⟨trace, hmode⟩ := hrun mode w
  obtain ⟨trace', hmode'⟩ := hrun mode' w'
  rw [hmode, hmode']
  exact .inr ⟨rfl, hA w w' _ _ _ _ h⟩

/-- The field is bound to its default, or to nothing, between the fields before and after it. -/
theorem bindAll_restingSchema (hq : mode.queries = false) :
    b.bindAll nested scope [] (restingSchema m fs gs i mode v).fields = (do
      let vs ← fs.mapM (b.bindOne nested scope [])
      restingNote i mode
      let ws ← gs.mapM (b.bindOne nested scope [])
      return restingValues fs gs i mode v vs ws) := by
  have hone : b.bindOne nested scope [] (.resting i mode v) =
      (restingNote i mode >>= fun _ => return (FieldSpec.resting i mode v).factory) := by
    cases mode with
    | useDefault => rfl
    | ignore => rfl
    | _ => cases hq
  rw [restingSchema, bindAll_append, bindAll_eq_mapM, bindAll, hone, bindAll_eq_mapM]
  simp only [bind_map_left, bind_assoc, pure_bind]
  refine bind_congr fun vs => bind_congr fun _ => bind_congr fun ws => ?_
  rw [restingValues]
  cases (FieldSpec.resting i mode v).factory <;> rfl

/-! ## Runs side by side -/

/-- How what a field nests is built inside a structure, to a depth. -/
def belowWithin (b : Binder ν) (depth : Nat) (t : Target) (n : ν) : Run ν Value := do
  let s ← lookup b.family t
  b.structureWithin depth s (some n) []

theorem structureWithin_succ (b : Binder ν) (depth : Nat) (s : Schema) (scope : Option ν)
    (presets : Bound) : b.structureWithin (depth + 1) s scope presets =
      b.bindAll (b.belowWithin depth) scope presets s.fields >>= fun values =>
        Run.ofExcept (assemble b.family s values) := rfl

/-- A structure of another model is put together as without the directive that binds a field. -/
theorem assemble_rebind_ne {name field : String} (d : Directive) {s : Schema}
    (hs : s.target ≠ name) (values : Bound) :
    assemble (family.rebind name field d) s values = assemble family s values := by
  unfold assemble
  rw [Family.model?_rebind_ne hs]
  cases hm : family.model? s.target with
  | none => rfl
  | some m =>
    have hne : m.name ≠ name := by
      rw [Family.name_of_model? hm]
      exact hs
    dsimp only
    rw [Validation.wrapperOf_rebind_ne family hne, Validation.instanceOf_rebind_ne family hne]

/-- However its field rests on its default, the schema of a model is the same but for that field. -/
theorem exists_restingSchema (h : family.Rests m decl v) (hq : mode.queries = false) {s : Schema}
    (hs : Schema.ofTarget (family.resting m decl mode) (.model m.name) = .ok s) :
    ∃ fs gs i, (m.wraps = false → i = .name decl.name) ∧ s = restingSchema m fs gs i mode v ∧
      ∀ mode : BindingMode, mode.queries = false →
        Schema.ofModel (m.rebind decl.name (.silent mode)) =
          .ok (restingSchema m fs gs i mode v) := by
  obtain ⟨before, after, hfields⟩ := List.append_of_mem h.mem
  obtain ⟨parts, hparts⟩ := Schema.exists_parts hfields h.declared.distinct h.default
  rw [Family.resting, Schema.ofTarget_of_model? (Family.model?_rebind_self h.model), hparts mode hq]
    at hs
  obtain ⟨p, rfl, rfl⟩ := map_eq_ok.1 hs
  refine ⟨p.1, p.2, Schema.identifierOf m before.length decl, fun hw => ?_, rfl, hparts⟩
  rw [Schema.identifierOf, hw]
  rfl

/-- A binder of a family where one field rests on its default. -/
def resting (m : Model) (decl : FieldDecl) (mode : BindingMode) (b : Binder ν) : Binder ν :=
  { b with family := b.family.resting m decl mode }

section

variable {A : World ν → World ν → Prop} {name : String} {s s' : Schema}
  (h : b.family.Rests m decl v) (hq : mode.queries = false) (hq' : mode'.queries = false)

include h hq hq'

theorem abreast_resting :
    (b.resting m decl mode).family.Abreast (b.resting m decl mode').family := by
  obtain ⟨before, after, hfields⟩ := List.append_of_mem h.mem
  exact Family.abreast_resting h.model hfields h.declared.distinct h.default hq hq'

/-- The model of the field is put together alike, if its fields are bound alike. -/
theorem agrees_assemble_resting (hA : Blind A) (hkeeps : Validation.KeepsDefault b.family m decl v)
    (hs : Schema.ofTarget (b.resting m decl mode).family (.model m.name) = .ok s)
    (hs' : Schema.ofTarget (b.resting m decl mode').family (.model m.name) = .ok s')
    (hone : ∀ f ∈ s.fields, Agrees A ((b.resting m decl mode).bindOne nested scope [] f)
      ((b.resting m decl mode').bindOne nested' scope [] f)) :
    Agrees A
      ((b.resting m decl mode).bindAll nested scope [] s.fields >>= fun values =>
        Run.ofExcept (assemble (b.resting m decl mode).family s values))
      ((b.resting m decl mode').bindAll nested' scope [] s'.fields >>= fun values =>
        Run.ofExcept (assemble (b.resting m decl mode').family s' values)) := by
  obtain ⟨fs, gs, i, hi, rfl, hof⟩ := exists_restingSchema h hq hs
  have hs'' : s' = restingSchema m fs gs i mode' v := by
    rw [resting, Family.resting, Schema.ofTarget_of_model? (Family.model?_rebind_self h.model),
      hof mode' hq'] at hs'
    cases hs'
    rfl
  subst hs''
  have hfs : ∀ f ∈ fs, f ∈ (restingSchema m fs gs i mode v).fields :=
    fun f hf => List.mem_append_left _ hf
  have hgs : ∀ f ∈ gs, f ∈ (restingSchema m fs gs i mode v).fields :=
    fun f hf => List.mem_append_right _ (List.mem_cons_of_mem _ hf)
  have hassemble : ∀ vs ws,
      assemble (b.resting m decl mode).family (restingSchema m fs gs i mode v)
          (restingValues fs gs i mode v vs ws) =
        assemble (b.resting m decl mode').family (restingSchema m fs gs i mode' v)
          (restingValues fs gs i mode' v vs ws) := by
    intro vs ws
    rw [resting, resting, assemble_resting (hof mode hq) h hkeeps hq hi,
      assemble_resting (hof mode' hq') h hkeeps hq' hi]
  rw [bindAll_restingSchema hq, bindAll_restingSchema hq']
  simp only [bind_assoc, pure_bind]
  refine .bind (.mapM fun f hf => hone f (hfs f hf)) fun vs => ?_
  refine .bind (agrees_restingNote hA i mode mode') fun _ => ?_
  refine .bind (.mapM fun f hf => hone f (hgs f hf)) fun ws => ?_
  rw [hassemble]
  exact .ofExcept _

omit h hq hq' in
/-- Any other model is put together as ever, if its fields are bound alike. -/
theorem agrees_assemble_other (hname : name ≠ m.name)
    (hs : Schema.ofTarget (b.resting m decl mode).family (.model name) = .ok s)
    (hs' : Schema.ofTarget (b.resting m decl mode').family (.model name) = .ok s')
    (hone : ∀ f ∈ s.fields, Agrees A ((b.resting m decl mode).bindOne nested scope [] f)
      ((b.resting m decl mode').bindOne nested' scope [] f)) :
    Agrees A
      ((b.resting m decl mode).bindAll nested scope [] s.fields >>= fun values =>
        Run.ofExcept (assemble (b.resting m decl mode).family s values))
      ((b.resting m decl mode').bindAll nested' scope [] s'.fields >>= fun values =>
        Run.ofExcept (assemble (b.resting m decl mode').family s' values)) := by
  have htarget : s.target ≠ m.name := by
    rw [target_of_ofTarget hs]
    exact hname
  have hsame : s' = s := by
    rw [resting, Family.resting, Schema.ofTarget_rebind_ne hname] at hs hs'
    rw [hs] at hs'
    cases hs'
    rfl
  subst hsame
  rw [bindAll_eq_mapM, bindAll_eq_mapM, bind_map_left, bind_map_left]
  refine .bind (.mapM hone) fun vs => ?_
  dsimp only [resting, Family.resting]
  rw [assemble_rebind_ne _ htarget, assemble_rebind_ne _ htarget]
  exact .ofExcept _

theorem agrees_structureWithin_resting (hkeeps : Validation.KeepsDefault b.family m decl v)
    (depth : Nat) (hd : ¬ (b.resting m decl mode).family.Doomed name)
    (hs : Schema.ofTarget (b.resting m decl mode).family (.model name) = .ok s)
    (hs' : Schema.ofTarget (b.resting m decl mode').family (.model name) = .ok s')
    (scope : Option ν) :
    Agrees (Beside (b.resting m decl mode).family (b.resting m decl mode').family)
      ((b.resting m decl mode).structureWithin depth s scope [])
      ((b.resting m decl mode').structureWithin depth s' scope []) := by
  induction depth generalizing name s s' scope with
  | zero => exact .endless _
  | succ depth ih =>
    have hone : ∀ f ∈ s.fields,
        Agrees (Beside (b.resting m decl mode).family (b.resting m decl mode').family)
          ((b.resting m decl mode).bindOne
            ((b.resting m decl mode).belowWithin depth) scope [] f)
          ((b.resting m decl mode').bindOne
            ((b.resting m decl mode').belowWithin depth) scope [] f) := by
      intro f hf
      refine agrees_bindOne_of_nests blind_beside hs hf (fun t _ => carries_beside t) ?_ scope []
      intro inner n hnests
      -- what is nested in a model that is not doomed is not doomed, however the field rests
      have hinner := fun hdoomed => hd (.of_nests hnests hdoomed)
      have hinner' := fun hdoomed => hinner ((abreast_resting h hq hq').symm.doomed hdoomed)
      obtain ⟨t, ht⟩ := Family.exists_schema hinner
      obtain ⟨t', ht'⟩ := Family.exists_schema hinner'
      exact agrees_lookup_beside hinner hinner' ht ht' (ih hinner ht ht' (some n))
    rw [structureWithin_succ, structureWithin_succ]
    by_cases hname : name = m.name
    · subst hname
      exact agrees_assemble_resting h hq hq' blind_beside hkeeps hs hs' hone
    · exact agrees_assemble_other hname hs hs' hone

end

/-! ## Whole runs -/

/-- A run that succeeds has found the schema of its model. -/
theorem exists_schema_of_materialize {name : String} {scope : Option ν} {presets : Bound}
    {w : World ν} (hw : Registry.Faithful b.family w.registry) {x : Value}
    (hx : ((b.materialize (.model name) scope presets).run.run w).1 = .ok x) :
    ∃ s, Schema.ofTarget b.family (.model name) = .ok s := by
  obtain ⟨w', hrun⟩ := exists_run_eq hx
  obtain ⟨s, w₁, hlookup, -⟩ := run_bind_eq_ok (b.materialize_eq _ _ _ ▸ hrun)
  obtain ⟨log, hlog⟩ := run_lookup b.family name w
  rw [hlog] at hlookup
  have hresult := Validation.eq_ok_of_mapError (congrArg Prod.fst hlookup)
  exact ⟨s, Registry.ofTarget_of_register_ok hw hresult⟩

/-- A run that succeeds gives the field what becomes of its default. -/
theorem held_of_materialize_resting (h : b.family.Rests m decl v) (mode : BindingMode)
    (hq : mode.queries = false) (scope : Option ν) {w : World ν}
    (hw : Registry.Faithful (b.resting m decl mode).family w.registry) {x : Value}
    (hx : (((b.resting m decl mode).materialize (.model m.name) scope []).run.run w).1 = .ok x) :
    ∃ y, x.held? decl.name = some y ∧
      Validation.taken b.family m decl v (x.before decl.name)
        (if mode = .useDefault then some v else none) = .ok y := by
  obtain ⟨s, hs⟩ := exists_schema_of_materialize hw hx
  obtain ⟨nested, values, w₁, w₂, hbind, hassemble⟩ := exists_bound_of_materialize hw hs hx
  obtain ⟨fs, gs, i, hi, rfl, hof⟩ := exists_restingSchema h hq hs
  rw [bindAll_restingSchema hq] at hbind
  obtain ⟨vs, w₃, -, hbind⟩ := run_bind_eq_ok hbind
  obtain ⟨_, w₄, -, hbind⟩ := run_bind_eq_ok hbind
  obtain ⟨ws, w₅, -, hbind⟩ := run_bind_eq_ok hbind
  cases hbind
  exact held_of_assemble_resting (hof mode hq) h hi hassemble

theorem agrees_materialize_resting (h : b.family.Rests m decl v)
    (hkeeps : Validation.KeepsDefault b.family m decl v) (hq : mode.queries = false)
    (hq' : mode'.queries = false) {name : String}
    (hd : ¬ (b.resting m decl mode).family.Doomed name) (scope : Option ν) :
    Agrees (Beside (b.resting m decl mode).family (b.resting m decl mode').family)
      ((b.resting m decl mode).materialize (.model name) scope [])
      ((b.resting m decl mode').materialize (.model name) scope []) := by
  have habreast := abreast_resting h hq hq'
  have hd' : ¬ (b.resting m decl mode').family.Doomed name :=
    fun hdoomed => hd (habreast.symm.doomed hdoomed)
  obtain ⟨s, hs⟩ := Family.exists_schema hd
  obtain ⟨s', hs'⟩ := Family.exists_schema hd'
  have hdepth : (b.resting m decl mode).depth = (b.resting m decl mode').depth := by
    rw [depth, depth, habreast.length]
    rfl
  refine agrees_lookup_beside hd hd' hs hs' ?_
  rw [checkPresets_eq_ok (by simp), checkPresets_eq_ok (by simp), target_of_ofTarget hs,
    target_of_ofTarget hs', hdepth]
  exact .bind (.ofExcept _) fun _ => agrees_logged blind_beside
    (agrees_structureWithin_resting h hq hq' hkeeps _ hd hs hs' scope) _

/-- A model that leads to a refused one is refused alike, however a field rests on its default. -/
theorem fst_materialize_of_doomed {w w' : World ν} {b b' : Binder ν}
    (habreast : b.family.Abreast b'.family) {name : String} (hd : b.family.Doomed name)
    (hw : Registry.Coherent b.family (fun _ => False) w.registry)
    (hw' : Registry.Coherent b'.family (fun _ => False) w'.registry) (scope : Option ν)
    (presets : Bound) : ((b.materialize (.model name) scope presets).run.run w).1 =
      ((b'.materialize (.model name) scope presets).run.run w').1 := by
  obtain ⟨log, hlog⟩ := run_lookup b.family name w
  obtain ⟨log', hlog'⟩ := run_lookup b'.family name w'
  rcases hr : (w.registry.register b.family name).result with e | s
  · rw [hr] at hlog
    rw [(habreast.register_error_iff hw hw' name e).1 hr] at hlog'
    rw [materialize_eq, materialize_eq, run_bind_error hlog, run_bind_error hlog']
  · exact absurd hd (hw.settled_register hr).2.not_doomed

/-- However the field rests on a default that validation keeps, every run ends alike. -/
theorem fst_materialize_resting (h : b.family.Rests m decl v)
    (hkeeps : Validation.KeepsDefault b.family m decl v) (hq : mode.queries = false)
    (hq' : mode'.queries = false) {w w' : World ν}
    (hw : Registry.Coherent (b.resting m decl mode).family (fun _ => False) w.registry)
    (hw' : Registry.Coherent (b.resting m decl mode').family (fun _ => False) w'.registry)
    (hcalls : w.calls = w'.calls) (name : String) (scope : Option ν) :
    (((b.resting m decl mode).materialize (.model name) scope []).run.run w).1 =
      (((b.resting m decl mode').materialize (.model name) scope []).run.run w').1 := by
  have habreast := abreast_resting h hq hq'
  by_cases hd : (b.resting m decl mode).family.Doomed name
  · exact fst_materialize_of_doomed habreast hd hw hw' scope []
  · have hd' : ¬ (b.resting m decl mode').family.Doomed name :=
      fun hdoomed => hd (habreast.symm.doomed hdoomed)
    have hbeside : Beside (b.resting m decl mode).family (b.resting m decl mode').family w w' :=
      ⟨hw.faithful, hw'.faithful, hcalls⟩
    have hagrees := agrees_materialize_resting h hkeeps hq hq' hd scope
    have hagrees' := agrees_materialize_resting h hkeeps hq' hq hd' scope
    exact hagrees.fst_eq hagrees' hbeside hbeside.symm

/-- Handing a default on and leaving it to the model. Let the name of a field be its own. If
validation keeps the default of the field, then every run ends alike when the field is bound by its
default and when it is ignored. An instance of the model holds the default in the field: validated
behind the fields before it if the default was used, and as the model leaves it if the field was
ignored. If both give the same instance, validation keeps the default behind the fields before it.
If the checks of the field look at its own value only and ignoring it gives an instance, then using
the default gives the same one just when validation keeps it. -/
theorem a_used_default_is_a_default_left_alone_if_validation_keeps_it (family : Family) {m : Model}
    {decl : FieldDecl} {v : Value} (h : family.Rests m decl v) (document : Document ν)
    (policy : StringListPolicy) (name : String) (scope : Option ν) (w w' : World ν)
    (hw : Registry.Coherent (family.rebind m.name decl.name .useDefault) (fun _ => False)
      w.registry)
    (hw' : Registry.Coherent (family.rebind m.name decl.name .ignore) (fun _ => False) w'.registry)
    (hcalls : w.calls = w'.calls) :
    let used := ((materialize ⟨family.rebind m.name decl.name .useDefault, document, policy⟩
      (.model name) scope []).run.run w).1
    let ignored := ((materialize ⟨family.rebind m.name decl.name .ignore, document, policy⟩
      (.model name) scope []).run.run w').1
    (Validation.KeepsDefault family m decl v → used = ignored) ∧
      (name = m.name → ∀ x,
        (used = .ok x → ∃ y, x.held? decl.name = some y ∧
          Validation.validated family m decl (x.before decl.name) v = .ok y) ∧
        (ignored = .ok x →
          (∃ y, x.held? decl.name = some y ∧ Validation.leftOut
            (Validation.builder family m none) m decl (x.before decl.name) v = .ok y) ∧
          (used = .ok x →
            Validation.KeepsDefaultBehind family m decl v (x.before decl.name)) ∧
          (decl.Solitary → (used = .ok x ↔ Validation.KeepsDefault family m decl v)))) := by
  intro used ignored
  have hsame : Validation.KeepsDefault family m decl v → used = ignored := fun hkeeps =>
    fst_materialize_resting (b := ⟨family, document, policy⟩) h hkeeps rfl rfl hw hw' hcalls name
      scope
  refine ⟨hsame, ?_⟩
  rintro rfl x
  have hused : used = .ok x → ∃ y, x.held? decl.name = some y ∧
      Validation.validated family m decl (x.before decl.name) v = .ok y :=
    held_of_materialize_resting (b := ⟨family, document, policy⟩) h .useDefault rfl scope
      hw.faithful
  refine ⟨hused, fun hx => ?_⟩
  obtain ⟨y, hy, hleft⟩ := held_of_materialize_resting (b := ⟨family, document, policy⟩) h .ignore
    rfl scope hw'.faithful hx
  have hbehind : used = .ok x →
      Validation.KeepsDefaultBehind family m decl v (x.before decl.name) := by
    intro hx'
    obtain ⟨y', hy', hvalidated⟩ := hused hx'
    -- the field holds one value, which is both what was validated and what was left out
    rw [hy] at hy'
    cases hy'
    exact hvalidated.trans hleft.symm
  refine ⟨⟨y, hy, hleft⟩, hbehind, fun hsolitary => ⟨fun hx' => ?_, fun hkeeps => ?_⟩⟩
  · exact Validation.keepsDefault_of_solitary hsolitary (hbehind hx')
  · exact (hsame hkeeps).trans hx

/-- A note that is left to its default, `-`. -/
def dash : FieldDecl := .bound "note" .text .ignore (some (.text "-"))

/-- An article has a headline and a note. -/
def notes : Model :=
  .plain "Article" [.bound "headline" .text (.scrape "//h1" none none) none, dash]

/-- How a run on an echo ends that binds the note of a model by another directive. -/
def noted (m : Model) (d : Directive) : Except Failure Value :=
  ((materialize ⟨Family.rebind m.name "note" d [m], echo, .error⟩ (.model m.name) none []).run.run
    ⟨.empty, [], .initial .standard, []⟩).1

theorem rests_dash : Family.Rests [notes] notes dash (.text "-") := by
  have hothers : ∀ f ∈ notes.fields, Validation.waysTo notes f = [[.name f.name]] := by
    simp [notes, dash, Model.plain, FieldDecl.bound, Validation.waysTo, FieldDecl.readingAlias?]
  refine ⟨rfl, ⟨by decide, fun hw => by cases hw⟩, by simp [notes, Model.plain], rfl,
    .inr ⟨?_, ?_, ?_⟩⟩
  · intro f hf hne way hway
    rw [hothers f hf, List.mem_singleton] at hway
    exact ⟨_, _, hway, fun heq => hne (Identifier.name.inj heq)⟩
  · intro way hway
    rw [hothers dash (by simp [notes, Model.plain]), List.mem_singleton] at hway
    exact .inl hway
  · simp [notes, Model.plain]

def noteValue (headline : String) (note : Value) : Value :=
  .record "Article" [("headline", .text headline), ("note", note)]

/-- An article has a dash for its note, handed on or left alone. -/
theorem a_dash_is_kept : Validation.KeepsDefault [notes] notes dash (.text "-") ∧
    noted notes .ignore = .ok (noteValue "//h1" (.text "-")) ∧
    noted notes .useDefault = noted notes .ignore ∧
    (∃ y, (noteValue "//h1" (.text "-")).held? "note" = some y ∧
      Validation.leftOut (Validation.builder [notes] notes none) notes dash
        [("headline", .text "//h1")] (.text "-") = .ok y) ∧
    (noted notes .useDefault = .ok (noteValue "//h1" (.text "-")) ↔
      Validation.KeepsDefault [notes] notes dash (.text "-")) := by
  have hsolitary : dash.Solitary := FieldDecl.overlooks_of_unchecked rfl _
  have hbehind : Validation.KeepsDefaultBehind [notes] notes dash (.text "-") [] := by
    cbv
  have hkeeps := Validation.keepsDefault_of_solitary hsolitary hbehind
  have hignored : noted notes .ignore = .ok (noteValue "//h1" (.text "-")) := by
    cbv
  obtain ⟨hsame, hheld⟩ := a_used_default_is_a_default_left_alone_if_validation_keeps_it [notes]
    rests_dash echo .error "Article" none ⟨.empty, [], .initial .standard, []⟩
    ⟨.empty, [], .initial .standard, []⟩ (Registry.coherent_empty _ _)
    (Registry.coherent_empty _ _) rfl
  obtain ⟨hnote, -, hiff⟩ := (hheld rfl _).2 hignored
  exact ⟨hkeeps, hignored, hsame hkeeps, hnote, hiff hsolitary⟩

/-- A note that is a number by its type, and a text by its default. -/
def fives : Model :=
  .plain "Article" [.bound "headline" .text (.scrape "//h1" none none) none,
    .bound "note" .integer .ignore (some (.text "5"))]

/-- The headline of an article is also called a note. -/
def notedHeadlines : Model :=
  ⟨"Article", [aliased "headline" "note" "//h1", dash], false,
    ⟨true, false, false, false, false⟩, []⟩

/-- The note of an article is also called a headline. -/
def headlinedNotes : Model :=
  ⟨"Article", [.bound "headline" .text (.scrape "//h1" none none) none,
    { dash with aliasName := some "headline" }], false, ⟨true, false, false, false, false⟩, []⟩

/-- The note of an article becomes its headline, before anything is read. -/
def promoted : Model := { notes with checks := [.rename "note" (some "headline")] }

/-- Something else becomes the note of an article. -/
def replaced : Model := { notes with checks := [.rename "remark" (some "note")] }

/-- A used default is made into the type of its field. One that lies under a name which is not its
own becomes the value of another field, or is not looked at, and a field with other names holds what
lies under them. -/
theorem a_used_default_may_change_or_stray :
    (noted fives .useDefault = .ok (noteValue "//h1" (.int 5)) ∧
      noted fives .ignore = .ok (noteValue "//h1" (.text "5"))) ∧
    (noted notedHeadlines .useDefault = .ok (noteValue "-" (.text "-")) ∧
      noted notedHeadlines .ignore = .ok (noteValue "//h1" (.text "-"))) ∧
    (noted headlinedNotes .useDefault = .ok (noteValue "//h1" (.text "//h1")) ∧
      noted headlinedNotes .ignore = .ok (noteValue "//h1" (.text "//h1"))) ∧
    (noted promoted .useDefault = .ok (noteValue "-" (.text "-")) ∧
      noted promoted .ignore = .ok (noteValue "added" (.text "-"))) ∧
    (noted replaced .useDefault = .ok (noteValue "//h1" (.text "added")) ∧
      noted replaced .ignore = .ok (noteValue "//h1" (.text "added"))) := by
  refine ⟨⟨?_, ?_⟩, ⟨?_, ?_⟩, ⟨?_, ?_⟩, ⟨?_, ?_⟩, ?_, ?_⟩ <;> cbv

end Binder

end QueryBinding
