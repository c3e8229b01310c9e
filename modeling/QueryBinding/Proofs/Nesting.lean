-- A nested structure is built as it is built alone. What a field nests is the
-- same as what separate runs at the top give for the nodes that it matches, and
-- a failure of such a run is the failure of the whole, told below the field.
import QueryBinding.Proofs.Failures
import QueryBinding.Proofs.Pairs

namespace QueryBinding

/-! ## Transforms that keep no state -/

/-- The result depends on the argument alone. -/
def Transform.Steady (t : Transform) : Prop :=
  ∀ v calls calls', ((t.apply v).run.run calls).1 = ((t.apply v).run.run calls').1

def Family.Steady (family : Family) : Prop :=
  ∀ m ∈ family, ∀ decl ∈ m.fields, ∀ d ∈ decl.directives, ∀ t, d.transform = some t → t.Steady

theorem Family.Steady.transform {family : Family} (h : family.Steady) {name : String} {s : Schema}
    (hs : Schema.ofTarget family (.model name) = .ok s) {f : FieldSpec} (hf : f ∈ s.fields)
    {t : Transform} (ht : f.transform = some t) : t.Steady := by
  obtain ⟨m, hm, hof⟩ := Schema.ofTarget_eq_ok hs
  obtain ⟨decl, hd, i, hfield⟩ := Schema.exists_decl hof hf
  obtain ⟨d, hdir, hb, -⟩ := Schema.fieldOf_eq_ok hfield
  refine h m (Family.mem_of_model? hm) decl hd d (by rw [hdir]; exact List.mem_singleton_self d)
    t ?_
  rw [← (Schema.bindingOf_eq_ok hb).2.2.2, ht]

theorem Family.exists_schema {family : Family} {name : String} (h : ¬ family.Doomed name) :
    ∃ s, Schema.ofTarget family (.model name) = .ok s := by
  rcases hs : Schema.ofTarget family (.model name) with e | s
  · exact absurd (.of_refuses ⟨e, hs⟩) h
  · exact ⟨s, rfl⟩

namespace Binder

open Run

variable {ν α : Type} {b : Binder ν} {family : Family}

/-! ## Worlds that are alike -/

/-- Two worlds hold the schemas of their models, and transforms have been called as often in one as
in the other, where that matters. -/
structure Alike (family : Family) (w w' : World ν) : Prop where
  left : Registry.Faithful family w.registry
  right : Registry.Faithful family w'.registry
  calls : family.Steady ∨ w.calls = w'.calls

theorem blind_alike : Blind (Alike family : World ν → World ν → Prop) :=
  fun _ _ _ _ _ _ h => ⟨h.left, h.right, h.calls⟩

theorem carries_alike {t : Transform} (ht : family.Steady → t.Steady) :
    Carries (Alike family : World ν → World ν → Prop) t := by
  intro w w' v trace trace' h
  rcases h.calls with hsteady | hcalls
  · exact ⟨ht hsteady v _ _, h.left, h.right, .inl hsteady⟩
  · rw [hcalls]
    exact ⟨rfl, h.left, h.right, .inr rfl⟩

/-- Looking up a model that is not doomed gives its schema, and only registers it. -/
theorem exists_run_lookup {name : String} {s : Schema} (hd : ¬ family.Doomed name)
    (hs : Schema.ofTarget family (.model name) = .ok s) {w : World ν}
    (hw : Registry.Faithful family w.registry) : ∃ log,
      (lookup family (.model name) : Run ν Schema).run.run w =
        (.ok s, { w with registry := (w.registry.register family name).registry, log := log }) := by
  obtain ⟨log, hlog⟩ := run_lookup family name w
  obtain ⟨t, ht, hof⟩ := Registry.exists_register_ok hw hd
  rw [hs] at hof
  cases hof
  exact ⟨log, by rw [hlog, ht]; rfl⟩

/-- Looking up a model that is not doomed gives its schema in both worlds. -/
theorem agrees_lookup_bind {name : String} {s : Schema} {f f' : Schema → Run ν α}
    (hd : ¬ family.Doomed name) (hs : Schema.ofTarget family (.model name) = .ok s)
    (h : Agrees (Alike family) (f s) (f' s)) :
    Agrees (Alike family) (lookup family (.model name) >>= f)
      (lookup family (.model name) >>= f') := by
  intro w w' halike
  obtain ⟨log, hlog⟩ := exists_run_lookup hd hs halike.left
  obtain ⟨log', hlog'⟩ := exists_run_lookup hd hs halike.right
  rw [run_bind_ok hlog, run_bind_ok hlog']
  exact h _ _ ⟨Registry.faithful_register halike.left name,
    Registry.faithful_register halike.right name, halike.calls⟩

/-! ## Budgets -/

/-- The models that the fields of an accepted model ask for are nested in it. -/
theorem nests_of_target? {name inner : String} {s : Schema}
    (hs : Schema.ofTarget family (.model name) = .ok s) {f : FieldSpec} (hf : f ∈ s.fields)
    (ht : f.target? = some (.model inner)) : family.Nests name inner :=
  ⟨s, hs, Registry.mem_nested.2 ⟨f, hf, ht⟩⟩

/-- A field of an accepted model is bound alike, if what it nests is built alike. -/
theorem agrees_bindOne_of_nests {A : World ν → World ν → Prop} (hA : Blind A)
    {nested nested' : Target → ν → Run ν Value} {name : String} {s : Schema}
    (hs : Schema.ofTarget family (.model name) = .ok s) {f : FieldSpec} (hf : f ∈ s.fields)
    (hc : ∀ t, f.transform = some t → Carries A t)
    (hn : ∀ inner n, family.Nests name inner →
      Agrees A (nested (.model inner) n) (nested' (.model inner) n))
    (scope : Option ν) (presets : Bound) :
    Agrees A (b.bindOne nested scope presets f) (b.bindOne nested' scope presets f) := by
  refine agrees_bindOne hA (agrees_bindField hA hc ?_)
  intro shape ms n hshape hk _ _
  obtain ⟨inner, htarget⟩ := ((Schema.fits_of_mem_fields hs hf).shape shape hshape).nested hk
  rw [Coercion.targetOf, htarget]
  refine hn inner n (nests_of_target? hs hf ?_)
  rw [FieldSpec.target?, hshape]
  exact htarget

/-- A run with a larger budget ends as one with a smaller budget, unless that one is spent. -/
theorem agrees_structureWithin {depth depth' : Nat} (hle : depth ≤ depth') {name : String}
    {s : Schema} (hd : ¬ b.family.Doomed name)
    (hs : Schema.ofTarget b.family (.model name) = .ok s) (scope : Option ν) (presets : Bound) :
    Agrees (Alike b.family) (b.structureWithin depth s scope presets)
      (b.structureWithin depth' s scope presets) := by
  induction depth generalizing depth' name s scope presets with
  | zero => exact .endless _
  | succ depth ih =>
    obtain ⟨depth', rfl⟩ := Nat.exists_eq_add_of_lt hle
    refine .bind (agrees_bindAll fun f hf => ?_) fun values => .ofExcept _
    have hcarries : ∀ t, f.transform = some t →
        Carries (Alike b.family : World ν → World ν → Prop) t :=
      fun t ht => carries_alike fun hsteady => hsteady.transform hs hf ht
    refine agrees_bindOne_of_nests blind_alike hs hf hcarries (fun inner n hnests => ?_)
      scope presets
    have hinner : ¬ b.family.Doomed inner := fun h => hd (.of_nests hnests h)
    obtain ⟨t, ht⟩ := Family.exists_schema hinner
    exact agrees_lookup_bind hinner ht (ih (by omega) hinner ht (some n) [])

/-! ## Separate runs -/

theorem exists_report_log (x : Except Failure Value) (w : World ν) :
    ∃ log, report x w = { w with log := log } := by
  unfold report
  split <;> exact ⟨_, rfl⟩

/-- What the log is told about a whole run changes nothing else. -/
theorem exists_run_logged (values : Log.Fields) (m : Run ν Value) (w : World ν) : ∃ log log',
    (logging values (Run.ensuring m report)).run.run w =
      ((m.run.run { w with log := log }).1,
        { (m.run.run { w with log := log }).2 with log := log' }) := by
  rw [run_logging, run_ensuring]
  obtain ⟨log, hlog⟩ := exists_report_log (m.run.run { w with log := (w.log.enter values).2 }).1
    (m.run.run { w with log := (w.log.enter values).2 }).2
  dsimp only
  rw [hlog]
  exact ⟨_, _, rfl⟩

theorem agrees_logged_right {A : World ν → World ν → Prop} (hA : Blind A) {m m' : Run ν Value}
    (h : Agrees A m m') (values : Log.Fields) :
    Agrees A m (logging values (Run.ensuring m' report)) := by
  intro w w' halike
  obtain ⟨log, log', hrun⟩ := exists_run_logged values m' w'
  rw [hrun]
  rcases h w _ (hA.right halike log) with hend | ⟨heq, hafter⟩
  · exact .inl hend
  · exact .inr ⟨heq, hA.right hafter log'⟩

theorem agrees_logged {A : World ν → World ν → Prop} (hA : Blind A) {m m' : Run ν Value}
    (h : Agrees A m m') (values : Log.Fields) :
    Agrees A (logging values (Run.ensuring m report))
      (logging values (Run.ensuring m' report)) := by
  intro w w' halike
  obtain ⟨log, log', hrun⟩ := exists_run_logged values m w
  rw [hrun]
  rcases agrees_logged_right hA h values _ w' (hA.left halike log) with hend | ⟨heq, hafter⟩
  · exact .inl hend
  · exact .inr ⟨heq, hA.left hafter log'⟩

/-- How what a field nests is built inside a whole run. -/
def below (b : Binder ν) (t : Target) (n : ν) : Run ν Value := do
  let s ← lookup b.family t
  b.structureWithin (b.depth - 1) s (some n) []

/-- A nested structure ends as a separate run for its node does. -/
theorem agrees_below (b : Binder ν) {inner : String} (hd : ¬ b.family.Doomed inner) (n : ν) :
    Agrees (Alike b.family) (b.below (.model inner) n)
      (b.materialize (.model inner) (some n) []) := by
  obtain ⟨s, hs⟩ := Family.exists_schema hd
  have hpresets : checkPresets s [] = .ok () := checkPresets_eq_ok (by simp)
  refine agrees_lookup_bind hd hs ?_
  rw [hpresets]
  exact agrees_logged_right blind_alike (agrees_structureWithin (Nat.sub_le _ _) hd hs
    (some n) []) _

/-- A run agrees with a second run of itself. -/
theorem agrees_materialize (b : Binder ν) {name : String} (hd : ¬ b.family.Doomed name)
    (scope : Option ν) (presets : Bound) :
    Agrees (Alike b.family) (b.materialize (.model name) scope presets)
      (b.materialize (.model name) scope presets) := by
  obtain ⟨s, hs⟩ := Family.exists_schema hd
  refine agrees_lookup_bind hd hs (.bind (.ofExcept _) fun _ => ?_)
  exact agrees_logged blind_alike (agrees_structureWithin (Nat.le_refl _) hd hs scope presets) _

/-! ## The fields before a field -/

/-- All that happens before the first field is bound. -/
def enter (b : Binder ν) (t : Target) (presets : Bound) : Run ν Schema := do
  let s ← lookup b.family t
  Run.ofExcept (checkPresets s presets)
  modify fun w => { w with log := (w.log.enter [("target", .text s.target)]).2 }
  return s

/-- A whole run up to the last of some fields. -/
def upTo (b : Binder ν) (t : Target) (scope : Option ν) (presets : Bound) (fs : List FieldSpec) :
    Run ν Bound := do
  let _ ← b.enter t presets
  b.bindAll b.below scope presets fs

theorem bindAll_append (nested : Target → ν → Run ν Value) (scope : Option ν) (presets : Bound)
    (fs gs : List FieldSpec) :
    b.bindAll nested scope presets (fs ++ gs) = (do
      let values ← b.bindAll nested scope presets fs
      let rest ← b.bindAll nested scope presets gs
      return values ++ rest) := by
  induction fs with
  | nil => simp [bindAll]
  | cons f fs ih =>
    simp only [List.cons_append, bindAll, ih, bind_assoc]
    refine congrArg _ (funext fun v => ?_)
    cases v <;> simp only [pure_bind, List.cons_append]

/-- A whole run enters, binds all fields and puts them together. -/
theorem fst_materialize (b : Binder ν) (t : Target) (scope : Option ν) (presets : Bound)
    (w : World ν) : ((b.materialize t scope presets).run.run w).1 = ((do
      let s ← b.enter t presets
      let values ← b.bindAll b.below scope presets s.fields
      Run.ofExcept (assemble b.family s values) : Run ν Value).run.run w).1 := by
  rw [materialize_eq]
  unfold enter
  rw [bind_assoc]
  rcases hl : (lookup b.family t : Run ν Schema).run.run w with ⟨e | s, w₁⟩
  · rw [run_bind_error hl, run_bind_error hl]
  · rw [run_bind_ok hl, run_bind_ok hl]
    unfold instantiate
    cases checkPresets s presets with
    | error e => rfl
    | ok u => rfl

/-- Entering gives the schema of the model. -/
theorem eq_of_enter {name : String} {s s' : Schema} {presets : Bound} {w w' : World ν}
    (hw : Registry.Faithful b.family w.registry)
    (hs : Schema.ofTarget b.family (.model name) = .ok s)
    (h : (b.enter (.model name) presets).run.run w = (.ok s', w')) : s' = s := by
  obtain ⟨t, w₁, hlookup, h⟩ := run_bind_eq_ok h
  obtain ⟨-, w₂, -, h⟩ := run_bind_eq_ok h
  obtain ⟨-, w₃, -, h⟩ := run_bind_eq_ok h
  cases h
  exact eq_of_run_lookup hw hs hlookup

/-- What fails before a whole run has bound all fields is the failure of the whole run. -/
theorem materialize_error_of_upTo {name : String} {s : Schema} {scope : Option ν} {presets : Bound}
    {fs gs : List FieldSpec} {w : World ν} {e : Failure}
    (hw : Registry.Faithful b.family w.registry)
    (hs : Schema.ofTarget b.family (.model name) = .ok s) (hfields : s.fields = fs ++ gs)
    (h : ((b.upTo (.model name) scope presets fs).run.run w).1 = .error e) :
    ((b.materialize (.model name) scope presets).run.run w).1 = .error e := by
  rw [fst_materialize]
  unfold upTo at h
  rcases he : (b.enter (.model name) presets).run.run w with ⟨e' | s', w₁⟩
  · rw [run_bind_error he] at h ⊢
    cases h
    rfl
  · rw [run_bind_ok he] at h ⊢
    rw [eq_of_enter hw hs he, hfields, bindAll_append]
    obtain ⟨w₂, hbind⟩ := exists_run_eq h
    rw [run_bind_error (run_bind_error hbind)]

/-- One more field is bound where the fields before it have left the world. -/
theorem upTo_append_singleton {t : Target} {scope : Option ν} {presets : Bound}
    {fs : List FieldSpec} {f : FieldSpec} {w w₁ : World ν} {values : Bound}
    (hq : f.mode.queries = true)
    (h : (b.upTo t scope presets fs).run.run w = (.ok values, w₁)) :
    ((b.upTo t scope presets (fs ++ [f])).run.run w).1 =
      match ((b.bindField b.below scope f).run.run w₁).1 with
      | .ok v => .ok (values ++ [(f.identifier, v)])
      | .error e => .error (e.within f.identifier) := by
  have happend : b.upTo t scope presets (fs ++ [f]) = (do
      let values ← b.upTo t scope presets fs
      let rest ← b.bindAll b.below scope presets [f]
      return values ++ rest) := by
    simp only [upTo, bindAll_append, bind_assoc]
  have hlast : b.bindAll b.below scope presets [f] = (do
      let v ← Run.within f.identifier (b.bindField b.below scope f)
      return [(f.identifier, v)]) := by
    simp only [bindAll, bindOne_of_queries hq, bind_assoc, pure_bind]
  rw [happend, run_bind_ok h, hlast, bind_assoc]
  rcases hr : (b.bindField b.below scope f).run.run w₁ with ⟨e | v, w₂⟩
  · have hwithin : (Run.within f.identifier (b.bindField b.below scope f)).run.run w₁ =
        (.error (e.within f.identifier), w₂) := by
      rw [run_within, hr]
      rfl
    rw [run_bind_error hwithin]
  · have hwithin : (Run.within f.identifier (b.bindField b.below scope f)).run.run w₁ =
        (.ok v, w₂) := by
      rw [run_within, hr]
      rfl
    rw [run_bind_ok hwithin]
    rfl

/-! ## Separate runs for the nodes of a field -/

theorem agrees_note_left {A : World ν → World ν → Prop} (hA : Blind A) (c : Call ν)
    {m m' : Run ν α} (h : Agrees A m m') : Agrees A (Run.note c >>= fun _ => m) m' := by
  intro w w' halike
  exact h { w with trace := w.trace ++ [c] } w' (hA w w' w.log w'.log _ w'.trace halike)

/-- A single structure is bound as a separate run for the first node gives it. -/
theorem agrees_bindField_one {inner query : String} {f : FieldSpec} {scope : Option ν} {n : ν}
    {rest : List (Match ν)} (hd : ¬ b.family.Doomed inner)
    (hshape : f.shape = some ⟨.nestedOne, some (.model inner)⟩) (ht : f.transform = none)
    (hquery : f.query = some query)
    (hms : b.document.evaluate query scope = .ok (.node n :: rest)) :
    Agrees (Alike b.family) (b.bindField b.below scope f)
      (b.materialize (.model inner) (some n) []) := by
  have hbind : b.bindField b.below scope f =
      (Run.note (.query query scope) >>= fun _ => b.below (.model inner) n) := by
    unfold bindField
    simp only [hquery, Option.getD_some, hms, Run.ofExcept, pure_bind, Coercion.coerce, hshape,
      Coercion.requireNode, Coercion.targetOf, Coercion.applyTransform, ht, bind_pure]
  rw [hbind]
  exact agrees_note_left blind_alike _ (agrees_below b hd n)

theorem agrees_nestedList_mapM {inner : String} (hd : ¬ b.family.Doomed inner) (ns : List ν) :
    Agrees (Alike b.family) (Coercion.nestedList b.below (.model inner) (ns.map .node))
      (ns.mapM fun n => b.materialize (.model inner) (some n) []) := by
  induction ns with
  | nil => exact .pure _
  | cons n ns ih =>
    rw [List.mapM_cons]
    exact .bind (agrees_below b hd n) fun v => .bind ih fun vs => .pure _

/-- A list of structures is bound as separate runs give it, one for each node in order. -/
theorem agrees_bindField_list {inner query : String} {f : FieldSpec}
    {scope : Option ν} {ns : List ν} (hd : ¬ b.family.Doomed inner)
    (hshape : f.shape = some ⟨.nestedList, some (.model inner)⟩) (ht : f.transform = none)
    (hquery : f.query = some query)
    (hms : b.document.evaluate query scope = .ok (ns.map .node)) :
    Agrees (Alike b.family) (b.bindField b.below scope f) (do
      let vs ← ns.mapM fun n => b.materialize (.model inner) (some n) []
      return .list vs) := by
  have hbind : b.bindField b.below scope f = (Run.note (.query query scope) >>= fun _ => do
      let vs ← Coercion.nestedList b.below (.model inner) (ns.map .node)
      return .list vs) := by
    unfold bindField
    simp only [hquery, Option.getD_some, hms, Run.ofExcept, pure_bind, Coercion.coerce, hshape,
      Coercion.targetOf, Coercion.applyTransform, ht, bind_pure]
  rw [hbind]
  exact agrees_note_left blind_alike _ (.bind (agrees_nestedList_mapM hd ns) fun _ => .pure _)

/-! ## The law of nested structures -/

/-- The registry holds the schemas of its models at every field. -/
theorem keeps_upTo (t : Target) (scope : Option ν) (presets : Bound) (fs : List FieldSpec) :
    Keeps (Registry.Faithful b.family) (b.upTo t scope presets fs) (fun _ => True)
      fun _ => True := by
  have hI : ∀ r name, Registry.Faithful b.family r →
      Registry.Faithful b.family (r.register b.family name).registry :=
    fun r name hr => Registry.faithful_register hr name
  refine .bind (P := fun _ => True) ?_ fun _ _ => keeps_bindAll fun f _ => keeps_bindOne fun _ => ?_
  · refine .bind (keeps_lookup hI t) fun s _ => .bind (P := fun _ => True) (.ofExcept ?_)
      fun _ _ => ?_
    · rcases checkPresets s presets with e | u <;> trivial
    · exact .bind (P := fun _ => True) (fun _ hw => ⟨hw, trivial⟩) fun _ _ => .pure trivial
  · refine keeps_bindField ⟨fun _ => trivial, fun _ _ => trivial, fun _ => trivial,
      fun _ _ _ _ => trivial, fun _ _ _ => trivial⟩ fun shape _ n _ _ _ _ => ?_
    exact .bind (keeps_lookup hI _) fun s _ => keeps_structureWithin hI _ s (some n) []

/-- A whole run spends its budget only where structures nest without end. -/
theorem endless_of_materialize {name : String} {s : Schema} {scope : Option ν} {presets : Bound}
    {w : World ν} (hs : (Registry.register b.family .empty name).result = .ok s)
    (hw : Registry.Faithful b.family w.registry)
    (h : ((b.materialize (.model name) scope presets).run.run w).1 = .error .endless) :
    b.document.Raises .endless ∨ b.Endless (name, scope) := by
  have hsettled := Registry.settled_of_register_ok hs
  have hof := Registry.ofTarget_of_register_ok (Registry.faithful_empty b.family) hs
  -- the same run in a world where the model is settled
  let w' : World ν := { w with registry := (Registry.register b.family .empty name).registry }
  have halike : Alike b.family w' w := ⟨hsettled.faithful, hw, .inr rfl⟩
  have hend : ((b.materialize (.model name) scope presets).run.run w').1 = .error .endless := by
    rcases agrees_materialize b hsettled.not_doomed scope presets w' w halike with hend | ⟨heq, -⟩
    · exact hend
    · rw [heq, h]
  have hends := (keeps_materialize_settled hsettled hof scope presets w' rfl).2
  rw [hend] at hends
  rcases hends with hpresets | hfails
  · obtain ⟨fault, hfault⟩ := fault_of_checkPresets hpresets
    cases hfault
  · exact (hfails.descent rfl).imp_right fun hdescent => endless_of_descent (hdescent name hof)

/-- How a field comes by what a separate run gives: it is bound to the value, and a failure is the
failure of the whole run, told below the field. -/
def Tells (b : Binder ν) (name : String) (scope : Option ν) (presets : Bound)
    (before : List FieldSpec) (f : FieldSpec) (values : Bound) (w : World ν) :
    Except Failure Value → Prop
  | .ok v => ((b.upTo (.model name) scope presets (before ++ [f])).run.run w).1 =
      .ok (values ++ [(f.identifier, v)])
  | .error e => ((b.materialize (.model name) scope presets).run.run w).1 =
      .error (e.within f.identifier)

theorem tells_of_agrees {name : String} {s : Schema} {scope : Option ν} {presets : Bound}
    {before after : List FieldSpec} {f : FieldSpec} {values : Bound} {w w₁ u : World ν}
    {m : Run ν Value} (hw : Registry.Faithful b.family w.registry)
    (hs : Schema.ofTarget b.family (.model name) = .ok s)
    (hfields : s.fields = before ++ f :: after) (hq : f.mode.queries = true)
    (hbefore : (b.upTo (.model name) scope presets before).run.run w = (.ok values, w₁))
    (hu : Alike b.family w₁ u) (h : Agrees (Alike b.family) (b.bindField b.below scope f) m) :
    ((b.materialize (.model name) scope presets).run.run w).1 = .error .endless ∨
      b.Tells name scope presets before f values w (m.run.run u).1 := by
  have hupTo := upTo_append_singleton hq hbefore
  have hfails : ∀ e, ((b.bindField b.below scope f).run.run w₁).1 = .error e →
      ((b.materialize (.model name) scope presets).run.run w).1 =
        .error (e.within f.identifier) := by
    intro e he
    rw [he] at hupTo
    have hsplit : s.fields = (before ++ [f]) ++ after := by
      rw [hfields, List.append_assoc]
      rfl
    exact materialize_error_of_upTo hw hs hsplit hupTo
  rcases h w₁ u hu with hend | ⟨heq, -⟩
  · exact .inl (hfails _ hend)
  · right
    rcases hm : (m.run.run u).1 with e | v
    · exact hfails e (heq.trans hm)
    · rw [heq.trans hm] at hupTo
      exact hupTo

/-- A nested structure is built as it is built alone. Let the fields before a field be bound. If the
field nests a single structure, a separate run for its first node gives its value or fails as the
whole run does; if it nests a list, so do separate runs for its nodes, one after the other up to the
first that fails. Separate runs start from any world, if transforms keep no state, and otherwise
from one where they have been called as often. -/
theorem a_nested_structure_is_built_as_it_is_alone (b : Binder ν) {name inner query : String}
    {s : Schema} {before after : List FieldSpec} {f : FieldSpec} {kind : ShapeKind}
    (hs : (Registry.register b.family .empty name).result = .ok s)
    (hfields : s.fields = before ++ f :: after)
    (hshape : f.shape = some ⟨kind, some (.model inner)⟩) (hquery : f.query = some query)
    (ht : f.transform = none) (scope : Option ν) (presets : Bound) {values : Bound}
    {w w₁ u : World ν} (hw : Registry.Faithful b.family w.registry)
    (hbefore : (b.upTo (.model name) scope presets before).run.run w = (.ok values, w₁))
    (hu : Registry.Faithful b.family u.registry)
    (hcalls : b.family.Steady ∨ w₁.calls = u.calls) :
    ((b.materialize (.model name) scope presets).run.run w).1 = .error .endless ∧
        (b.document.Raises .endless ∨ b.Endless (name, scope)) ∨
      (∀ n rest, kind = .nestedOne → b.document.evaluate query scope = .ok (.node n :: rest) →
        b.Tells name scope presets before f values w
          ((b.materialize (.model inner) (some n) []).run.run u).1) ∧
      ∀ ns : List ν, kind = .nestedList → b.document.evaluate query scope = .ok (ns.map .node) →
        b.Tells name scope presets before f values w
          ((do
            let vs ← ns.mapM fun n => b.materialize (.model inner) (some n) []
            return .list vs : Run ν Value).run.run u).1 := by
  have hof := Registry.ofTarget_of_register_ok (Registry.faithful_empty b.family) hs
  have hd := (Registry.settled_of_register_ok hs).not_doomed
  have hmem : f ∈ s.fields := by
    rw [hfields]
    exact List.mem_append_right _ List.mem_cons_self
  have hq : f.mode.queries = true := by
    by_contra hq
    rw [((Schema.fits_of_mem_fields hof hmem).silent (by simpa using hq)).2.1] at hshape
    cases hshape
  have hnests : b.family.Nests name inner :=
    ⟨s, hof, Registry.mem_nested.2 ⟨f, hmem, by rw [FieldSpec.target?, hshape]; rfl⟩⟩
  have hinner : ¬ b.family.Doomed inner := fun h => hd (.of_nests hnests h)
  have halike : Alike b.family w₁ u := by
    have hkeep := (keeps_upTo (.model name) scope presets before w hw).1
    rw [hbefore] at hkeep
    exact ⟨hkeep, hu, hcalls⟩
  by_cases hend : ((b.materialize (.model name) scope presets).run.run w).1 = .error .endless
  · exact .inl ⟨hend, endless_of_materialize hs hw hend⟩
  · refine .inr ⟨fun n rest hk hms => ?_, fun ns hk hms => ?_⟩
    · subst hk
      exact (tells_of_agrees hw hof hfields hq hbefore halike
        (agrees_bindField_one hinner hshape ht hquery hms)).resolve_left hend
    · subst hk
      exact (tells_of_agrees hw hof hfields hq hbefore halike
        (agrees_bindField_list hinner hshape ht hquery hms)).resolve_left hend

theorem pages_steady : pages.Steady := by
  simp [Family.Steady, pages, Model.plain, FieldDecl.bound, Directive.scrape, Directive.ignore]

/-- The posts of a page fail as they fail alone, below the field of the posts. -/
theorem posts_fail_as_they_fail_alone :
    ((do
      let vs ← [()].mapM fun n => closedPages.materialize (.model "Post") (some n) []
      return .list vs : Run Unit Value).run.run ⟨.empty, [], .initial .standard, []⟩).1 =
        .error (.extraction [.name "title"] (.query (some "title") "closed")) ∧
    ((closedPages.materialize (.model "Page") none []).run.run pagesRegistered).1 =
      .error (.extraction [.name "posts", .name "title"] (.query (some "title") "closed")) := by
  have halone : ((do
      let vs ← [()].mapM fun n => closedPages.materialize (.model "Post") (some n) []
      return .list vs : Run Unit Value).run.run ⟨.empty, [], .initial .standard, []⟩).1 =
        .error (.extraction [.name "title"] (.query (some "title") "closed")) := by
    cbv
  have hregister : (Registry.register closedPages.family .empty "Page").result =
      .ok pageSchema := rfl
  have hbefore : ((closedPages.upTo (.model "Page") none [] []).run.run pagesRegistered).1 =
      .ok [] := by
    cbv
  obtain ⟨w₁, hbefore⟩ := exists_run_eq hbefore
  rcases a_nested_structure_is_built_as_it_is_alone closedPages
      (u := ⟨.empty, [], .initial .standard, []⟩) hregister rfl rfl rfl rfl none []
      (Registry.settled_of_register_ok hregister).faithful hbefore (Registry.faithful_empty _)
      (.inl pages_steady) with ⟨hend, -⟩ | ⟨-, hlist⟩
  · have hrun : ((closedPages.materialize (.model "Page") none []).run.run pagesRegistered).1 =
        .error (.extraction [.name "posts", .name "title"] (.query (some "title") "closed")) := by
      cbv
    rw [hrun] at hend
    cases hend
  · have htells := hlist [()] rfl rfl
    rw [halone] at htells
    exact ⟨halone, htells⟩

end Binder

end QueryBinding
