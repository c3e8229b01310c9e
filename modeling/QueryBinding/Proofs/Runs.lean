-- The laws of runs. `Keeps` says of a run that the registry keeps a property,
-- which values the run can give and how it can fail. One law for each piece of
-- a run lets the engine be followed without opening a world.
import QueryBinding.Materialize
import QueryBinding.Proofs.Registration

namespace QueryBinding

namespace Run

variable {ν α β : Type}

/-! ## One run -/

theorem run_bind_ok {m : Run ν α} {f : α → Run ν β} {w w' : World ν} {a : α}
    (h : m.run.run w = (.ok a, w')) : (m >>= f).run.run w = (f a).run.run w' := by
  change ExceptT.bindCont (m := StateM (World ν)) f (m.run.run w).1 (m.run.run w).2 = _
  rw [h]
  rfl

theorem run_bind_error {m : Run ν α} {f : α → Run ν β} {w w' : World ν} {e : Failure}
    (h : m.run.run w = (.error e, w')) : (m >>= f).run.run w = (.error e, w') := by
  change ExceptT.bindCont (m := StateM (World ν)) f (m.run.run w).1 (m.run.run w).2 = _
  rw [h]
  rfl

theorem exists_run_eq {m : Run ν α} {w : World ν} {x : Except Failure α} (h : (m.run.run w).1 = x) :
    ∃ w', m.run.run w = (x, w') := ⟨_, Prod.ext h rfl⟩

theorem run_bind_eq_ok {m : Run ν α} {f : α → Run ν β} {w w' : World ν} {y : β}
    (h : (m >>= f).run.run w = (.ok y, w')) :
    ∃ a w₁, m.run.run w = (.ok a, w₁) ∧ (f a).run.run w₁ = (.ok y, w') := by
  rcases hr : m.run.run w with ⟨e | a, w₁⟩
  · rw [run_bind_error hr] at h
    cases h
  · rw [run_bind_ok hr] at h
    exact ⟨a, w₁, rfl, h⟩

@[simp] theorem run_ofExcept (x : Except Failure α) (w : World ν) :
    (ofExcept x : Run ν α).run.run w = (x, w) := by
  cases x <;> rfl

theorem run_within (i : Identifier) (m : Run ν α) (w : World ν) :
    (within i m).run.run w =
      ((m.run.run w).1.mapError (Failure.within i), (m.run.run w).2) := by
  change within i m w = _
  unfold within
  rcases m.run.run w with ⟨e | a, w'⟩ <;> rfl

theorem run_ensuring (m : Run ν α) (after : Except Failure α → World ν → World ν) (w : World ν) :
    (ensuring m after).run.run w =
      ((m.run.run w).1, after (m.run.run w).1 (m.run.run w).2) := rfl

/-! ## What a run keeps -/

/-- How a run may end: with one of these values, or one of these failures. -/
def Ends (Q : α → Prop) (R : Failure → Prop) : Except Failure α → Prop
  | .ok a => Q a
  | .error e => R e

/-- From every registry with a property, a run leaves a registry with that property, and ends as
told. -/
def Keeps (I : Registry → Prop) (m : Run ν α) (Q : α → Prop) (R : Failure → Prop) : Prop :=
  ∀ w, I w.registry → I (m.run.run w).2.registry ∧ Ends Q R (m.run.run w).1

variable {I : Registry → Prop} {Q : α → Prop} {R : Failure → Prop}

theorem Ends.mono {Q' : α → Prop} {R' : Failure → Prop} (hQ : ∀ a, Q a → Q' a)
    (hR : ∀ e, R e → R' e) {x : Except Failure α} (h : Ends Q R x) : Ends Q' R' x := by
  cases x with
  | error e => exact hR e h
  | ok a => exact hQ a h

theorem Keeps.mono {m : Run ν α} {Q' : α → Prop} {R' : Failure → Prop} (h : Keeps I m Q R)
    (hQ : ∀ a, Q a → Q' a) (hR : ∀ e, R e → R' e) : Keeps I m Q' R' :=
  fun w hw => ⟨(h w hw).1, (h w hw).2.mono hQ hR⟩

theorem Keeps.pure {a : α} (h : Q a) : Keeps I (Pure.pure a : Run ν α) Q R :=
  fun _ hw => ⟨hw, h⟩

theorem Keeps.throw {e : Failure} (h : R e) : Keeps I (MonadExcept.throw e : Run ν α) Q R :=
  fun _ hw => ⟨hw, h⟩

theorem Keeps.ofExcept {x : Except Failure α} (h : Ends Q R x) :
    Keeps I (Run.ofExcept x : Run ν α) Q R := by
  intro w hw
  rw [run_ofExcept]
  exact ⟨hw, h⟩

theorem Keeps.bind {P : β → Prop} {m : Run ν β} {f : β → Run ν α} (hm : Keeps I m P R)
    (hf : ∀ b, P b → Keeps I (f b) Q R) : Keeps I (m >>= f) Q R := by
  intro w hw
  have hkeep := hm w hw
  rcases h : m.run.run w with ⟨e | b, w'⟩
  · rw [h] at hkeep
    rw [run_bind_error h]
    exact hkeep
  · rw [h] at hkeep
    rw [run_bind_ok h]
    exact hf b hkeep.2 w' hkeep.1

theorem Keeps.note (c : Call ν) : Keeps I (Run.note c) (fun _ => True) R :=
  fun _ hw => ⟨hw, trivial⟩

theorem Keeps.log (logger : Log.Logger) (event : String) (values : Log.Fields) :
    Keeps I (Run.log logger event values : Run ν Unit) (fun _ => True) R :=
  fun _ hw => ⟨hw, trivial⟩

theorem Keeps.within {m : Run ν α} {i : Identifier} (h : Keeps I m Q fun e => R (e.within i)) :
    Keeps I (Run.within i m) Q R := by
  intro w hw
  have hkeep := h w hw
  rw [run_within]
  rcases hr : m.run.run w with ⟨e | a, w'⟩
  · rw [hr] at hkeep
    exact hkeep
  · rw [hr] at hkeep
    exact hkeep

theorem Keeps.ensuring {m : Run ν α} {after : Except Failure α → World ν → World ν}
    (h : Keeps I m Q R) (hafter : ∀ x w, (after x w).registry = w.registry) :
    Keeps I (Run.ensuring m after) Q R := by
  intro w hw
  rw [run_ensuring, hafter]
  exact h w hw

end Run

namespace Coercion

open Run

variable {ν : Type} {d : Document ν} {nested : Target → ν → Run ν Value}
  {policy : StringListPolicy} {I : Registry → Prop} {R : Failure → Prop}

/-! ## Coercion -/

theorem textOf_error {m : Match ν} {e : Failure} (h : textOf d m = .error e) :
    (∃ cause, e = .field (.conversion cause)) ∨
      ∃ n, d.nodeText n = .error e ∧ ∀ q reason, e ≠ .field (.query q reason) := by
  cases m with
  | text s => cases h
  | other v =>
    cases h
    exact .inl ⟨_, rfl⟩
  | node n =>
    simp only [textOf] at h
    split at h
    · cases h
    · cases h
      exact .inl ⟨_, rfl⟩
    · rename_i e' hne he
      cases h
      exact .inr ⟨n, he, fun q reason hq => hne q reason (by rw [hq])⟩

theorem allTexts_error {ms : List (Match ν)} {e : Failure} (h : allTexts d ms = .error e) :
    ∃ m, textOf d m = .error e := by
  induction ms with
  | nil => cases h
  | cons m ms ih =>
    simp only [allTexts, bind, Except.bind] at h
    split at h
    · rename_i e' he
      cases h
      exact ⟨m, he⟩
    · split at h
      · rename_i e' he
        cases h
        exact ih he
      · cases h

theorem someTexts_error {ms : List (Match ν)} {e : Failure} (h : someTexts d ms = .error e) :
    ∃ m, textOf d m = .error e := by
  induction ms with
  | nil => cases h
  | cons m ms ih =>
    simp only [someTexts] at h
    split at h
    · rcases hr : someTexts d ms with e' | texts
      · rw [hr] at h
        cases h
        exact ih hr
      · rw [hr] at h
        cases h
    · exact ih h
    · rename_i e' _ he
      cases h
      exact ⟨m, he⟩

theorem keeps_stringList {f : FieldSpec} {ms : List (Match ν)}
    (htext : ∀ m e, textOf d m = .error e → R e) :
    Keeps I (stringList d f policy ms) (fun _ => True) R := by
  cases policy with
  | error =>
    refine .bind (P := fun _ => True) (.ofExcept ?_) fun _ _ => .pure trivial
    rcases h : allTexts d ms with e | texts
    · obtain ⟨m, hm⟩ := allTexts_error h
      exact htext m e hm
    · trivial
  | drop =>
    refine .bind (P := fun _ => True) (.ofExcept ?_) fun texts _ => ?_
    · rcases h : someTexts d ms with e | texts
      · obtain ⟨m, hm⟩ := someTexts_error h
        exact htext m e hm
      · trivial
    · dsimp only
      split
      · exact .bind (.log _ _ _) fun _ _ => .pure trivial
      · exact .pure trivial

theorem keeps_requireNode {m : Match ν} (hconv : ∀ cause, R (.field (.conversion cause))) :
    Keeps I (Run.ofExcept (requireNode m) : Run ν ν) (fun n => m = .node n) R := by
  refine .ofExcept ?_
  cases m with
  | node n => rfl
  | text s => exact hconv _
  | other v => exact hconv _

theorem keeps_nestedList {t : Target} {ms : List (Match ν)}
    (hconv : ∀ cause, R (.field (.conversion cause)))
    (hnested : ∀ n, .node n ∈ ms → Keeps I (nested t n) (fun _ => True) R) :
    Keeps I (nestedList nested t ms) (fun _ => True) R := by
  induction ms with
  | nil => exact .pure trivial
  | cons m ms ih =>
    refine .bind (keeps_requireNode hconv) fun n hn => ?_
    subst hn
    refine .bind (hnested n List.mem_cons_self) fun v _ => ?_
    exact .bind (ih fun n hn => hnested n (List.mem_cons_of_mem _ hn)) fun _ _ => .pure trivial

/-- Coercion fails for a match that does not convert, for a text that cannot be read, for a match
that is missing, or inside a nested structure. -/
theorem keeps_coerce {f : FieldSpec} {ms : List (Match ν)}
    (hshape : f.shape = none → R (.fault (.shapeless f.identifier)))
    (hconv : ∀ cause, R (.field (.conversion cause)))
    (hread : ∀ n e, d.nodeText n = .error e → (∀ q reason, e ≠ .field (.query q reason)) → R e)
    (hmissing : ∀ shape, f.shape = some shape →
      shape.kind = .scalar ∨ shape.kind = .nestedOne ∧ f.optional = false →
      R (.field (.missing (f.query.getD ""))))
    (hnested : ∀ shape n, f.shape = some shape → shape.kind.nested = true → .node n ∈ ms →
      Keeps I (nested (targetOf shape) n) (fun _ => True) R) :
    Keeps I (coerce d nested policy f ms) (fun _ => True) R := by
  have htext : ∀ m e, textOf d m = .error e → R e := by
    intro m e he
    rcases textOf_error he with ⟨cause, rfl⟩ | ⟨n, hn, hne⟩
    · exact hconv cause
    · exact hread n e hn hne
  have hfirst : ∀ m : Match ν, Keeps I (do
      let s ← Run.ofExcept (textOf d m)
      return .text s : Run ν Value) (fun _ => True) R := by
    intro m
    refine .bind (P := fun _ => True) (.ofExcept ?_) fun _ _ => .pure trivial
    rcases h : textOf d m with e | s
    · exact htext m e h
    · trivial
  unfold coerce
  rcases hs : f.shape with _ | ⟨kind, target⟩
  · exact .throw (hshape hs)
  · cases kind with
    | stringList => exact keeps_stringList htext
    | nestedList =>
      exact .bind (keeps_nestedList hconv fun n hn => hnested _ n hs rfl hn)
        fun _ _ => .pure trivial
    | scalar =>
      cases ms with
      | nil => exact .throw (hmissing _ hs (.inl rfl))
      | cons m ms => exact hfirst m
    | optionalScalar =>
      cases ms with
      | nil => exact .pure trivial
      | cons m ms => exact hfirst m
    | nestedOne =>
      cases ms with
      | nil =>
        dsimp only
        split
        · exact .pure trivial
        · rename_i ho
          exact .throw (hmissing _ hs (.inr ⟨rfl, by simpa using ho⟩))
      | cons m ms =>
        refine .bind (keeps_requireNode hconv) fun n hn => ?_
        subst hn
        exact hnested _ n hs rfl List.mem_cons_self

theorem run_applyTransform {f : FieldSpec} {t : Transform} (ht : f.transform = some t) (v : Value)
    (w : World ν) : (applyTransform f v).run.run w =
      (transformed t ((t.apply v).run.run w.calls).1,
        { w with calls := ((t.apply v).run.run w.calls).2,
                 trace := w.trace ++ [.transform f.identifier v] }) := by
  unfold applyTransform
  rw [ht]
  rfl

theorem keeps_applyTransform {f : FieldSpec} {v : Value}
    (hconv : ∀ cause, R (.field (.conversion cause))) :
    Keeps I (applyTransform f v : Run ν Value) (fun _ => True) R := by
  rcases ht : f.transform with _ | t
  · unfold applyTransform
    rw [ht]
    exact .pure trivial
  · intro w hw
    rw [run_applyTransform ht]
    refine ⟨hw, ?_⟩
    rcases ((t.apply v).run.run w.calls).1 with e | u
    · exact hconv _
    · trivial

end Coercion

namespace Binder

open Run Coercion

variable {ν : Type} {b : Binder ν} {nested : Target → ν → Run ν Value} {I : Registry → Prop}
  {R : Failure → Prop}

/-! ## Binding -/

/-- How the binding of one field can fail, before the failure learns the name of the field. -/
structure Explains (b : Binder ν) (scope : Option ν) (f : FieldSpec)
    (R : Failure → Prop) : Prop where
  shapeless : f.shape = none → R (.fault (.shapeless f.identifier))
  asked : ∀ e, b.document.evaluate (f.query.getD "") scope = .error e → R e
  converted : ∀ cause, R (.field (.conversion cause))
  unread : ∀ n e, b.document.nodeText n = .error e →
    (∀ q reason, e ≠ .field (.query q reason)) → R e
  missing : ∀ shape, f.shape = some shape →
    shape.kind = .scalar ∨ shape.kind = .nestedOne ∧ f.optional = false →
    R (.field (.missing (f.query.getD "")))

theorem keeps_bindField {scope : Option ν} {f : FieldSpec} (h : b.Explains scope f R)
    (hnested : ∀ shape ms n, f.shape = some shape → shape.kind.nested = true →
      b.document.evaluate (f.query.getD "") scope = .ok ms → .node n ∈ ms →
      Keeps I (nested (targetOf shape) n) (fun _ => True) R) :
    Keeps I (b.bindField nested scope f) (fun _ => True) R := by
  refine .bind (.note _) fun _ _ => ?_
  refine .bind (P := fun ms => b.document.evaluate (f.query.getD "") scope = .ok ms)
    (.ofExcept ?_) fun ms hms => ?_
  · rcases he : b.document.evaluate (f.query.getD "") scope with e | ms
    · exact h.asked e he
    · rfl
  · refine .bind (keeps_coerce h.shapeless h.converted h.unread h.missing
      fun shape n hs hk hn => ?_)
      fun _ _ => keeps_applyTransform h.converted
    exact hnested shape ms n hs hk hms hn

/-- A field with a query is bound by its query. -/
theorem bindOne_of_queries {scope : Option ν} {presets : Bound} {f : FieldSpec}
    (hq : f.mode.queries = true) : b.bindOne nested scope presets f = (do
      let v ← Run.within f.identifier (b.bindField nested scope f)
      return some v) := by
  unfold bindOne
  rcases hm : f.mode
  · rfl
  · rfl
  · rw [hm] at hq
    cases hq
  · rw [hm] at hq
    cases hq

theorem keeps_bindOne {scope : Option ν} {presets : Bound} {f : FieldSpec}
    (h : f.mode.queries = true ∨ f.mode = .useDefault ∧ f.factory = none →
      Keeps I (b.bindField nested scope f) (fun _ => True) fun e => R (e.within f.identifier)) :
    Keeps I (b.bindOne nested scope presets f) (fun _ => True) R := by
  have hbind : ∀ h : Keeps I (b.bindField nested scope f) (fun _ => True)
      (fun e => R (e.within f.identifier)), Keeps I (do
        let v ← Run.within f.identifier (b.bindField nested scope f)
        return some v) (fun _ => True) R := fun h => .bind (.within h) fun _ _ => .pure trivial
  unfold bindOne
  rcases hm : f.mode
  · exact hbind (h (.inl (by rw [hm]; rfl)))
  · exact hbind (h (.inl (by rw [hm]; rfl)))
  · rcases hf : f.factory with _ | v
    · exact hbind (h (.inr ⟨hm, hf⟩))
    · exact .bind (.note _) fun _ _ => .pure trivial
  · exact .pure trivial

theorem keeps_bindAll {scope : Option ν} {presets : Bound} {fs : List FieldSpec}
    (h : ∀ f ∈ fs, Keeps I (b.bindOne nested scope presets f) (fun _ => True) R) :
    Keeps I (b.bindAll nested scope presets fs) (fun _ => True) R := by
  induction fs with
  | nil => exact .pure trivial
  | cons f fs ih =>
    refine .bind (h f List.mem_cons_self) fun v _ => ?_
    refine .bind (ih fun g hg => h g (List.mem_cons_of_mem _ hg)) fun rest _ => ?_
    cases v <;> exact .pure trivial

/-! ## Looking schemas up -/

theorem run_announceAll (ss : List Schema) (w : World ν) :
    ∃ log, (announceAll ss : Run ν Unit).run.run w = (.ok (), { w with log := log }) := by
  induction ss generalizing w with
  | nil => exact ⟨w.log, rfl⟩
  | cons s ss ih =>
    obtain ⟨log, hlog⟩ := ih ((announce s : Run ν Unit).run.run w).2
    exact ⟨log, hlog⟩

/-- Looking a model up registers it, and changes nothing else but the log. -/
theorem run_lookup (family : Family) (name : String) (w : World ν) :
    ∃ log, (lookup family (.model name) : Run ν Schema).run.run w =
      ((w.registry.register family name).result.mapError .schema,
        { w with registry := (w.registry.register family name).registry, log := log }) := by
  obtain ⟨log, hlog⟩ := run_announceAll (w.registry.register family name).finished
    { w with registry := (w.registry.register family name).registry }
  refine ⟨log, ?_⟩
  have hkey : (Run.ofFault (Registry.checkKey (.model name)) : Run ν Unit).run.run w =
      (.ok (), w) :=
    rfl
  have hget : (get : Run ν (World ν)).run.run w = (.ok w, w) := rfl
  have hset : ∀ w' : World ν, (set w' : Run ν PUnit).run.run w = (.ok ⟨⟩, w') := fun _ => rfl
  unfold lookup
  rw [run_bind_ok hkey]
  dsimp only
  rw [run_bind_ok hget, run_bind_ok (hset _), run_bind_ok hlog]
  rcases (w.registry.register family name).result with e | s <;> rfl

/-- A model that is looked up without a failure gives its schema. -/
theorem eq_of_run_lookup {family : Family} {name : String} {s s' : Schema} {w w' : World ν}
    (hw : Registry.Faithful family w.registry)
    (hs : Schema.ofTarget family (.model name) = .ok s)
    (h : (lookup family (.model name) : Run ν Schema).run.run w = (.ok s', w')) : s' = s := by
  obtain ⟨log, hlog⟩ := run_lookup family name w
  rw [h] at hlog
  rcases hr : (w.registry.register family name).result with e | t
  · rw [hr] at hlog
    cases hlog
  · have ht := Registry.ofTarget_of_register_ok hw hr
    rw [hr] at hlog
    rw [hs] at ht
    cases hlog
    cases ht
    rfl

theorem keeps_lookup_known {family : Family} {r : Registry} {name : String} {s : Schema}
    (h : r.get? name = some s) :
    Keeps (· = r) (lookup family (.model name) : Run ν Schema) (· = s) R := by
  intro w hw
  obtain ⟨log, hlog⟩ := run_lookup family name w
  rw [hw, Registry.register_of_get? h] at hlog
  rw [hlog]
  exact ⟨rfl, rfl⟩

/-- What is no model has no schema, and looking it up leaves the registry alone. -/
theorem keeps_lookup_other {family : Family} {I : Registry → Prop} {t : Target}
    (ht : ∀ name, t ≠ .model name) :
    Keeps I (lookup family t : Run ν Schema) (fun _ => False) fun _ => True := by
  have hkey : Keeps I (Run.ofFault (Registry.checkKey t) : Run ν Unit) (fun _ => True)
      fun _ => True := by
    rcases Registry.checkKey t with e | u
    · exact .throw trivial
    · exact .pure trivial
  refine .bind hkey fun _ _ => ?_
  cases t with
  | model name => exact absurd rfl (ht name)
  | type a => exact .throw trivial
  | value v => exact .throw trivial

theorem keeps_lookup {family : Family} {I : Registry → Prop}
    (hI : ∀ r name, I r → I (r.register family name).registry) (t : Target) :
    Keeps I (lookup family t : Run ν Schema) (fun _ => True) fun _ => True := by
  by_cases ht : ∃ name, t = .model name
  · obtain ⟨name, rfl⟩ := ht
    intro w hw
    obtain ⟨log, hlog⟩ := run_lookup family name w
    rw [hlog]
    refine ⟨hI _ _ hw, ?_⟩
    rcases (w.registry.register family name).result with e | s <;> trivial
  · exact (keeps_lookup_other fun name h => ht ⟨name, h⟩).mono (fun _ _ => trivial)
      fun _ _ => trivial

/-! ## Whole runs -/

theorem run_logging (values : Log.Fields) (m : Run ν Value) (w : World ν) :
    (logging values m).run.run w =
      ((m.run.run { w with log := (w.log.enter values).2 }).1,
        { (m.run.run { w with log := (w.log.enter values).2 }).2 with
          log := (m.run.run { w with log := (w.log.enter values).2 }).2.log.leave
            (w.log.enter values).1 }) := rfl

theorem keeps_logging {values : Log.Fields} {m : Run ν Value} {Q : Value → Prop}
    (h : Keeps I m Q R) : Keeps I (logging values m) Q R := by
  intro w hw
  rw [run_logging]
  exact h { w with log := (w.log.enter values).2 } hw

theorem registry_report (x : Except Failure Value) (w : World ν) :
    (report x w).registry = w.registry := by
  unfold report
  split <;> rfl

theorem keeps_structureWithin {I : Registry → Prop}
    (hI : ∀ r name, I r → I (r.register b.family name).registry) (depth : Nat) (s : Schema)
    (scope : Option ν) (presets : Bound) :
    Keeps I (b.structureWithin depth s scope presets) (fun _ => True) fun _ => True := by
  induction depth generalizing s scope presets with
  | zero => exact .throw trivial
  | succ depth ih =>
    refine .bind (keeps_bindAll fun f _ => keeps_bindOne fun _ => keeps_bindField
      ⟨fun _ => trivial, fun _ _ => trivial, fun _ => trivial, fun _ _ _ _ => trivial,
        fun _ _ _ => trivial⟩ fun shape _ n _ _ _ _ => ?_) fun values _ => .ofExcept ?_
    · exact .bind (keeps_lookup hI _) fun inner _ => ih inner (some n) []
    · rcases assemble b.family s values with e | v <;> trivial

/-- Builds one instance by a schema that has been looked up. -/
def instantiate (b : Binder ν) (s : Schema) (scope : Option ν) (presets : Bound) : Run ν Value := do
  Run.ofExcept (checkPresets s presets)
  logging [("target", .text s.target)]
    (Run.ensuring (b.structureWithin b.depth s scope presets) report)

theorem materialize_eq (b : Binder ν) (t : Target) (scope : Option ν) (presets : Bound) :
    b.materialize t scope presets =
      lookup b.family t >>= fun s => b.instantiate s scope presets := rfl

/-- A run that gives an instance has bound all fields and put them together. -/
theorem exists_bound_of_materialize {name : String} {s : Schema} {w : World ν} {scope : Option ν}
    {presets : Bound} {v : Value} (hr : Registry.Faithful b.family w.registry)
    (hs : Schema.ofTarget b.family (.model name) = .ok s)
    (h : ((b.materialize (.model name) scope presets).run.run w).1 = .ok v) :
    ∃ nested values w₁ w₂, (b.bindAll nested scope presets s.fields).run.run w₁ = (.ok values, w₂) ∧
      assemble b.family s values = .ok v := by
  obtain ⟨w', hrun⟩ := exists_run_eq h
  obtain ⟨s', w₁, hlookup, hrun⟩ := run_bind_eq_ok (b.materialize_eq _ _ _ ▸ hrun)
  have hs' := eq_of_run_lookup hr hs hlookup
  subst hs'
  obtain ⟨u, w₂, -, hrun⟩ := run_bind_eq_ok hrun
  rw [run_logging, run_ensuring] at hrun
  have hstructure : ((b.structureWithin b.depth s' scope presets).run.run
      { w₂ with log := (w₂.log.enter [("target", .text s'.target)]).2 }).1 = .ok v :=
    congrArg Prod.fst hrun
  obtain ⟨w₃, hinner⟩ := exists_run_eq hstructure
  obtain ⟨values, w₄, hbind, hassemble⟩ := run_bind_eq_ok hinner
  rw [run_ofExcept] at hassemble
  exact ⟨_, values, _, w₄, hbind, congrArg Prod.fst hassemble⟩

/-- A whole run changes the registry only by registering models. -/
theorem keeps_materialize {I : Registry → Prop}
    (hI : ∀ r name, I r → I (r.register b.family name).registry) (t : Target) (scope : Option ν)
    (presets : Bound) :
    Keeps I (b.materialize t scope presets) (fun _ => True) fun _ => True := by
  refine .bind (keeps_lookup hI t) fun s _ => .bind (P := fun _ => True) (.ofExcept ?_)
    fun _ _ => ?_
  · rcases checkPresets s presets with e | u <;> trivial
  · exact keeps_logging (.ensuring (keeps_structureWithin hI _ s scope presets) registry_report)

end Binder

end QueryBinding
