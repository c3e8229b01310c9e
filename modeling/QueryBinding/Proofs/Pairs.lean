-- Two runs side by side. From worlds that are alike in some way, two runs that
-- ask the same of the document end alike and leave worlds that are alike again,
-- unless the first of them comes to the end of its budget for nesting.
import QueryBinding.Proofs.Runs

namespace QueryBinding

namespace Run

variable {ν α β : Type} {A : World ν → World ν → Prop}

/-- The log and the trace are nothing that worlds must have alike. -/
def Blind (A : World ν → World ν → Prop) : Prop :=
  ∀ w w' log log' trace trace', A w w' →
    A { w with log := log, trace := trace } { w' with log := log', trace := trace' }

theorem Blind.left (hA : Blind A) {w w' : World ν} (h : A w w') (log : Log.Journal) :
    A { w with log := log } w' := hA w w' log w'.log w.trace w'.trace h

theorem Blind.right (hA : Blind A) {w w' : World ν} (h : A w w') (log : Log.Journal) :
    A w { w' with log := log } := hA w w' w.log log w.trace w'.trace h

/-- A transform gives the same in worlds that are alike, and leaves them alike. -/
def Carries (A : World ν → World ν → Prop) (t : Transform) : Prop :=
  ∀ w w' v trace trace', A w w' →
    ((t.apply v).run.run w.calls).1 = ((t.apply v).run.run w'.calls).1 ∧
      A { w with calls := ((t.apply v).run.run w.calls).2, trace := trace }
        { w' with calls := ((t.apply v).run.run w'.calls).2, trace := trace' }

/-- From worlds that are alike, the first run ends as the second one does, and the worlds are alike
afterwards, unless the first run nests too deep. -/
def Agrees (A : World ν → World ν → Prop) (m m' : Run ν α) : Prop :=
  ∀ w w', A w w' → (m.run.run w).1 = .error .endless ∨
    (m.run.run w).1 = (m'.run.run w').1 ∧ A (m.run.run w).2 (m'.run.run w').2

/-! ## Rules -/

theorem Agrees.pure (a : α) : Agrees A (Pure.pure a : Run ν α) (Pure.pure a) :=
  fun _ _ h => .inr ⟨rfl, h⟩

theorem Agrees.throw (e : Failure) :
    Agrees A (MonadExcept.throw e : Run ν α) (MonadExcept.throw e) := fun _ _ h => .inr ⟨rfl, h⟩

theorem Agrees.endless (m : Run ν α) : Agrees A (MonadExcept.throw .endless : Run ν α) m :=
  fun _ _ _ => .inl rfl

theorem Agrees.ofExcept (x : Except Failure α) :
    Agrees A (Run.ofExcept x : Run ν α) (Run.ofExcept x) := by
  intro w w' h
  rw [run_ofExcept, run_ofExcept]
  exact .inr ⟨rfl, h⟩

theorem Agrees.bind {m m' : Run ν α} {f f' : α → Run ν β} (hm : Agrees A m m')
    (hf : ∀ a, Agrees A (f a) (f' a)) : Agrees A (m >>= f) (m' >>= f') := by
  intro w w' h
  have hfirst := hm w w' h
  rcases hr : m.run.run w with ⟨e | a, w₁⟩
  · rw [run_bind_error hr]
    rw [hr] at hfirst
    rcases hr' : m'.run.run w' with ⟨e' | a', w₁'⟩
    · rw [run_bind_error hr']
      rw [hr'] at hfirst
      rcases hfirst with hend | ⟨heq, halike⟩
      · cases hend
        exact .inl rfl
      · cases heq
        exact .inr ⟨rfl, halike⟩
    · rw [hr'] at hfirst
      rcases hfirst with hend | ⟨heq, -⟩
      · cases hend
        exact .inl rfl
      · cases heq
  · rw [run_bind_ok hr]
    rw [hr] at hfirst
    rcases hfirst with hend | ⟨heq, halike⟩
    · cases hend
    · rcases hr' : m'.run.run w' with ⟨e' | a', w₁'⟩
      · rw [hr'] at heq
        cases heq
      · rw [hr'] at heq halike
        cases heq
        rw [run_bind_ok hr']
        exact hf a w₁ w₁' halike

/-- What follows a pure step may use what the step has given. -/
theorem Agrees.bind_ofExcept {x : Except Failure α} {f f' : α → Run ν β}
    (hf : ∀ a, x = .ok a → Agrees A (f a) (f' a)) :
    Agrees A (Run.ofExcept x >>= f) (Run.ofExcept x >>= f') := by
  cases x with
  | error e => exact .throw e
  | ok a => exact hf a rfl

theorem Agrees.note (hA : Blind A) (c c' : Call ν) : Agrees A (Run.note c) (Run.note c') :=
  fun w w' h => .inr ⟨rfl, hA w w' _ _ _ _ h⟩

theorem Agrees.log (hA : Blind A) (logger : Log.Logger) (event : String) (values : Log.Fields) :
    Agrees A (Run.log logger event values : Run ν Unit) (Run.log logger event values) :=
  fun w w' h => .inr ⟨rfl, hA w w' _ _ _ _ h⟩

theorem Agrees.within {m m' : Run ν α} (i : Identifier) (h : Agrees A m m') :
    Agrees A (Run.within i m) (Run.within i m') := by
  intro w w' hw
  rw [run_within, run_within]
  rcases h w w' hw with hend | ⟨heq, halike⟩
  · exact .inl (by rw [hend]; rfl)
  · exact .inr ⟨by rw [heq], halike⟩

theorem Agrees.mapM {g g' : α → Run ν β} {as : List α} (h : ∀ a ∈ as, Agrees A (g a) (g' a)) :
    Agrees A (as.mapM g) (as.mapM g') := by
  induction as with
  | nil => exact .pure _
  | cons a as ih =>
    rw [List.mapM_cons, List.mapM_cons]
    refine .bind (h a List.mem_cons_self) fun b => ?_
    exact .bind (ih fun a ha => h a (List.mem_cons_of_mem _ ha)) fun bs => .pure _

/-- Two runs of which each agrees with the other end alike, also where they nest too deep. -/
theorem Agrees.fst_eq {A' : World ν → World ν → Prop} {m m' : Run ν α} (h : Agrees A m m')
    (h' : Agrees A' m' m) {w w' : World ν} (hw : A w w') (hw' : A' w' w) :
    (m.run.run w).1 = (m'.run.run w').1 := by
  rcases h w w' hw with hend | ⟨heq, -⟩
  · rcases h' w' w hw' with hend' | ⟨heq', -⟩
    · rw [hend, hend']
    · exact heq'.symm
  · exact heq

end Run

namespace Coercion

open Run

variable {ν : Type} {A : World ν → World ν → Prop} {d : Document ν}
  {nested nested' : Target → ν → Run ν Value} {policy : StringListPolicy} {f : FieldSpec}

/-! ## Coercion -/

theorem agrees_stringList (hA : Blind A) (ms : List (Match ν)) :
    Agrees A (stringList d f policy ms) (stringList d f policy ms) := by
  cases policy with
  | error => exact .bind (.ofExcept _) fun _ => .pure _
  | drop =>
    refine .bind (.ofExcept _) fun texts => ?_
    dsimp only
    split
    · exact .bind (.log hA _ _ _) fun _ => .pure _
    · exact .pure _

theorem eq_node_of_requireNode {m : Match ν} {n : ν} (h : requireNode m = .ok n) : m = .node n := by
  cases m <;> cases h
  rfl

theorem agrees_nestedList {t : Target} {ms : List (Match ν)}
    (hn : ∀ n, .node n ∈ ms → Agrees A (nested t n) (nested' t n)) :
    Agrees A (nestedList nested t ms) (nestedList nested' t ms) := by
  induction ms with
  | nil => exact .pure _
  | cons m ms ih =>
    refine .bind_ofExcept fun n hm => ?_
    have hnode := eq_node_of_requireNode hm
    subst hnode
    refine .bind (hn n List.mem_cons_self) fun v => ?_
    exact .bind (ih fun n hmem => hn n (List.mem_cons_of_mem _ hmem)) fun _ => .pure _

theorem agrees_coerce (hA : Blind A) {ms : List (Match ν)}
    (hn : ∀ shape n, f.shape = some shape → shape.kind.nested = true → .node n ∈ ms →
      Agrees A (nested (targetOf shape) n) (nested' (targetOf shape) n)) :
    Agrees A (coerce d nested policy f ms) (coerce d nested' policy f ms) := by
  unfold coerce
  rcases hs : f.shape with _ | ⟨kind, target⟩
  · exact .throw _
  · cases kind with
    | stringList => exact agrees_stringList hA ms
    | nestedList =>
      exact .bind (agrees_nestedList fun n hmem => hn _ n hs rfl hmem) fun _ => .pure _
    | scalar =>
      cases ms with
      | nil => exact .throw _
      | cons m ms => exact .bind (.ofExcept _) fun _ => .pure _
    | optionalScalar =>
      cases ms with
      | nil => exact .pure _
      | cons m ms => exact .bind (.ofExcept _) fun _ => .pure _
    | nestedOne =>
      cases ms with
      | nil =>
        dsimp only
        split
        · exact .pure _
        · exact .throw _
      | cons m ms =>
        refine .bind_ofExcept fun n hm => ?_
        have hnode := eq_node_of_requireNode hm
        subst hnode
        exact hn _ n hs rfl List.mem_cons_self

theorem agrees_applyTransform (hc : ∀ t, f.transform = some t → Carries A t) (v : Value) :
    Agrees A (applyTransform f v : Run ν Value) (applyTransform f v) := by
  rcases ht : f.transform with _ | t
  · unfold applyTransform
    rw [ht]
    exact .pure _
  · intro w w' h
    rw [run_applyTransform ht, run_applyTransform ht]
    obtain ⟨hresult, halike⟩ := hc t ht w w' v (w.trace ++ [.transform f.identifier v])
      (w'.trace ++ [.transform f.identifier v]) h
    exact .inr ⟨congrArg (transformed t) hresult, halike⟩

end Coercion

namespace Binder

open Run Coercion

variable {ν : Type} {A : World ν → World ν → Prop} {b : Binder ν}
  {nested nested' : Target → ν → Run ν Value} {scope : Option ν} {presets : Bound}

/-! ## Binding -/

theorem agrees_bindField (hA : Blind A) {f : FieldSpec}
    (hc : ∀ t, f.transform = some t → Carries A t)
    (hn : ∀ shape ms n, f.shape = some shape → shape.kind.nested = true →
      b.document.evaluate (f.query.getD "") scope = .ok ms → .node n ∈ ms →
      Agrees A (nested (targetOf shape) n) (nested' (targetOf shape) n)) :
    Agrees A (b.bindField nested scope f) (b.bindField nested' scope f) := by
  refine .bind (.note hA _ _) fun _ => .bind_ofExcept fun ms hms => ?_
  refine .bind (agrees_coerce hA fun shape n hs hk hmem => hn shape ms n hs hk hms hmem) fun v => ?_
  exact agrees_applyTransform hc v

theorem agrees_bindOne (hA : Blind A) {f : FieldSpec}
    (h : Agrees A (b.bindField nested scope f) (b.bindField nested' scope f)) :
    Agrees A (b.bindOne nested scope presets f) (b.bindOne nested' scope presets f) := by
  have hbind : Agrees A (do
      let v ← Run.within f.identifier (b.bindField nested scope f)
      return some v) (do
      let v ← Run.within f.identifier (b.bindField nested' scope f)
      return some v) := .bind (.within _ h) fun _ => .pure _
  unfold bindOne
  rcases f.mode with _ | _ | _ | _
  · exact hbind
  · exact hbind
  · rcases f.factory with _ | v
    · exact hbind
    · exact .bind (.note hA _ _) fun _ => .pure _
  · exact .pure _

theorem agrees_bindAll {fs : List FieldSpec}
    (h : ∀ f ∈ fs, Agrees A (b.bindOne nested scope presets f)
      (b.bindOne nested' scope presets f)) :
    Agrees A (b.bindAll nested scope presets fs) (b.bindAll nested' scope presets fs) := by
  induction fs with
  | nil => exact .pure _
  | cons f fs ih =>
    refine .bind (h f List.mem_cons_self) fun v => ?_
    refine .bind (ih fun g hg => h g (List.mem_cons_of_mem _ hg)) fun rest => ?_
    cases v <;> exact .pure _

end Binder

end QueryBinding
