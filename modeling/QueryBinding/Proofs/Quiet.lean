-- What runs have to do with the log. A run writes to the log and never looks at it, and it
-- leaves what is bound there as it found it: what it binds itself it takes back, however it ends.
import QueryBinding.Proofs.Events
import QueryBinding.Proofs.Runs

namespace QueryBinding

/-! ## Bound and taken back -/

namespace Log.Journal

variable {key other : String} {values old bound : Fields}

/-- Brings a key back to what was under it before. -/
def restore (old bound : Fields) (key : String) : Fields :=
  match old.lookup key with
  | some v => Keyed.put key v bound
  | none => Keyed.remove key bound

theorem resetAll_tokensFor (values old bound : Fields) :
    resetAll (tokensFor values old) bound = (values.map Prod.fst).foldl (restore old) bound := by
  rw [resetAll, tokensFor, List.foldl_map, List.foldl_map]
  rfl

theorem restore_self (old : Fields) (key : String) : restore old old key = old := by
  unfold restore
  split
  · rename_i v hv
    exact Keyed.put_of_lookup_eq_some hv
  · rename_i hnone
    exact Keyed.remove_of_lookup_eq_none hnone

theorem restore_put_self (v : Value) :
    restore old (Keyed.put key v bound) key = restore old bound key := by
  unfold restore
  split
  · exact Keyed.put_put key v _ bound
  · exact Keyed.remove_put_self key v bound

theorem restore_put_ne (h : other ≠ key)
    (hin : (old.lookup key).isSome → (bound.lookup key).isSome) (v : Value) :
    restore old (Keyed.put other v bound) key = Keyed.put other v (restore old bound key) := by
  unfold restore
  split
  · rename_i hv
    exact Keyed.put_comm h _ v (hin (by rw [hv]; rfl))
  · exact Keyed.remove_put_ne h v bound

theorem isSome_lookup_put (v : Value) (h : (bound.lookup key).isSome) :
    ((Keyed.put other v bound).lookup key).isSome := by
  by_cases hkey : key = other
  · rw [hkey, Keyed.lookup_put_self]
    rfl
  · rwa [Keyed.lookup_put_ne hkey]

theorem bindAll_cons (v : Value) (values bound : Fields) :
    bindAll ((key, v) :: values) bound = bindAll values (Keyed.put key v bound) := rfl

/-- Once a key is brought back, only the other values are still bound. -/
theorem restore_bindAll (hin : (old.lookup key).isSome → (bound.lookup key).isSome) :
    restore old (bindAll values bound) key =
      bindAll (Keyed.remove key values) (restore old bound key) := by
  induction values generalizing bound with
  | nil => rfl
  | cons e values ih =>
    obtain ⟨k, v⟩ := e
    have hput : (old.lookup key).isSome → ((Keyed.put k v bound).lookup key).isSome :=
      fun h => isSome_lookup_put v (hin h)
    rw [bindAll_cons, ih hput, Keyed.remove_cons]
    split
    · rename_i hk
      rw [hk, restore_put_self]
    · rename_i hk
      rw [restore_put_ne hk hin, bindAll_cons]

theorem foldl_restore_bindAll (keys : List String) (values old : Fields) :
    keys.foldl (restore old) (bindAll values old) =
      bindAll (values.filter fun e => !keys.contains e.1) old := by
  induction keys generalizing values with
  | nil => simp
  | cons key keys ih =>
    have hrest : (Keyed.remove key values).filter (fun e => !keys.contains e.1) =
        values.filter fun e => !(key :: keys).contains e.1 := by
      rw [Keyed.remove, List.filter_filter]
      apply List.filter_congr
      intro e _
      rw [List.contains_cons, Bool.not_or, Bool.and_comm]
      rfl
    rw [List.foldl_cons, restore_bindAll id, restore_self, ih, hrest]

/-- What was bound comes back when all that was bound over it is reset. -/
theorem resetAll_bindAll (values bound : Fields) :
    resetAll (tokensFor values bound) (bindAll values bound) = bound := by
  have hnone : (values.filter fun e => !(values.map Prod.fst).contains e.1) = [] := by
    rw [List.filter_eq_nil_iff]
    intro e he
    simp [List.mem_map_of_mem he]
  rw [resetAll_tokensFor, foldl_restore_bindAll, hnone]
  rfl

theorem bound_leave_enter (values : Fields) {s s' : Journal}
    (h : s'.bound = (s.enter values).2.bound) : (s'.leave (s.enter values).1).bound = s.bound := by
  change resetAll (tokensFor values s.bound) s'.bound = s.bound
  rw [h]
  exact resetAll_bindAll values s.bound

theorem bound_log (s : Journal) (l : Logger) (level : Level) (event : String) (values : Fields) :
    (s.log l level event values).bound = s.bound := by
  rw [log_eq]

end Log.Journal

/-! ## Runs -/

namespace Run

variable {ν α β : Type}

/-- A run does not look at the log, and leaves what is bound there. -/
def Quiet (m : Run ν α) : Prop :=
  ∀ (w : World ν) (log : Log.Journal), ∃ log' : Log.Journal, log'.bound = log.bound ∧
    m.run.run { w with log := log } =
      ((m.run.run w).1, { (m.run.run w).2 with log := log' })

theorem Quiet.bound {m : Run ν α} (h : Quiet m) (w : World ν) :
    (m.run.run w).2.log.bound = w.log.bound := by
  obtain ⟨log, hbound, hrun⟩ := h w w.log
  have hw : m.run.run w = ((m.run.run w).1, { (m.run.run w).2 with log := log }) := hrun
  rw [hw]
  exact hbound

theorem Quiet.pure (a : α) : Quiet (Pure.pure a : Run ν α) := fun _ log => ⟨log, rfl, rfl⟩

theorem Quiet.throw (e : Failure) : Quiet (MonadExcept.throw e : Run ν α) :=
  fun _ log => ⟨log, rfl, rfl⟩

theorem Quiet.ofExcept (x : Except Failure α) : Quiet (Run.ofExcept x : Run ν α) := by
  cases x with
  | error e => exact .throw e
  | ok a => exact .pure a

theorem Quiet.bind {m : Run ν β} {f : β → Run ν α} (hm : Quiet m) (hf : ∀ b, Quiet (f b)) :
    Quiet (m >>= f) := by
  intro w log
  obtain ⟨log₁, hbound, hrun⟩ := hm w log
  rcases h : m.run.run w with ⟨e | b, w₁⟩
  · rw [h] at hrun
    rw [run_bind_error hrun, run_bind_error h]
    exact ⟨log₁, hbound, rfl⟩
  · rw [h] at hrun
    rw [run_bind_ok hrun, run_bind_ok h]
    obtain ⟨log₂, hbound', hrun'⟩ := hf b w₁ log₁
    exact ⟨log₂, hbound'.trans hbound, hrun'⟩

theorem run_tryCatch_ok {m : Run ν α} {handler : Failure → Run ν α} {w w' : World ν} {a : α}
    (h : m.run.run w = (.ok a, w')) : (tryCatch m handler).run.run w = (.ok a, w') := by
  rw [ExceptT.run_tryCatch, StateT.run_bind, h]
  rfl

theorem run_tryCatch_error {m : Run ν α} {handler : Failure → Run ν α} {w w' : World ν}
    {e : Failure} (h : m.run.run w = (.error e, w')) :
    (tryCatch m handler).run.run w = (handler e).run.run w' := by
  rw [ExceptT.run_tryCatch, StateT.run_bind, h]
  rfl

theorem Quiet.note (c : Call ν) : Quiet (Run.note c) := fun _ log => ⟨log, rfl, rfl⟩

theorem Quiet.log (logger : Log.Logger) (event : String) (values : Log.Fields) :
    Quiet (Run.log logger event values : Run ν Unit) :=
  fun _ log => ⟨_, log.bound_log logger .debug event values, rfl⟩

theorem Quiet.within {m : Run ν α} (h : Quiet m) (i : Identifier) : Quiet (Run.within i m) := by
  intro w log
  obtain ⟨log', hbound, hrun⟩ := h w log
  rw [run_within, run_within, hrun]
  exact ⟨log', hbound, rfl⟩

theorem Quiet.ensuring {m : Run ν α} {after : Except Failure α → World ν → World ν} (h : Quiet m)
    (hafter : ∀ x w (log : Log.Journal), ∃ log' : Log.Journal, log'.bound = log.bound ∧
      after x { w with log := log } = { after x w with log := log' }) :
    Quiet (Run.ensuring m after) := by
  intro w log
  obtain ⟨log₁, hbound, hrun⟩ := h w log
  obtain ⟨log₂, hbound', hrun'⟩ := hafter (m.run.run w).1 (m.run.run w).2 log₁
  rw [run_ensuring, run_ensuring, hrun]
  dsimp only
  rw [hrun']
  exact ⟨log₂, hbound'.trans hbound, rfl⟩

end Run

namespace Coercion

open Run

variable {ν : Type} {d : Document ν} {nested : Target → ν → Run ν Value}

theorem quiet_stringList (f : FieldSpec) (policy : StringListPolicy) (ms : List (Match ν)) :
    Quiet (stringList d f policy ms) := by
  cases policy with
  | error => exact .bind (.ofExcept _) fun _ => .pure _
  | drop =>
    refine .bind (.ofExcept _) fun texts => ?_
    dsimp only
    split
    · exact .bind (.log _ _ _) fun _ => .pure _
    · exact .pure _

theorem quiet_nestedList (hnested : ∀ t n, Quiet (nested t n)) (t : Target) (ms : List (Match ν)) :
    Quiet (nestedList nested t ms) := by
  induction ms with
  | nil => exact .pure _
  | cons m ms ih =>
    exact .bind (.ofExcept _) fun n => .bind (hnested t n) fun _ => .bind ih fun _ => .pure _

theorem quiet_coerce (hnested : ∀ t n, Quiet (nested t n)) (policy : StringListPolicy)
    (f : FieldSpec) (ms : List (Match ν)) : Quiet (coerce d nested policy f ms) := by
  have hfirst : ∀ m : Match ν, Quiet (do
      let s ← Run.ofExcept (textOf d m)
      return .text s : Run ν Value) := fun m => .bind (.ofExcept _) fun _ => .pure _
  unfold coerce
  rcases f.shape with _ | ⟨kind, target⟩
  · exact .throw _
  · cases kind with
    | stringList => exact quiet_stringList f policy ms
    | nestedList => exact .bind (quiet_nestedList hnested _ ms) fun _ => .pure _
    | scalar =>
      cases ms with
      | nil => exact .throw _
      | cons m ms => exact hfirst m
    | optionalScalar =>
      cases ms with
      | nil => exact .pure _
      | cons m ms => exact hfirst m
    | nestedOne =>
      cases ms with
      | nil =>
        dsimp only
        split
        · exact .pure _
        · exact .throw _
      | cons m ms => exact .bind (.ofExcept _) fun n => hnested _ n

theorem quiet_applyTransform (f : FieldSpec) (v : Value) :
    Quiet (applyTransform f v : Run ν Value) := by
  rcases ht : f.transform with _ | t
  · unfold applyTransform
    rw [ht]
    exact .pure v
  · intro w log
    rw [run_applyTransform ht, run_applyTransform ht]
    exact ⟨log, rfl, rfl⟩

end Coercion

namespace Binder

open Run Coercion

variable {ν : Type} {b : Binder ν} {nested : Target → ν → Run ν Value}

theorem quiet_bindOne (hnested : ∀ t n, Quiet (nested t n)) (scope : Option ν) (presets : Bound)
    (f : FieldSpec) : Quiet (b.bindOne nested scope presets f) := by
  have hfield : Quiet (b.bindField nested scope f) :=
    .bind (.note _) fun _ => .bind (.ofExcept _) fun ms =>
      .bind (quiet_coerce hnested _ f ms) fun v => quiet_applyTransform f v
  have hbind : Quiet (do
      let v ← Run.within f.identifier (b.bindField nested scope f)
      return some v) := .bind (hfield.within f.identifier) fun _ => .pure _
  unfold bindOne
  split
  · exact .pure _
  · exact .bind (.note _) fun _ => .pure _
  · exact hbind

theorem quiet_bindAll (hnested : ∀ t n, Quiet (nested t n)) (scope : Option ν) (presets : Bound)
    (fs : List FieldSpec) : Quiet (b.bindAll nested scope presets fs) := by
  induction fs with
  | nil => exact .pure _
  | cons f fs ih =>
    refine .bind (quiet_bindOne hnested scope presets f) fun v => .bind ih fun rest => ?_
    cases v <;> exact .pure _

theorem quiet_announceAll (ss : List Schema) : Quiet (announceAll ss : Run ν Unit) := by
  induction ss with
  | nil => exact .pure ()
  | cons s ss ih => exact .bind (.log _ _ _) fun _ => ih

/-- Looking a model up tells the log which models are new. -/
theorem run_lookup_announced (family : Family) (name : String) (w : World ν) :
    (lookup family (.model name) : Run ν Schema).run.run w =
      (announceAll (w.registry.register family name).finished >>= fun _ =>
        Run.ofExcept ((w.registry.register family name).result.mapError .schema)).run.run
        { w with registry := (w.registry.register family name).registry } := by
  rcases h : (w.registry.register family name).result with e | s
  · change (announceAll _ >>= fun _ => _).run.run _ = _
    rw [h]
    rfl
  · change (announceAll _ >>= fun _ => _).run.run _ = _
    rw [h]
    rfl

theorem quiet_lookup (family : Family) (t : Target) : Quiet (lookup family t : Run ν Schema) := by
  by_cases ht : ∃ name, t = .model name
  · obtain ⟨name, rfl⟩ := ht
    intro w log
    rw [run_lookup_announced, run_lookup_announced]
    exact Quiet.bind (quiet_announceAll _) (fun _ => .ofExcept _)
      { w with registry := (w.registry.register family name).registry } log
  · unfold lookup
    refine .bind ?_ fun _ => ?_
    · rcases Registry.checkKey t with e | u
      · exact .throw _
      · exact .pure _
    · cases t with
      | model name => exact absurd ⟨name, rfl⟩ ht
      | type a => exact .throw _
      | value v => exact .throw _

theorem quiet_structureWithin (depth : Nat) (s : Schema) (scope : Option ν) (presets : Bound) :
    Quiet (b.structureWithin depth s scope presets) := by
  induction depth generalizing s scope presets with
  | zero => exact .throw _
  | succ depth ih =>
    refine .bind (quiet_bindAll (fun t n => ?_) scope presets s.fields) fun _ => .ofExcept _
    exact .bind (quiet_lookup _ t) fun inner => ih inner (some n) []

theorem report_log (x : Except Failure Value) (w : World ν) (log : Log.Journal) :
    ∃ log' : Log.Journal, log'.bound = log.bound ∧
      report x { w with log := log } = { report x w with log := log' } := by
  unfold report
  split
  · exact ⟨_, log.bound_log .., rfl⟩
  · rename_i path cause
    refine ⟨log.handled ((log.handling (.extraction path cause)).log _ _ _ _), ?_, rfl⟩
    exact (log.handling (.extraction path cause)).bound_log ..
  · exact ⟨log, rfl, rfl⟩

/-- What is bound for a run is bound over what was bound before, and that comes back. -/
theorem quiet_logging {m : Run ν Value} (h : Quiet m) (values : Log.Fields) :
    Quiet (logging values m) := by
  intro w log
  obtain ⟨log₁, -, hrun₁⟩ := h w (w.log.enter values).2
  obtain ⟨log₂, hbound, hrun₂⟩ := h w (log.enter values).2
  rw [run_logging, run_logging, hrun₁]
  dsimp only
  rw [hrun₂]
  exact ⟨_, Log.Journal.bound_leave_enter values hbound, rfl⟩

/-- Materializing never looks at the log, and leaves what is bound there. -/
theorem quiet_materialize (b : Binder ν) (t : Target) (scope : Option ν) (presets : Bound) :
    Quiet (b.materialize t scope presets) := by
  refine .bind (quiet_lookup b.family t) fun s => .bind (.ofExcept _) fun _ => ?_
  exact quiet_logging (.ensuring (quiet_structureWithin _ s scope presets) report_log) _

end Binder

end QueryBinding
