-- Blocks that bind values in the log, one inside another. Each step inside blocks runs with
-- just their values bound, the innermost first, over what was bound outside. Behind a block
-- all is bound as before it, whether the block ends or is left by a failure.
import QueryBinding.Proofs.Quiet

namespace QueryBinding

namespace Log

/-- Values that are given by name: no name is given twice. -/
structure Keywords where
  fields : Fields
  nodup : (fields.map Prod.fst).Nodup

/-- What each of the values bound to a key is, innermost block first: the first one counts. -/
def innermost (blocks : List Keywords) (key : String) : Option Value :=
  blocks.findSome? fun values => values.fields.lookup key

/-- What is bound inside blocks, the innermost first, over what is bound outside of them. -/
def boundBy (base : Fields) (blocks : List Keywords) : Fields :=
  blocks.foldr (fun values bound => Journal.bindAll values.fields bound) base

theorem lookup_bindAll {values : Fields} (h : (values.map Prod.fst).Nodup) (bound : Fields)
    (key : String) :
    (Journal.bindAll values bound).lookup key = (values.lookup key).or (bound.lookup key) := by
  induction values generalizing bound with
  | nil => rfl
  | cons e values ih =>
    obtain ⟨k, v⟩ := e
    obtain ⟨hk, hnodup⟩ := List.nodup_cons.1 h
    rw [Journal.bindAll_cons, ih hnodup, List.lookup_cons]
    by_cases hkey : key = k
    · subst hkey
      have hnone : values.lookup key = none := by
        rw [List.lookup_eq_none_iff]
        intro e hmem
        rw [bne_iff_ne]
        rintro rfl
        exact hk (List.mem_map.2 ⟨e, hmem, rfl⟩)
      rw [hnone, Keyed.lookup_put_self, beq_self_eq_true]
      rfl
    · have hne : (key == k) = false := by simpa using hkey
      rw [Keyed.lookup_put_ne hkey, hne]

/-- Inside blocks a key has the value of the innermost block that binds it, and if there is none,
the value from outside. -/
theorem lookup_boundBy (base : Fields) (blocks : List Keywords) (key : String) :
    (boundBy base blocks).lookup key = (innermost blocks key).or (base.lookup key) := by
  induction blocks with
  | nil => rfl
  | cons values blocks ih =>
    change (Journal.bindAll values.fields (boundBy base blocks)).lookup key = _
    rw [lookup_bindAll values.nodup, ih, innermost, innermost, List.findSome?_cons]
    rcases values.fields.lookup key with _ | v <;> rfl

end Log

open Run Log

variable {ν : Type}

/-! ## Programs -/

/-- The world with these values bound in its log, in place of those that are. -/
def World.bearing (bound : Fields) (w : World ν) : World ν :=
  { w with log := { w.log with bound := bound } }

/-- The world while a failure is handled. -/
def World.facing (e : Failure) (w : World ν) : World ν := { w with log := w.log.handling e }

/-- A run with just these values bound, and behind it those from before. -/
def Run.under (bound : Fields) (m : Run ν Value) : Run ν Value :=
  fun w =>
    let (result, w') := m.run.run (w.bearing bound)
    (result, w'.bearing w.log.bound)

/-- A run that handles a failure, and behind it the failure at hand is the one from before. -/
def Run.facing (e : Failure) (m : Run ν Value) : Run ν Value :=
  fun w =>
    let (result, w') := m.run.run (w.facing e)
    (result, { w' with log := w.log.handled w'.log })

theorem World.bearing_of_bound {w : World ν} {bound : Fields} (h : w.log.bound = bound) :
    w.bearing bound = w := by
  subst h
  rfl

theorem World.facing_bearing (e : Failure) (bound : Fields) (w : World ν) :
    (w.bearing bound).facing e = (w.facing e).bearing bound := rfl

theorem Run.run_facing (e : Failure) (m : Run ν Value) (w : World ν) :
    (Run.facing e m).run.run w = ((m.run.run (w.facing e)).1,
      { (m.run.run (w.facing e)).2 with
        log := w.log.handled (m.run.run (w.facing e)).2.log }) := rfl

/-- What is done with the log in view: single steps, steps that depend on what is bound, blocks
that bind values while something is done, and handlers of failures, which end any number of blocks
at once. -/
inductive Program (ν : Type) where
  | skip
  | log (logger : Logger) (level : Level) (event : String) (values : Fields)
  | ask (next : Fields → Program ν)
  | raise (e : Failure)
  | materialize (b : Binder ν) (t : Target) (scope : Option ν) (presets : Binder.Bound)
  | block (values : Keywords) (body : Program ν)
  | andThen (first second : Program ν)
  | handle (body : Program ν) (handler : Failure → Program ν)

namespace Program

/-- An event is logged. -/
def logged (logger : Logger) (level : Level) (event : String) (values : Fields) : Run ν Value := do
  modify fun w => { w with log := w.log.log logger level event values }
  return .none

/-- The run of a program. It gives what its last step gives. -/
def course : Program ν → Run ν Value
  | skip => return .none
  | log logger level event values => logged logger level event values
  | ask next => do
    let w ← get
    (next w.log.bound).course
  | raise e => throw e
  | materialize b t scope presets => b.materialize t scope presets
  | block values body => Binder.logging values.fields body.course
  | andThen first second => do
    let _ ← first.course
    second.course
  | handle body handler => tryCatch body.course fun e => Run.facing e (handler e).course

/-- The run of a program inside some blocks, the innermost first, when nothing is bound or taken
back on the way. Each step has bound just what the blocks around it bind, and a failure passes
through blocks as if they were not there. -/
def placed (base : Fields) : Program ν → List Keywords → Run ν Value
  | skip, _ => return .none
  | log logger level event values, blocks =>
    Run.under (boundBy base blocks) (logged logger level event values)
  | ask next, blocks => (next (boundBy base blocks)).placed base blocks
  | raise e, _ => throw e
  | materialize b t scope presets, blocks =>
    Run.under (boundBy base blocks) (b.materialize t scope presets)
  | block values body, blocks => body.placed base (values :: blocks)
  | andThen first second, blocks => do
    let _ ← first.placed base blocks
    second.placed base blocks
  | handle body handler, blocks =>
    tryCatch (body.placed base blocks) fun e => Run.facing e ((handler e).placed base blocks)

/-! ## Whole programs -/

/-- Every program leaves what is bound as it found it. -/
theorem bound_course (p : Program ν) (w : World ν) :
    (p.course.run.run w).2.log.bound = w.log.bound := by
  induction p generalizing w with
  | skip => rfl
  | log logger level event values => exact w.log.bound_log logger level event values
  | ask next ih => exact ih w.log.bound w
  | raise e => rfl
  | materialize b t scope presets => exact (b.quiet_materialize t scope presets).bound w
  | block values body ih =>
    exact w.log.bound_leave_enter values.fields (ih { w with log := (w.log.enter values.fields).2 })
  | andThen first second ihFirst ihSecond =>
    have hfirst := ihFirst w
    rcases h : first.course.run.run w with ⟨e | v, w'⟩
    · rw [h] at hfirst
      rwa [course, run_bind_error h]
    · rw [h] at hfirst
      rw [course, run_bind_ok h]
      exact (ihSecond w').trans hfirst
  | handle body handler ih ihHandler =>
    have hbody := ih w
    rcases h : body.course.run.run w with ⟨e | v, w'⟩
    · rw [h] at hbody
      rw [course, run_tryCatch_error h]
      exact (ihHandler e (w'.facing e)).trans hbody
    · rw [h] at hbody
      rwa [course, run_tryCatch_ok h]

/-- A program runs inside blocks as it runs where just their values are bound, whatever else may be
bound there. -/
theorem run_placed (p : Program ν) (base : Fields) (blocks : List Keywords) (w : World ν)
    (bound : Fields) : (p.placed base blocks).run.run (w.bearing bound) =
      ((p.course.run.run (w.bearing (boundBy base blocks))).1,
        (p.course.run.run (w.bearing (boundBy base blocks))).2.bearing bound) := by
  induction p generalizing blocks w with
  | skip => rfl
  | log logger level event values => rfl
  | ask next ih => exact ih (boundBy base blocks) blocks w
  | raise e => rfl
  | materialize b t scope presets => rfl
  | block values body ih => exact ih (values :: blocks) w
  | andThen first second ihFirst ihSecond =>
    have hfirst := ihFirst blocks w
    have hbound := first.bound_course (w.bearing (boundBy base blocks))
    rcases h : first.course.run.run (w.bearing (boundBy base blocks)) with ⟨e | v, w'⟩
    · rw [h] at hfirst
      rw [placed, course, run_bind_error hfirst, run_bind_error h]
    · rw [h] at hfirst hbound
      -- behind its first part, the program has bound what the blocks bind
      have hw' : w'.bearing (boundBy base blocks) = w' := World.bearing_of_bound hbound
      rw [placed, course, run_bind_ok hfirst, run_bind_ok h, ihSecond, hw']
  | handle body handler ih ihHandler =>
    have hbody := ih blocks w
    have hbound := body.bound_course (w.bearing (boundBy base blocks))
    rcases h : body.course.run.run (w.bearing (boundBy base blocks)) with ⟨e | v, w'⟩
    · rw [h] at hbody hbound
      have hw' : (w'.facing e).bearing (boundBy base blocks) = w'.facing e :=
        World.bearing_of_bound hbound
      rw [placed, course, run_tryCatch_error hbody, run_tryCatch_error h, run_facing, run_facing,
        World.facing_bearing, ihHandler, hw']
      rfl
    · rw [h] at hbody
      rw [placed, course, run_tryCatch_ok hbody, run_tryCatch_ok h]

/-- What is bound in the log is a stack. A program runs, and ends, as if each of its steps ran with
just the values of the blocks around it bound, the innermost first, over those from before the
program, so every key has the value of the innermost block that binds it, and failures leave the
blocks as they are. Behind the program, and so behind each block and each materialization in it, all
is bound as before, however it ended. -/
theorem bound_values_are_those_of_the_blocks_around (p : Program ν) (w : World ν) :
    p.course.run.run w = (p.placed w.log.bound []).run.run w ∧
    (p.course.run.run w).2.log.bound = w.log.bound ∧
    ∀ blocks key, (boundBy w.log.bound blocks).lookup key =
      (innermost blocks key).or (w.log.bound.lookup key) := by
  have hbound := p.bound_course w
  refine ⟨?_, hbound, lookup_boundBy w.log.bound⟩
  have hbase : boundBy w.log.bound [] = w.log.bound := rfl
  have hplaced := p.run_placed w.log.bound [] w w.log.bound
  rw [hbase, World.bearing_of_bound rfl, World.bearing_of_bound hbound] at hplaced
  exact hplaced.symm

end Program

end QueryBinding
