-- What is registered already changes no outcome. As long as no schema was refused,
-- a registry is closed, so a lookup gives what it gives in an empty registry, and
-- the lookups inside a run find everything that they ask for.
import QueryBinding.Proofs.Nesting
import QueryBinding.Proofs.Preorder

namespace QueryBinding

/-! ## Lookups in two registries -/

namespace Registry

variable {family : Family} {r r' : Registry}

/-- Closed registries of one family answer alike. -/
theorem register_result_eq (h : Coherent family (fun _ => False) r)
    (h' : Coherent family (fun _ => False) r') (name : String) :
    (register family r name).result = (register family r' name).result := by
  have herror : ∀ e, (register family r name).result = .error e ↔
      (register family r' name).result = .error e := by
    intro e
    rw [register_error_iff h.faithful h.closed, register_error_iff h'.faithful h'.closed]
  rcases hr : (register family r name).result with e | s
  · exact ((herror e).1 hr).symm
  · rcases hr' : (register family r' name).result with e | s'
    · rw [(herror e).2 hr'] at hr
      cases hr
    · have hs := ofTarget_of_register_ok h.faithful hr
      rw [ofTarget_of_register_ok h'.faithful hr'] at hs
      cases hs
      rfl

/-- After a registration, what the model leads to is found without registering anything. -/
theorem register_reached (h : Coherent family (fun _ => False) r) {name inner : String} {s : Schema}
    (hs : (register family r name).result = .ok s) (hi : family.Reaches name inner) :
    ∃ t, register family (register family r name).registry inner =
      ⟨.ok t, (register family r name).registry, []⟩ := by
  obtain ⟨-, hsettled⟩ := h.settled_register hs
  obtain ⟨t, ht⟩ := hsettled.reached inner hi
  exact ⟨t, register_of_get? ht⟩

end Registry

namespace Binder

open Run

variable {ν : Type} {family : Family}

/-- What is no model is refused in every world alike, and the world stays as it is. -/
theorem exists_run_lookup_other (family : Family) {t : Target} (ht : ∀ name, t ≠ .model name) :
    ∃ e : Failure, ∀ {ν : Type} (w : World ν),
      (lookup family t : Run ν Schema).run.run w = (.error e, w) := by
  rcases hkey : Registry.checkKey t with fault | u
  · refine ⟨.fault fault, fun w => ?_⟩
    unfold lookup
    rw [hkey]
    rfl
  · cases t with
    | model name => exact absurd rfl (ht name)
    | type a =>
      refine ⟨.schema ⟨a.shortName, .notModel, none⟩, fun w => ?_⟩
      rfl
    | value v =>
      refine ⟨.schema ⟨v.display, .notModel, none⟩, fun w => ?_⟩
      unfold lookup
      rw [hkey]
      rfl

/-- A lookup leaves the registry that any other lookup of the same target would leave there. -/
theorem registry_lookup {ν' : Type} (t : Target) {w : World ν} {w' : World ν'}
    (h : w.registry = w'.registry) : ((lookup family t : Run ν Schema).run.run w).2.registry =
      ((lookup family t : Run ν' Schema).run.run w').2.registry := by
  by_cases ht : ∃ name, t = .model name
  · obtain ⟨name, rfl⟩ := ht
    obtain ⟨log, hlog⟩ := run_lookup family name w
    obtain ⟨log', hlog'⟩ := run_lookup family name w'
    rw [hlog, hlog', h]
  · obtain ⟨e, he⟩ := exists_run_lookup_other family fun name h => ht ⟨name, h⟩
    rw [he, he, h]

theorem fst_lookup_eq {w w' : World ν} (h : Registry.Coherent family (fun _ => False) w.registry)
    (h' : Registry.Coherent family (fun _ => False) w'.registry) (t : Target) :
    ((lookup family t : Run ν Schema).run.run w).1 =
      ((lookup family t : Run ν Schema).run.run w').1 := by
  by_cases ht : ∃ name, t = .model name
  · obtain ⟨name, rfl⟩ := ht
    obtain ⟨log, hlog⟩ := run_lookup family name w
    obtain ⟨log', hlog'⟩ := run_lookup family name w'
    rw [hlog, hlog', Registry.register_result_eq h h']
  · obtain ⟨e, he⟩ := exists_run_lookup_other family fun name h => ht ⟨name, h⟩
    rw [he, he]

/-! ## Runs in two worlds -/

theorem Alike.symm {w w' : World ν} (h : Alike family w w') : Alike family w' w :=
  ⟨h.right, h.left, h.calls.imp_right Eq.symm⟩

/-- A whole run ends alike in two worlds whose registries are closed. -/
theorem fst_materialize_eq (b : Binder ν) {w w' : World ν}
    (h : Registry.Coherent b.family (fun _ => False) w.registry)
    (h' : Registry.Coherent b.family (fun _ => False) w'.registry)
    (hcalls : b.family.Steady ∨ w.calls = w'.calls) (t : Target) (scope : Option ν)
    (presets : Bound) : ((b.materialize t scope presets).run.run w).1 =
      ((b.materialize t scope presets).run.run w').1 := by
  have hfirst := fst_lookup_eq h h' t
  rcases hl : (lookup b.family t : Run ν Schema).run.run w with ⟨e | s, w₁⟩
  · rw [hl] at hfirst
    obtain ⟨w₁', hl'⟩ := exists_run_eq hfirst.symm
    rw [materialize_eq, run_bind_error hl, run_bind_error hl']
  · have hmodel : ∃ name, t = .model name := by
      by_contra hnone
      obtain ⟨e, he⟩ := exists_run_lookup_other b.family fun name h => hnone ⟨name, h⟩
      rw [he] at hl
      cases hl
    obtain ⟨name, rfl⟩ := hmodel
    have hd : ¬ b.family.Doomed name := by
      obtain ⟨log, hlog⟩ := run_lookup b.family name w
      rw [hl] at hlog
      rcases hr : (w.registry.register b.family name).result with e | s'
      · rw [hr] at hlog
        cases hlog
      · exact (h.settled_register hr).2.not_doomed
    have hagrees := agrees_materialize b hd scope presets
    have halike : Alike b.family w w' := ⟨h.faithful, h'.faithful, hcalls⟩
    exact hagrees.fst_eq hagrees halike halike.symm

/-- A whole run leaves the registry that looking its target up leaves. -/
theorem registry_materialize (b : Binder ν) {w : World ν}
    (h : Registry.Coherent b.family (fun _ => False) w.registry) (t : Target) (scope : Option ν)
    (presets : Bound) : ((b.materialize t scope presets).run.run w).2.registry =
      ((lookup b.family t : Run ν Schema).run.run w).2.registry := by
  have hends := Session.coherent_lookup h t
  rcases hl : (lookup b.family t : Run ν Schema).run.run w with ⟨e | s, w₁⟩
  · rw [materialize_eq, run_bind_error hl]
  · rw [hl] at hends
    obtain ⟨-, name, hs, hsettled⟩ := hends
    rw [materialize_eq, run_bind_ok hl]
    exact (keeps_instantiate_settled hsettled hs scope presets w₁ rfl).1

end Binder

namespace Session

variable {ν : Type} {s fresh : Session} {family : Family}

/-! ## Calls in two sessions -/

/-- In two sessions with closed registries of one family, materializing ends alike. -/
theorem fst_materialize_eq (hf : s.family = family) (hf' : fresh.family = family)
    (h : Registry.Coherent family (fun _ => False) s.registry)
    (h' : Registry.Coherent family (fun _ => False) fresh.registry)
    (hcalls : family.Steady ∨ s.calls = fresh.calls) (document : Document ν)
    (policy : StringListPolicy) (t : Target) (scope : Option ν) (presets : Binder.Bound) :
    (s.materialize document policy t scope presets).1 =
      (fresh.materialize document policy t scope presets).1 := by
  rw [(s.materialize_eq document policy t scope presets).1,
    (fresh.materialize_eq document policy t scope presets).1, hf, hf']
  exact Binder.fst_materialize_eq ⟨family, document, policy⟩ h h' hcalls t scope presets

/-- Materializing a target leaves the registry that registering it leaves. -/
theorem registry_materialize_eq (hf : s.family = family)
    (h : Registry.Coherent family (fun _ => False) s.registry) (document : Document ν)
    (policy : StringListPolicy) (t : Target) (scope : Option ν) (presets : Binder.Bound) :
    (s.materialize document policy t scope presets).2.registry = (s.register t).2.registry := by
  rw [(s.materialize_eq document policy t scope presets).2.1, (s.register_eq t).2.1, hf]
  have hworld : Registry.Coherent family (fun _ => False) (s.world : World ν).registry := h
  rw [Binder.registry_materialize ⟨family, document, policy⟩ hworld t scope presets]
  exact Binder.registry_lookup t rfl

/-- Once a model is registered, all that it leads to is found without registering anything. -/
theorem register_reached (hf : s.family = family)
    (h : Registry.Coherent family (fun _ => False) s.registry) {name : String}
    (hok : failure? (s.register (.model name)).1 = none) {inner : String}
    (hi : family.Reaches name inner) :
    ∃ t, Registry.register family (s.register (.model name)).2.registry inner =
      ⟨.ok t, (s.register (.model name)).2.registry, []⟩ := by
  obtain ⟨log, hlog⟩ := Binder.run_lookup family name (s.world : World Unit)
  rw [(s.register_eq (.model name)).1, hf, hlog] at hok
  rw [(s.register_eq (.model name)).2.1, hf, hlog]
  rcases hr : ((s.world : World Unit).registry.register family name).result with e | schema
  · rw [hr] at hok
    cases hok
  · exact Registry.register_reached h hr hi

/-! ## The law of cached schemas -/

/-- After a history in which no schema was refused, materializing ends as it does in a session with
an empty registry, provided that transforms keep no state or were called as often there. It leaves
the registry that registering the target leaves, and what the target leads to is found there by the
lookups inside the run, which so add, remove and change nothing. -/
theorem a_cached_schema_changes_no_outcome (family : Family) (log : Log.Journal) (acts : List Act)
    (hacts : ∀ e ∈ ((start family log).play acts).1, ∀ f, e ≠ .schema f) {fresh : Session}
    (hfamily : fresh.family = family) (hfresh : fresh.registry = .empty)
    (hcalls : family.Steady ∨ ((start family log).play acts).2.calls = fresh.calls) {ν : Type}
    (document : Document ν) (policy : StringListPolicy) (t : Target) (scope : Option ν)
    (presets : Binder.Bound) :
    let played := ((start family log).play acts).2
    let registered := (played.register t).2.registry
    (played.materialize document policy t scope presets).1 =
        (fresh.materialize document policy t scope presets).1 ∧
      (played.materialize document policy t scope presets).2.registry = registered ∧
      ∀ name, t = .model name → failure? (played.register t).1 = none →
        ∀ inner, family.Reaches name inner →
          ∃ s, Registry.register family registered inner = ⟨.ok s, registered, []⟩ := by
  have hempty := Registry.coherent_empty family (fun _ => False)
  have hplayed := coherent_play_of_accepted (s := start family log) rfl hempty acts hacts
  have hsame : ((start family log).play acts).2.family = family := family_play _ acts
  rw [← hfresh] at hempty
  intro played registered
  refine ⟨?_, ?_, ?_⟩
  · exact fst_materialize_eq hsame hfamily hplayed hempty hcalls document policy t scope presets
  · exact registry_materialize_eq hsame hplayed document policy t scope presets
  · rintro name rfl hok inner hi
    exact register_reached hsame hplayed hok hi

open Binder in
/-- A post is registered alone, a page is materialized, all is forgotten, and the page is
registered. -/
def reading : List Act :=
  [.register (.model "Post"), .materialize closed .error (.model "Page") none [], .clear,
    .register (.model "Page")]

open Binder in
/-- A page that was read and registered before fails as one that is read for the first time. -/
theorem a_page_read_before_fails_as_at_first :
    let fresh := start pages (.initial .standard)
    (∀ e ∈ (fresh.play reading).1, ∀ f, e ≠ .schema f) ∧ pages.Steady ∧
      ((fresh.play reading).2.materialize closed .error (.model "Page") none []).1 =
        .error (.extraction [.name "posts", .name "title"] (.query (some "title") "closed")) := by
  have hplay : ((start pages (.initial .standard)).play reading).1 =
      [.extraction [.name "posts", .name "title"] (.query (some "title") "closed")] := by cbv
  have haccepted : ∀ e ∈ ((start pages (.initial .standard)).play reading).1,
      ∀ f, e ≠ .schema f := by
    rw [hplay]
    simp
  have hfresh :
      ((start pages (.initial .standard)).materialize closed .error (.model "Page") none []).1 =
        .error (.extraction [.name "posts", .name "title"] (.query (some "title") "closed")) := by
    cbv
  refine ⟨haccepted, pages_steady, ?_⟩
  rw [← hfresh]
  exact (a_cached_schema_changes_no_outcome pages (.initial .standard) reading haccepted rfl rfl
    (.inl pages_steady) closed .error (.model "Page") none []).1

end Session

end QueryBinding
