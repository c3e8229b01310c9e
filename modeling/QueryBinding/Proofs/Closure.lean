-- What a registry holds after any history of calls. Every schema is that of its
-- model, and what it nests is registered too, unless a model leads to a refused
-- one: when a registration fails, only the entries of the models that are open
-- are taken back, and not those of the models that were finished inside.
import QueryBinding.Proofs.Failures
import QueryBinding.Session

namespace QueryBinding

/-! ## Closed registries -/

namespace Registry

variable {family : Family} {excused : String → Prop} {r : Registry}

/-- Every target of a registered schema is registered. -/
def Closed (r : Registry) : Prop :=
  ∀ name s, r.get? name = some s → ∀ f ∈ s.fields, ∀ t, f.target? = some t → r.holds t = true

/-- What holds between two calls: schemas belong to their models, and nothing is pending. -/
structure Coherent (family : Family) (excused : String → Prop) (r : Registry) : Prop where
  faithful : Faithful family r
  covers : Covers excused (fun _ => False) r

theorem coherent_empty (family : Family) (excused : String → Prop) :
    Coherent family excused empty :=
  ⟨faithful_empty family, fun _ _ h => by cases h⟩

/-- A registration keeps a registry coherent, when it fails up to doomed models. -/
theorem Coherent.register (h : Coherent family excused r) (name : String)
    (he : ∀ e, (register family r name).result = .error e → ∀ n, family.Doomed n → excused n) :
    Coherent family excused (register family r name).registry := by
  refine ⟨faithful_register h.faithful name,
    (registers_register family r name).covers (fun e hmap => ?_) _ h.covers⟩
  rcases hr : (Registry.register family r name).result with e' | s
  · exact he e' hr
  · rw [hr] at hmap
    cases hmap

/-- A model that registers where nothing is pending is settled from then on. -/
theorem Coherent.settled_register (h : Coherent family (fun _ => False) r) {name : String}
    {s : Schema} (hs : (Registry.register family r name).result = .ok s) :
    Coherent family (fun _ => False) (Registry.register family r name).registry ∧
      Settled family (Registry.register family r name).registry name := by
  have hcoherent := h.register name fun e he => by rw [hs] at he; cases he
  exact ⟨hcoherent, settled_of_covers hcoherent.faithful hcoherent.covers
    (get?_of_register_ok h.faithful hs) fun _ _ => id⟩

theorem doomed_of_reaches {name inner : String} (h : family.Reaches name inner)
    (hd : family.Doomed inner) : family.Doomed name := by
  obtain ⟨c, hc, hr⟩ := hd
  exact ⟨c, h.trans hc, hr⟩

theorem Coherent.settled (h : Coherent family family.Doomed r) {name : String}
    (hc : r.contains name = true) (hd : ¬ family.Doomed name) : Settled family r name := by
  obtain ⟨s, hs⟩ := contains_iff.1 hc
  exact settled_of_covers h.faithful h.covers hs fun _ hi hx => hd (doomed_of_reaches hi hx)

/-- In a closed registry everything that a registered model reaches is registered. -/
theorem Closed.contains_of_reaches (h : r.Closed) (hr : Faithful family r) {name inner : String}
    (hc : r.contains name = true) (hi : family.Reaches name inner) : r.contains inner = true := by
  induction hi with
  | refl => exact hc
  | tail _ hn ih =>
    obtain ⟨s, hs⟩ := contains_iff.1 ih
    obtain ⟨t, ht, hmem⟩ := hn
    rw [hr _ s hs] at ht
    cases ht
    obtain ⟨f, hf, htarget⟩ := mem_nested.1 hmem
    exact h _ s hs f hf _ htarget

/-- A target of a registered schema is registered or excused. -/
theorem Coherent.holds_or_excused (h : Coherent family excused r) {name : String} {s : Schema}
    (hs : r.get? name = some s) {f : FieldSpec} (hf : f ∈ s.fields) {t : Target}
    (ht : f.target? = some t) :
    r.holds t = true ∨ ∃ inner, family.Nests name inner ∧ excused inner := by
  have hof := h.faithful name s hs
  obtain ⟨-, inner, -, -, -, rfl⟩ := (Schema.fits_of_mem_fields hof hf).target_model ht
  have hmem : inner ∈ nested s := mem_nested.2 ⟨f, hf, ht⟩
  exact (h.covers name s hs id inner hmem).imp_right fun hx => ⟨inner, ⟨s, hof, hmem⟩, hx⟩

theorem Coherent.closed (h : Coherent family (fun _ => False) r) : r.Closed :=
  fun _ _ hs _ hf _ ht => (h.holds_or_excused hs hf ht).elim id fun ⟨_, _, hx⟩ => hx.elim

/-- A coherent registry is closed just when no doomed model is registered. -/
theorem Coherent.closed_iff (h : Coherent family family.Doomed r) :
    r.Closed ↔ ∀ name, r.contains name = true → ¬ family.Doomed name := by
  constructor
  · rintro hclosed name hc ⟨inner, hi, e, he⟩
    obtain ⟨s, hs⟩ := contains_iff.1 (hclosed.contains_of_reaches h.faithful hc hi)
    rw [h.faithful inner s hs] at he
    cases he
  · intro hsound name s hs f hf t ht
    rcases h.holds_or_excused hs hf ht with hholds | ⟨inner, hn, hd⟩
    · exact hholds
    · exact absurd (.of_nests hn hd) (hsound name (contains_iff.2 ⟨s, hs⟩))

end Registry

/-! ## Histories -/

namespace Session

/-- One call: registering a target or asking for its schema, which is the same, forgetting all
schemas, or materializing. -/
inductive Act : Type 1
  | register (t : Target)
  | clear
  | materialize {ν : Type} (document : Document ν) (policy : StringListPolicy) (t : Target)
      (scope : Option ν) (presets : Binder.Bound)

def failure? {α : Type} : Except Failure α → Option Failure
  | .ok _ => none
  | .error e => some e

/-- One call, with the failure that it ends in. -/
def perform (s : Session) : Act → Option Failure × Session
  | .register t => (failure? (s.register t).1, (s.register t).2)
  | .clear => (none, s.clear)
  | .materialize document policy t scope presets =>
    (failure? (s.materialize document policy t scope presets).1,
      (s.materialize document policy t scope presets).2)

/-- Calls one after the other, with all failures. -/
def play (s : Session) : List Act → List Failure × Session
  | [] => ([], s)
  | a :: acts =>
    ((s.perform a).1.toList ++ ((s.perform a).2.play acts).1, ((s.perform a).2.play acts).2)

def world {ν : Type} (s : Session) : World ν := ⟨s.registry, s.calls, s.log, []⟩

theorem lift_eq {ν α : Type} (action : Run ν α) (s : Session) :
    lift action s = ((action.run.run s.world).1,
      settle { s with
        registry := (action.run.run s.world).2.registry
        calls := (action.run.run s.world).2.calls
        log := (action.run.run s.world).2.log }) := rfl

/-- A registering call is a lookup. -/
theorem register_eq (s : Session) (t : Target) :
    failure? (s.register t).1 =
        failure? ((Binder.lookup s.family t : Run Unit Schema).run.run s.world).1 ∧
      (s.register t).2.registry =
        ((Binder.lookup s.family t : Run Unit Schema).run.run s.world).2.registry ∧
      (s.register t).2.family = s.family := by
  unfold register
  rw [lift_eq]
  rcases ((Binder.lookup s.family t : Run Unit Schema).run.run s.world).1 with e | schema
  · exact ⟨rfl, rfl, rfl⟩
  · exact ⟨rfl, rfl, rfl⟩

theorem materialize_eq {ν : Type} (s : Session) (document : Document ν) (policy : StringListPolicy)
    (t : Target) (scope : Option ν) (presets : Binder.Bound) :
    (s.materialize document policy t scope presets).1 =
        ((Binder.materialize ⟨s.family, document, policy⟩ t scope presets).run.run s.world).1 ∧
      (s.materialize document policy t scope presets).2.registry =
        ((Binder.materialize ⟨s.family, document, policy⟩ t scope presets).run.run
          s.world).2.registry ∧
      (s.materialize document policy t scope presets).2.family = s.family := by
  unfold materialize
  rw [lift_eq]
  rcases ((Binder.materialize ⟨s.family, document, policy⟩ t scope presets).run.run s.world).1
    with e | v
  · exact ⟨rfl, rfl, rfl⟩
  · exact ⟨rfl, rfl, rfl⟩

theorem family_perform (s : Session) (a : Act) : (s.perform a).2.family = s.family := by
  cases a with
  | register t => exact (s.register_eq t).2.2
  | clear => rfl
  | materialize document policy t scope presets =>
    exact (s.materialize_eq document policy t scope presets).2.2

theorem family_play (s : Session) (acts : List Act) : (s.play acts).2.family = s.family := by
  induction acts generalizing s with
  | nil => rfl
  | cons a acts ih => exact (ih _).trans (s.family_perform a)

open Registry in
/-- A call keeps the registry coherent, up to doomed models. -/
theorem coherent_perform {s : Session} {family : Family} (hf : s.family = family)
    (h : Coherent family family.Doomed s.registry) (a : Act) :
    Coherent family family.Doomed (s.perform a).2.registry := by
  subst hf
  have hI : ∀ r name, Coherent s.family s.family.Doomed r →
      Coherent s.family s.family.Doomed (r.register s.family name).registry :=
    fun r name hr => hr.register name fun _ _ _ hd => hd
  cases a with
  | register t =>
    rw [perform, (s.register_eq t).2.1]
    exact (Binder.keeps_lookup hI t s.world h).1
  | clear => exact coherent_empty _ _
  | materialize document policy t scope presets =>
    rw [perform, (s.materialize_eq document policy t scope presets).2.1]
    exact (Binder.keeps_materialize hI t scope presets s.world h).1

theorem coherent_play {s : Session} {family : Family} (hf : s.family = family)
    (h : Registry.Coherent family family.Doomed s.registry) (acts : List Act) :
    Registry.Coherent family family.Doomed (s.play acts).2.registry := by
  induction acts generalizing s with
  | nil => exact h
  | cons a acts ih => exact ih ((s.family_perform a).trans hf) (coherent_perform hf h a)

/-! ## Calls that refuse no schema -/

/-- If nothing was pending before a lookup, nothing is pending after it and its model is settled,
unless a schema was refused. -/
theorem coherent_lookup {ν : Type} {family : Family} {w : World ν}
    (h : Registry.Coherent family (fun _ => False) w.registry) (t : Target) :
    match (Binder.lookup family t : Run ν Schema).run.run w with
    | (.ok schema, w') => Registry.Coherent family (fun _ => False) w'.registry ∧
        ∃ name, Schema.ofTarget family (.model name) = .ok schema ∧
          Registry.Settled family w'.registry name
    | (.error e, w') => (∃ f, e = .schema f) ∨
        Registry.Coherent family (fun _ => False) w'.registry := by
  by_cases ht : ∃ name, t = .model name
  · obtain ⟨name, rfl⟩ := ht
    obtain ⟨log, hlog⟩ := Binder.run_lookup family name w
    rw [hlog]
    rcases hr : (w.registry.register family name).result with e | s
    · exact .inl ⟨e, rfl⟩
    · obtain ⟨hcoherent, hsettled⟩ := h.settled_register hr
      exact ⟨hcoherent, name, Registry.ofTarget_of_register_ok h.faithful hr, hsettled⟩
  · have hkeep : Run.Keeps (Registry.Coherent family fun _ => False)
        (Binder.lookup family t : Run ν Schema) (fun _ => False) fun _ => True :=
      Binder.keeps_lookup_other fun name h => ht ⟨name, h⟩
    have hends := hkeep w h
    rcases hrun : (Binder.lookup family t : Run ν Schema).run.run w with ⟨e | schema, w'⟩
    · rw [hrun] at hends
      exact .inr hends.1
    · rw [hrun] at hends
      exact hends.2.elim

theorem coherent_perform_of_accepted {s : Session} {family : Family} (hf : s.family = family)
    (h : Registry.Coherent family (fun _ => False) s.registry) (a : Act)
    (ha : ∀ f, (s.perform a).1 ≠ some (.schema f)) :
    Registry.Coherent family (fun _ => False) (s.perform a).2.registry := by
  subst hf
  cases a with
  | register t =>
    rw [perform, (s.register_eq t).2.1]
    rw [perform, (s.register_eq t).1] at ha
    have hlookup := coherent_lookup (w := (s.world : World Unit)) h t
    rcases hrun : (Binder.lookup s.family t : Run Unit Schema).run.run s.world with ⟨e | schema, w'⟩
    · rw [hrun] at hlookup ha
      rcases hlookup with ⟨f, rfl⟩ | hcoherent
      · exact absurd rfl (ha f)
      · exact hcoherent
    · rw [hrun] at hlookup
      exact hlookup.1
  | clear => exact Registry.coherent_empty _ _
  | @materialize ν document policy t scope presets =>
    rw [perform, (s.materialize_eq document policy t scope presets).2.1]
    rw [perform, (s.materialize_eq document policy t scope presets).1] at ha
    rw [Binder.materialize_eq] at ha ⊢
    have hlookup := coherent_lookup (w := (s.world : World ν)) h t
    rcases hrun : (Binder.lookup s.family t : Run ν Schema).run.run s.world with ⟨e | schema, w'⟩
    · rw [hrun] at hlookup
      rw [Run.run_bind_error hrun] at ha ⊢
      rcases hlookup with ⟨f, rfl⟩ | hcoherent
      · exact absurd rfl (ha f)
      · exact hcoherent
    · rw [hrun] at hlookup
      obtain ⟨hcoherent, name, hof, hsettled⟩ := hlookup
      rw [Run.run_bind_ok hrun]
      -- all that is met from here on is registered, so no later lookup can fail
      have hkeep := (Binder.keeps_instantiate_settled (b := ⟨s.family, document, policy⟩) hsettled
        hof scope presets w' rfl).1
      rw [hkeep]
      exact hcoherent

theorem coherent_play_of_accepted {s : Session} {family : Family} (hf : s.family = family)
    (h : Registry.Coherent family (fun _ => False) s.registry) (acts : List Act)
    (ha : ∀ e ∈ (s.play acts).1, ∀ f, e ≠ .schema f) :
    Registry.Coherent family (fun _ => False) (s.play acts).2.registry := by
  induction acts generalizing s with
  | nil => exact h
  | cons a acts ih =>
    refine ih ((s.family_perform a).trans hf) (coherent_perform_of_accepted hf h a
      fun f hfail => ?_)
      fun e he => ha e (List.mem_append_right _ he)
    exact ha (.schema f) (List.mem_append_left _
      (by rw [hfail]; exact List.mem_singleton_self _)) f rfl

/-! ## The law of closed registries -/

/-- Materializing a registered model that is not doomed refuses no schema. -/
theorem raises_of_materialize {s : Session} {family : Family} (hf : s.family = family)
    (h : Registry.Coherent family family.Doomed s.registry) {name : String}
    (hc : s.registry.contains name = true) (hd : ¬ family.Doomed name) {ν : Type}
    {document : Document ν} {policy : StringListPolicy} {scope : Option ν} {presets : Binder.Bound}
    {f : SchemaFailure}
    (hrun : (s.materialize document policy (.model name) scope presets).1 = .error (.schema f)) :
    document.Raises (.schema f) := by
  subst hf
  have hsettled := h.settled hc hd
  obtain ⟨schema, -, hof⟩ := hsettled.exists_get?
  have hends := (Binder.keeps_materialize_settled (b := ⟨s.family, document, policy⟩) hsettled hof
    scope presets s.world rfl).2
  rw [← (s.materialize_eq document policy (.model name) scope presets).1, hrun] at hends
  rcases hends with hpresets | hfails
  · obtain ⟨fault, hfault⟩ := Binder.fault_of_checkPresets hpresets
    cases hfault
  · exact hfails.raises rfl

/-- After any history of calls on a registry that was empty, the targets of every registered schema
are registered, just when no doomed model is; this is always so if no call refused a schema.
Materializing a registered model that is not doomed never refuses a schema, unless the document
itself speaks of one. -/
theorem a_registry_is_closed_unless_it_holds_a_doomed_model (family : Family) (log : Log.Journal)
    (acts : List Act) :
    let played := (start family log).play acts
    (played.2.registry.Closed ↔
        ∀ name, played.2.registry.contains name = true → ¬ family.Doomed name) ∧
      ((∀ e ∈ played.1, ∀ f, e ≠ .schema f) → played.2.registry.Closed) ∧
      ∀ name, played.2.registry.contains name = true → ¬ family.Doomed name →
        ∀ {ν : Type} (document : Document ν) (policy : StringListPolicy) (scope : Option ν)
          (presets : Binder.Bound) (f : SchemaFailure),
          (played.2.materialize document policy (.model name) scope presets).1 =
            .error (.schema f) → document.Raises (.schema f) := by
  have hempty := Registry.coherent_empty family
  have hcoherent := coherent_play (s := start family log) rfl (hempty _) acts
  refine ⟨hcoherent.closed_iff, fun ha => ?_,
    fun name hc hd ν document policy scope presets f h => ?_⟩
  · exact (coherent_play_of_accepted rfl (hempty _) acts ha).closed
  · exact raises_of_materialize (family_play _ acts) hcoherent hc hd h

/-- Two models that nest each other, the first with a field of a model that is refused. -/
def crossed : Family :=
  [.plain "A" [.bound "b" (.unite false [.model "B", .nothing]) (.scrape "b" none none) none,
      .bound "x" (.model "Bad") (.scrape "x" none none) none],
    .plain "B" [.bound "a" (.unite false [.model "A", .nothing]) (.scrape "a" none none) none],
    .plain "Bad" [⟨"t", .text, [], none, none, none, none, ⟨none, none, none, none⟩, []⟩]]

def crossedSession : Session :=
  ((start crossed (.initial .standard)).play [.register (.model "A")]).2

/-- The second model stays behind, registered, when the first one is taken back; and so it is
refused a schema when it is materialized. -/
theorem a_refused_model_leaves_one_that_nests_it :
    ¬ crossedSession.registry.Closed ∧ crossedSession.registry.contains "B" = true ∧
      (crossedSession.materialize ⟨fun _ _ => .ok [.node ()], fun _ => .ok "", 1⟩
        .error (.model "B")
        none []).1 = .error (.schema ⟨"Bad", .noDirective, some (.name "t")⟩) := by
  refine ⟨fun h => ?_, by cbv, by cbv⟩
  have hget : crossedSession.registry.get? "B" = some ⟨"B", [⟨.name "a", .optional, some "a",
      some ⟨.nestedOne, some (.model "A")⟩, none, none⟩], false⟩ := by
    cbv
  have hholds := h "B" _ hget _ List.mem_cons_self (.model "A") rfl
  have habsent : crossedSession.registry.holds (.model "A") = false := by cbv
  rw [habsent] at hholds
  cases hholds

end Session

end QueryBinding
