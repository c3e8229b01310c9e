-- The order of calls. `Does` says of a run which calls it makes and how it ends;
-- `Performs` says this of building an instance: field by field, in each field the
-- query, then what is nested, then the transform, and nothing after a failure.
import QueryBinding.Proofs.Nesting

namespace QueryBinding

/-! ## What a run does -/

namespace Run

variable {ν α β : Type}

/-- From every registry with a property, a run leaves a registry with that property, and the calls
that it makes and its end are as told. -/
def Does (I : Registry → Prop) (m : Run ν α) (P : List (Call ν) → Except Failure α → Prop) : Prop :=
  ∀ w, I w.registry → I (m.run.run w).2.registry ∧
    ∃ calls, (m.run.run w).2.trace = w.trace ++ calls ∧ P calls (m.run.run w).1

variable {I : Registry → Prop} {P : List (Call ν) → Except Failure α → Prop}

theorem Does.mono {m : Run ν α} {Q : List (Call ν) → Except Failure α → Prop} (h : Does I m P)
    (hP : ∀ calls x, P calls x → Q calls x) : Does I m Q := by
  intro w hw
  obtain ⟨hI, calls, htrace, hp⟩ := h w hw
  exact ⟨hI, calls, htrace, hP _ _ hp⟩

/-- A run that makes no call, and whose end does not depend on the world. -/
theorem Does.of_quiet {m : Run ν α} {x : Except Failure α}
    (hm : ∀ w, ∃ log, m.run.run w = (x, { w with log := log })) (h : P [] x) : Does I m P := by
  intro w hw
  obtain ⟨log, hlog⟩ := hm w
  rw [hlog]
  exact ⟨hw, [], by simp, h⟩

theorem Does.pure {a : α} (h : P [] (.ok a)) : Does I (Pure.pure a : Run ν α) P :=
  .of_quiet (fun w => ⟨w.log, rfl⟩) h

theorem Does.throw {e : Failure} (h : P [] (.error e)) :
    Does I (MonadExcept.throw e : Run ν α) P :=
  .of_quiet (fun w => ⟨w.log, rfl⟩) h

theorem Does.ofExcept {x : Except Failure α} (h : P [] x) : Does I (Run.ofExcept x : Run ν α) P :=
  .of_quiet (fun w => ⟨w.log, run_ofExcept x w⟩) h

theorem Does.note {c : Call ν} {P : List (Call ν) → Except Failure Unit → Prop}
    (h : P [c] (.ok ())) : Does I (Run.note c) P :=
  fun _ hw => ⟨hw, [c], rfl, h⟩

/-- The calls of a second run come after those of the first, if that one does not fail. -/
theorem Does.bind {Q : List (Call ν) → Except Failure β → Prop} {m : Run ν β} {f : β → Run ν α}
    (hm : Does I m Q) (he : ∀ calls e, Q calls (.error e) → P calls (.error e))
    (hf : ∀ calls b, Q calls (.ok b) → Does I (f b) fun calls' x => P (calls ++ calls') x) :
    Does I (m >>= f) P := by
  intro w hw
  obtain ⟨hI, calls, htrace, hq⟩ := hm w hw
  rcases h : m.run.run w with ⟨e | b, w₁⟩
  · rw [h] at hI htrace hq
    rw [run_bind_error h]
    exact ⟨hI, calls, htrace, he calls e hq⟩
  · rw [h] at hI htrace hq
    rw [run_bind_ok h]
    obtain ⟨hI', calls', htrace', hp⟩ := hf calls b hq w₁ hI
    refine ⟨hI', calls ++ calls', ?_, hp⟩
    rw [htrace', htrace, List.append_assoc]

theorem Does.within {m : Run ν α} {i : Identifier}
    (h : Does I m fun calls x => P calls (x.mapError (Failure.within i))) :
    Does I (Run.within i m) P := by
  intro w hw
  rw [run_within]
  exact h w hw

end Run

namespace Binder

open Run

variable {ν : Type}

/-! ## The order of calls -/

/-- Things happen one after the other: each makes its calls, up to the first that fails. -/
inductive InTurn {α β : Type} (each : α → List (Call ν) → Except Failure β → Prop) :
    List α → List (Call ν) → Except Failure (List β) → Prop
  | done : InTurn each [] [] (.ok [])
  | stopped {a : α} {calls : List (Call ν)} {e : Failure} (rest : List α)
      (h : each a calls (.error e)) : InTurn each (a :: rest) calls (.error e)
  | next {a : α} {rest : List α} {calls calls' : List (Call ν)} {b : β}
      {result : Except Failure (List β)} (h : each a calls (.ok b))
      (hrest : InTurn each rest calls' result) :
      InTurn each (a :: rest) (calls ++ calls') (result.map (b :: ·))

section

variable {α β : Type} {each : α → List (Call ν) → Except Failure β → Prop} {as : List α}
  {calls : List (Call ν)}

/-- What fails in turn fails by one of its parts. -/
theorem InTurn.exists_error {e : Failure} (h : InTurn each as calls (.error e)) :
    ∃ a ∈ as, ∃ calls', each a calls' (.error e) := by
  generalize hx : Except.error e = x at h
  induction h with
  | done => cases hx
  | stopped rest h =>
    cases hx
    exact ⟨_, List.mem_cons_self, _, h⟩
  | @next a rest _ _ _ result h hrest ih =>
    obtain ⟨a', ha, hfails⟩ := ih (map_eq_error.1 hx.symm).symm
    exact ⟨a', List.mem_cons_of_mem a ha, hfails⟩

/-- What is done in turn is done in each of its parts. -/
theorem InTurn.forall₂_ok {bs : List β} (h : InTurn each as calls (.ok bs)) :
    List.Forall₂ (fun a b => ∃ calls', each a calls' (.ok b)) as bs := by
  generalize hx : Except.ok bs = x at h
  induction h generalizing bs with
  | done =>
    cases hx
    exact .nil
  | stopped rest h => cases hx
  | next h hrest ih =>
    obtain ⟨bs', rfl, rfl⟩ := map_eq_ok.1 hx.symm
    exact .cons ⟨_, h⟩ (ih rfl)

end

/-- A match that is a node is built into a structure, and any other is refused without a call. -/
inductive BuildsAt (builds : ν → List (Call ν) → Except Failure Value → Prop) :
    Match ν → List (Call ν) → Except Failure Value → Prop
  | node {n : ν} {calls : List (Call ν)} {result : Except Failure Value}
      (h : builds n calls result) : BuildsAt builds (.node n) calls result
  | refused {m : Match ν} {e : Failure} (h : Coercion.requireNode m = .error e) :
      BuildsAt builds m [] (.error e)

end Binder

namespace Coercion

variable {ν : Type}

/-- The texts of matches, as the policy has it. -/
def textsOf (d : Document ν) : StringListPolicy → List (Match ν) → Except Failure (List String)
  | .error, ms => allTexts d ms
  | .drop, ms => someTexts d ms

/-- The value that matches give a field in which nothing is nested. -/
def plainValue (d : Document ν) (policy : StringListPolicy) (query : String) :
    ShapeKind → List (Match ν) → Except Failure Value
  | .stringList, ms => (textsOf d policy ms).map fun texts => .list (texts.map .text)
  | .optionalScalar, [] => .ok .none
  | _, [] => .error (.field (.missing query))
  | _, m :: _ => (textOf d m).map .text

end Coercion

namespace Binder

open Run Coercion

variable {ν : Type}

/-- Matches become the coerced value of a field. Only nested structures make calls for it: a single
one below the first match, a list below each match in turn. -/
inductive Converts (b : Binder ν)
    (builds : String → ν → List (Call ν) → Except Failure Value → Prop) (f : FieldSpec) :
    List (Match ν) → List (Call ν) → Except Failure Value → Prop
  | plain {kind : ShapeKind} {target : Option Target} (ms : List (Match ν))
      (hshape : f.shape = some ⟨kind, target⟩) (hkind : kind.nested = false) :
      Converts b builds f ms [] (plainValue b.document b.policy (f.query.getD "") kind ms)
  | absent {inner : String} (hshape : f.shape = some ⟨.nestedOne, some (.model inner)⟩) :
      Converts b builds f [] []
        (if f.optional then .ok .none else .error (.field (.missing (f.query.getD ""))))
  | single {inner : String} {m : Match ν} {calls : List (Call ν)} {result : Except Failure Value}
      (rest : List (Match ν)) (hshape : f.shape = some ⟨.nestedOne, some (.model inner)⟩)
      (h : BuildsAt (builds inner) m calls result) : Converts b builds f (m :: rest) calls result
  | many {inner : String} {ms : List (Match ν)} {calls : List (Call ν)}
      {results : Except Failure (List Value)}
      (hshape : f.shape = some ⟨.nestedList, some (.model inner)⟩)
      (h : InTurn (BuildsAt (builds inner)) ms calls results) :
      Converts b builds f ms calls (results.map .list)

section

variable {b : Binder ν} {builds : String → ν → List (Call ν) → Except Failure Value → Prop}
  {f : FieldSpec} {ms : List (Match ν)} {calls : List (Call ν)} {x : Except Failure Value}
  {inner : String}

theorem Converts.eq_plainValue (h : Converts b builds f ms calls x) {kind : ShapeKind}
    {target : Option Target} (hshape : f.shape = some ⟨kind, target⟩)
    (hkind : kind.nested = false) :
    x = plainValue b.document b.policy (f.query.getD "") kind ms := by
  cases h with
  | plain ms hshape' hkind' =>
    rw [hshape] at hshape'
    cases hshape'
    rfl
  | absent hshape' =>
    rw [hshape] at hshape'
    cases hshape'
    cases hkind
  | single rest hshape' h =>
    rw [hshape] at hshape'
    cases hshape'
    cases hkind
  | many hshape' h =>
    rw [hshape] at hshape'
    cases hshape'
    cases hkind

theorem Converts.first_built (h : Converts b builds f ms calls x)
    (hshape : f.shape = some ⟨.nestedOne, some (.model inner)⟩) :
    (ms = [] ∧ x =
      if f.optional then .ok .none else .error (.field (.missing (f.query.getD "")))) ∨
    ∃ m rest, ms = m :: rest ∧ BuildsAt (builds inner) m calls x := by
  cases h with
  | plain ms hshape' hkind =>
    rw [hshape] at hshape'
    cases hshape'
    cases hkind
  | absent hshape' => exact .inl ⟨rfl, rfl⟩
  | single rest hshape' h =>
    rw [hshape] at hshape'
    cases hshape'
    exact .inr ⟨_, _, rfl, h⟩
  | many hshape' h =>
    rw [hshape] at hshape'
    cases hshape'

theorem Converts.all_built (h : Converts b builds f ms calls x)
    (hshape : f.shape = some ⟨.nestedList, some (.model inner)⟩) :
    ∃ results, InTurn (BuildsAt (builds inner)) ms calls results ∧ x = results.map .list := by
  cases h with
  | plain ms hshape' hkind =>
    rw [hshape] at hshape'
    cases hshape'
    cases hkind
  | absent hshape' =>
    rw [hshape] at hshape'
    cases hshape'
  | single rest hshape' h =>
    rw [hshape] at hshape'
    cases hshape'
  | many hshape' h =>
    rw [hshape] at hshape'
    cases hshape'
    exact ⟨_, h, rfl⟩

end

/-- The transform of a field, if it has one, is called once, with the coerced value. -/
inductive Transforms (f : FieldSpec) (v : Value) : List (Call ν) → Except Failure Value → Prop
  | absent (h : f.transform = none) : Transforms f v [] (.ok v)
  | called {t : Transform} (h : f.transform = some t) (counts : Transform.Calls) :
      Transforms f v [.transform f.identifier v] (transformed t ((t.apply v).run.run counts).1)

/-- One field is handled: an ignored one makes no call, a default is made anew, and a queried field
asks its query once, converts the matches, and transforms the value. -/
inductive Handles (b : Binder ν)
    (builds : String → ν → List (Call ν) → Except Failure Value → Prop) (scope : Option ν)
    (presets : Bound) (f : FieldSpec) : List (Call ν) → Except Failure (Option Value) → Prop
  | ignored (hmode : f.mode = .ignore) :
      Handles b builds scope presets f [] (.ok (presets.lookup f.identifier))
  | default {v : Value} (hmode : f.mode = .useDefault) (hv : f.factory = some v) :
      Handles b builds scope presets f [.factory f.identifier] (.ok (some v))
  | refused {query : String} {e : Failure} (hmode : f.mode.queries = true)
      (hquery : f.query = some query) (he : b.document.evaluate query scope = .error e) :
      Handles b builds scope presets f [.query query scope] (.error (e.within f.identifier))
  | unconverted {query : String} {ms : List (Match ν)} {calls : List (Call ν)} {e : Failure}
      (hmode : f.mode.queries = true) (hquery : f.query = some query)
      (hms : b.document.evaluate query scope = .ok ms)
      (h : Converts b builds f ms calls (.error e)) :
      Handles b builds scope presets f (.query query scope :: calls)
        (.error (e.within f.identifier))
  | finished {query : String} {ms : List (Match ν)} {calls calls' : List (Call ν)} {v : Value}
      {result : Except Failure Value} (hmode : f.mode.queries = true)
      (hquery : f.query = some query) (hms : b.document.evaluate query scope = .ok ms)
      (h : Converts b builds f ms calls (.ok v)) (ht : Transforms f v calls' result) :
      Handles b builds scope presets f (.query query scope :: (calls ++ calls'))
        ((result.mapError (Failure.within f.identifier)).map some)

/-- An instance is built, to a depth of nesting: its fields are handled in declaration order, and
when the last of them is done, it is put together without a further call. -/
def Performs (b : Binder ν) :
    Nat → Schema → Option ν → Bound → List (Call ν) → Except Failure Value → Prop
  | 0, _, _, _, calls, result => calls = [] ∧ result = .error .endless
  | depth + 1, s, scope, presets, calls, result => ∃ values,
    InTurn (Handles b (fun inner n calls result => ∃ t,
      Schema.ofTarget b.family (.model inner) = .ok t ∧
        b.Performs depth t (some n) [] calls result) scope presets) s.fields calls values ∧
    result = values >>= fun values => assemble b.family s (boundOf s.fields values)

end Binder

namespace Coercion

open Run Binder

variable {ν : Type} {b : Binder ν} {I : Registry → Prop} {nested : Target → ν → Run ν Value}
  {f : FieldSpec}

/-! ## Coercion -/

theorem run_stringList (d : Document ν) (f : FieldSpec) (policy : StringListPolicy) (query : String)
    (ms : List (Match ν)) (w : World ν) : ∃ log, (stringList d f policy ms).run.run w =
      (plainValue d policy query .stringList ms, { w with log := log }) := by
  cases policy with
  | error =>
    refine ⟨w.log, ?_⟩
    simp only [stringList, plainValue, textsOf]
    rcases allTexts d ms with e | texts <;> rfl
  | drop =>
    simp only [stringList, plainValue, textsOf]
    rcases someTexts d ms with e | texts
    · exact ⟨w.log, rfl⟩
    · rw [run_bind_ok (run_ofExcept _ w)]
      by_cases h : texts.length < ms.length
      · rw [if_pos h]
        exact ⟨_, rfl⟩
      · rw [if_neg h]
        exact ⟨w.log, rfl⟩

theorem run_textOf (d : Document ν) (m : Match ν) (w : World ν) : (do
      let s ← Run.ofExcept (textOf d m)
      return .text s : Run ν Value).run.run w = ((textOf d m).map .text, w) := by
  rcases textOf d m with e | s <;> rfl

theorem does_requireNode (m : Match ν) : Does I (Run.ofExcept (requireNode m) : Run ν ν)
    fun calls x => calls = [] ∧ x = requireNode m :=
  .ofExcept ⟨rfl, rfl⟩

theorem does_nestedList {t : Target} {builds : ν → List (Call ν) → Except Failure Value → Prop}
    (hn : ∀ n, Does I (nested t n) (builds n)) (ms : List (Match ν)) :
    Does I (nestedList nested t ms) (InTurn (BuildsAt builds) ms) := by
  induction ms with
  | nil => exact .pure .done
  | cons m ms ih =>
    apply Does.bind (does_requireNode m)
    · rintro calls e ⟨rfl, he⟩
      exact .stopped ms (.refused he.symm)
    · rintro calls n ⟨rfl, hm⟩
      obtain rfl := eq_node_of_requireNode hm.symm
      apply Does.bind (hn n)
      · intro calls e he
        exact .stopped ms (.node he)
      · intro calls v hv
        apply Does.bind ih
        · intro calls' e he
          exact .next (.node hv) he
        · intro calls' vs hvs
          apply Does.pure
          simp only [List.nil_append, List.append_nil]
          exact .next (.node hv) hvs

/-- Coercion gives the coerced value, if every structure that can be nested is built as told. -/
theorem does_coerce {builds : String → ν → List (Call ν) → Except Failure Value → Prop}
    {shape : TargetShape} (hshape : f.shape = some shape) (hf : f.Fits)
    (hn : ∀ inner n, f.target? = some (.model inner) →
      Does I (nested (.model inner) n) (builds inner n)) (ms : List (Match ν)) :
    Does I (coerce b.document nested b.policy f ms) (Converts b builds f ms) := by
  have hfits := hf.shape shape hshape
  have htarget : f.target? = shape.target := by rw [FieldSpec.target?, hshape]; rfl
  obtain ⟨kind, target⟩ := shape
  have hplain (hk : kind.nested = false) :
      (∀ w, ∃ log, (coerce b.document nested b.policy f ms).run.run w =
        (plainValue b.document b.policy (f.query.getD "") kind ms, { w with log := log })) →
      Does I (coerce b.document nested b.policy f ms) (Converts b builds f ms) :=
    fun h => .of_quiet h (.plain ms hshape hk)
  unfold coerce at hplain ⊢
  rw [hshape] at hplain ⊢
  cases kind with
  | stringList => exact hplain rfl (run_stringList _ _ _ _ _)
  | scalar =>
    cases ms with
    | nil => exact hplain rfl fun w => ⟨w.log, rfl⟩
    | cons m ms => exact hplain rfl fun w => ⟨w.log, run_textOf b.document m w⟩
  | optionalScalar =>
    cases ms with
    | nil => exact hplain rfl fun w => ⟨w.log, rfl⟩
    | cons m ms => exact hplain rfl fun w => ⟨w.log, run_textOf b.document m w⟩
  | nestedList =>
    obtain ⟨inner, rfl⟩ := hfits.nested rfl
    apply Does.bind (does_nestedList (fun n => hn inner n htarget) ms)
    · intro calls e he
      exact .many hshape he
    · intro calls vs hvs
      apply Does.pure
      rw [List.append_nil]
      exact .many hshape hvs
  | nestedOne =>
    obtain ⟨inner, rfl⟩ := hfits.nested rfl
    cases ms with
    | nil =>
      have habsent : Converts b builds f [] [] _ := .absent hshape
      dsimp only
      split
      · rename_i ho
        rw [if_pos ho] at habsent
        exact .pure habsent
      · rename_i ho
        rw [if_neg ho] at habsent
        exact .throw habsent
    | cons m ms =>
      apply Does.bind (does_requireNode m)
      · rintro calls e ⟨rfl, he⟩
        exact .single ms hshape (.refused he.symm)
      · rintro calls n ⟨rfl, hm⟩
        obtain rfl := eq_node_of_requireNode hm.symm
        apply (hn inner n htarget).mono
        intro calls x hx
        exact .single ms hshape (.node hx)

theorem does_applyTransform (v : Value) :
    Does I (applyTransform f v) (Transforms (ν := ν) f v) := by
  cases ht : f.transform with
  | none =>
    unfold applyTransform
    rw [ht]
    exact .pure (.absent ht)
  | some t =>
    intro w hw
    rw [run_applyTransform ht]
    exact ⟨hw, _, rfl, .called ht w.calls⟩

end Coercion

namespace Binder

open Run Coercion

variable {ν : Type} {b : Binder ν} {I : Registry → Prop} {nested : Target → ν → Run ν Value}
  {builds : String → ν → List (Call ν) → Except Failure Value → Prop} {scope : Option ν}
  {presets : Bound}

/-! ## Binding -/

/-- A queried field asks its query, converts the matches, and transforms the value. -/
theorem does_bindField {f : FieldSpec} (hq : f.mode.queries = true) (hf : f.Fits)
    (hn : ∀ inner n, f.target? = some (.model inner) →
      Does I (nested (.model inner) n) (builds inner n)) :
    Does I (b.bindField nested scope f) fun calls x => Handles b builds scope presets f calls
      ((x.mapError (Failure.within f.identifier)).map some) := by
  obtain ⟨query, shape, hquery, -, hshape⟩ := hf.asks hq
  unfold bindField
  rw [hquery, Option.getD_some]
  apply Does.bind (Q := fun calls x => calls = [.query query scope] ∧ x = .ok ())
  · exact .note ⟨rfl, rfl⟩
  · rintro calls e ⟨-, he⟩
    cases he
  rintro calls - ⟨rfl, -⟩
  apply Does.bind (Q := fun calls x => calls = [] ∧ b.document.evaluate query scope = x)
  · exact .ofExcept ⟨rfl, rfl⟩
  · rintro calls e ⟨rfl, he⟩
    exact .refused hq hquery he
  rintro calls ms ⟨rfl, hms⟩
  apply Does.bind (does_coerce hshape hf hn ms)
  · intro calls e he
    exact .unconverted hq hquery hms he
  intro calls v hv
  apply (does_applyTransform v).mono
  intro calls' x hx
  change Handles b builds scope presets f (.query query scope :: (calls ++ calls')) _
  exact .finished hq hquery hms hv hx

theorem does_bindOne {f : FieldSpec} (hf : f.Fits)
    (hn : ∀ inner n, f.target? = some (.model inner) →
      Does I (nested (.model inner) n) (builds inner n)) :
    Does I (b.bindOne nested scope presets f) (Handles b builds scope presets f) := by
  have hqueried (hq : f.mode.queries = true) :
      Does I (b.bindOne nested scope presets f) (Handles b builds scope presets f) := by
    rw [bindOne_of_queries hq]
    apply Does.bind (Q := fun calls x => Handles b builds scope presets f calls (x.map some))
    · exact .within (does_bindField hq hf hn)
    · intro calls e he
      exact he
    · intro calls v hv
      apply Does.pure
      rw [List.append_nil]
      exact hv
  cases hm : f.mode with
  | required => exact hqueried (by rw [hm]; rfl)
  | optional => exact hqueried (by rw [hm]; rfl)
  | useDefault =>
    obtain ⟨v, hv⟩ := hf.default hm
    unfold bindOne
    rw [hm, hv]
    apply Does.bind (Q := fun calls x => calls = [.factory f.identifier] ∧ x = .ok ())
    · exact .note ⟨rfl, rfl⟩
    · rintro calls e ⟨-, he⟩
      cases he
    · rintro calls - ⟨rfl, -⟩
      exact .pure (.default hm hv)
  | ignore =>
    unfold bindOne
    rw [hm]
    exact .pure (.ignored hm)

/-- The fields are handled one after the other, up to the first that fails. -/
theorem does_bindAll {fs : List FieldSpec}
    (h : ∀ f ∈ fs, Does I (b.bindOne nested scope presets f) (Handles b builds scope presets f)) :
    Does I (b.bindAll nested scope presets fs) fun calls x => ∃ values,
      InTurn (Handles b builds scope presets) fs calls values ∧ x = values.map (boundOf fs) := by
  induction fs with
  | nil => exact .pure ⟨.ok [], .done, rfl⟩
  | cons f fs ih =>
    apply Does.bind (h f List.mem_cons_self)
    · intro calls e he
      exact ⟨.error e, .stopped fs he, rfl⟩
    intro calls v hv
    apply Does.bind (ih fun g hg => h g (List.mem_cons_of_mem f hg))
    · rintro calls' e ⟨values, hvalues, he⟩
      obtain rfl := map_eq_error.1 he.symm
      exact ⟨.error e, .next hv hvalues, rfl⟩
    · rintro calls' rest ⟨values, hvalues, hrest⟩
      obtain ⟨vs, rfl, rfl⟩ := map_eq_ok.1 hrest.symm
      have hturn := InTurn.next hv hvalues
      cases v with
      | none =>
        apply Does.pure
        rw [List.append_nil]
        exact ⟨_, hturn, rfl⟩
      | some v =>
        apply Does.pure
        rw [List.append_nil]
        exact ⟨_, hturn, rfl⟩

/-! ## Whole runs -/

/-- Looking up a model that is not doomed gives its schema without a call. -/
theorem does_lookup_bind {α : Type} {family : Family} {name : String} {s : Schema}
    {g : Schema → Run ν α} {P : List (Call ν) → Except Failure α → Prop}
    (hd : ¬ family.Doomed name) (hs : Schema.ofTarget family (.model name) = .ok s)
    (h : Does (Registry.Faithful family) (g s) P) :
    Does (Registry.Faithful family) (lookup family (.model name) >>= g) P := by
  intro w hw
  obtain ⟨log, hlog⟩ := exists_run_lookup hd hs hw
  rw [run_bind_ok hlog]
  exact h { w with registry := (w.registry.register family name).registry, log := log }
    (Registry.faithful_register hw name)

/-- The fields of an accepted model are handled in turn and then put together, if every structure
that the model nests is built as told. -/
theorem does_fields {name : String} {s : Schema}
    (hs : Schema.ofTarget b.family (.model name) = .ok s)
    (hn : ∀ inner n, b.family.Nests name inner → Does I (nested (.model inner) n) (builds inner n))
    (scope : Option ν) (presets : Bound) :
    Does I (b.bindAll nested scope presets s.fields >>= fun values =>
        Run.ofExcept (assemble b.family s values)) fun calls x => ∃ values,
      InTurn (Handles b builds scope presets) s.fields calls values ∧
        x = values >>= fun values => assemble b.family s (boundOf s.fields values) := by
  apply Does.bind (does_bindAll fun f hf => does_bindOne (Schema.fits_of_mem_fields hs hf)
    fun inner n ht => hn inner n (nests_of_target? hs hf ht))
  · rintro calls e ⟨values, hturn, he⟩
    obtain rfl := map_eq_error.1 he.symm
    exact ⟨_, hturn, rfl⟩
  · rintro calls bound ⟨values, hturn, hbound⟩
    obtain ⟨vs, rfl, rfl⟩ := map_eq_ok.1 hbound.symm
    apply Does.ofExcept
    rw [List.append_nil]
    exact ⟨_, hturn, rfl⟩

/-- An instance of a model that is not doomed is built as told, to every depth. -/
theorem does_structureWithin (depth : Nat) {name : String} {s : Schema}
    (hd : ¬ b.family.Doomed name) (hs : Schema.ofTarget b.family (.model name) = .ok s)
    (scope : Option ν) (presets : Bound) :
    Does (Registry.Faithful b.family) (b.structureWithin depth s scope presets)
      (b.Performs depth s scope presets) := by
  induction depth generalizing name s scope presets with
  | zero => exact .throw ⟨rfl, rfl⟩
  | succ depth ih =>
    apply does_fields hs
    intro inner n hnests
    have hinner : ¬ b.family.Doomed inner := fun h => hd (.of_nests hnests h)
    obtain ⟨t, ht⟩ := Family.exists_schema hinner
    apply does_lookup_bind hinner ht
    apply (ih hinner ht (some n) []).mono
    intro calls x hx
    exact ⟨t, ht, hx⟩

/-- What the log is told about a run is no call. -/
theorem does_logged {P : List (Call ν) → Except Failure Value → Prop} {m : Run ν Value}
    (h : Does I m P) (values : Log.Fields) : Does I (logging values (Run.ensuring m report)) P := by
  intro w hw
  obtain ⟨log, log', hrun⟩ := exists_run_logged values m w
  rw [hrun]
  exact h { w with log := log } hw

/-- Presets that name no ignored field are refused before the first call; otherwise the instance is
built as told. -/
theorem does_materialize (b : Binder ν) {name : String} {s : Schema} (hd : ¬ b.family.Doomed name)
    (hs : Schema.ofTarget b.family (.model name) = .ok s) (scope : Option ν) (presets : Bound) :
    Does (Registry.Faithful b.family) (b.materialize (.model name) scope presets)
      fun calls x => match checkPresets s presets with
        | .error e => calls = [] ∧ x = .error e
        | .ok _ => b.Performs b.depth s scope presets calls x := by
  apply does_lookup_bind hd hs
  cases checkPresets s presets with
  | error e => exact .throw ⟨rfl, rfl⟩
  | ok u => exact does_logged (does_structureWithin b.depth hd hs scope presets) _

/-- The calls of a whole run go along the fields, each field of each instance in its turn: the query
of a field with the scope of the instance, then the calls of what is nested in it, match by match,
then its transform; and no call comes after a failure, wherever that is. Presets that name no
ignored field are refused before the first call. -/
theorem calls_go_along_the_fields_up_to_a_failure (b : Binder ν) {name : String} {s : Schema}
    (hs : (Registry.register b.family .empty name).result = .ok s) (scope : Option ν)
    (presets : Bound) (w : World ν) (hw : Registry.Faithful b.family w.registry) :
    ∃ calls, ((b.materialize (.model name) scope presets).run.run w).2.trace = w.trace ++ calls ∧
      match checkPresets s presets with
      | .error e => calls = [] ∧
          ((b.materialize (.model name) scope presets).run.run w).1 = .error e
      | .ok _ => b.Performs b.depth s scope presets calls
          ((b.materialize (.model name) scope presets).run.run w).1 := by
  have hof := Registry.ofTarget_of_register_ok (Registry.faithful_empty b.family) hs
  have hd := (Registry.settled_of_register_ok hs).not_doomed
  exact (b.does_materialize hd hof scope presets w hw).2

/-- An order has a stamp, lines and a note; a line has a price, which is made a number, and a
unit. -/
def orders : Family :=
  [.plain "Order" [.bound "stamp" .text .useDefault (some (.text "new")),
      .bound "lines" (.list (.model "Line")) (.scrape "line" none none) none,
      .bound "note" .text (.scrape "note" none none) none],
    .plain "Line" [.bound "price" .integer (.scrape "price" (some .toInt) none) none,
      .bound "unit" .text (.scrape "unit" none none) none]]

def orderSchema : Schema :=
  ⟨"Order", [⟨.name "stamp", .useDefault, none, none, none, some (.text "new")⟩,
    ⟨.name "lines", .required, some "line", some ⟨.nestedList, some (.model "Line")⟩, none, none⟩,
    ⟨.name "note", .required, some "note", some ⟨.scalar, none⟩, none, none⟩], false⟩

/-- A document with two lines, of which only the first has a price. -/
def unpriced : Document Bool :=
  ⟨fun query scope =>
      if query = "line" then .ok [.node true, .node false]
      else if scope = some true then .ok [.text "3"]
      else .ok [],
    fun _ => .ok "", 2⟩

/-- The note is not asked for, nor the unit of the second line, and the only price is
transformed. -/
theorem an_order_ends_at_the_line_without_a_price :
    Performs ⟨orders, unpriced, .error⟩ (depth ⟨orders, unpriced, .error⟩) orderSchema none []
      [.factory (.name "stamp"), .query "line" none, .query "price" (some true),
        .transform (.name "price") (.text "3"), .query "unit" (some true),
        .query "price" (some false)]
      (.error (.extraction [.name "lines", .name "price"] (.missing "price"))) := by
  have hend : ((materialize ⟨orders, unpriced, .error⟩ (.model "Order") none []).run.run
      ⟨.empty, [], .initial .standard, []⟩).1 =
        .error (.extraction [.name "lines", .name "price"] (.missing "price")) := by
    cbv
  have htrace : ((materialize ⟨orders, unpriced, .error⟩ (.model "Order") none []).run.run
      ⟨.empty, [], .initial .standard, []⟩).2.trace =
        [.factory (.name "stamp"), .query "line" none, .query "price" (some true),
          .transform (.name "price") (.text "3"), .query "unit" (some true),
          .query "price" (some false)] := by
    cbv
  have hs : (Registry.register orders .empty "Order").result = .ok orderSchema := rfl
  have hpresets : checkPresets orderSchema [] = .ok () := checkPresets_eq_ok (by simp)
  obtain ⟨calls, hcalls, h⟩ := calls_go_along_the_fields_up_to_a_failure
    ⟨orders, unpriced, .error⟩ hs none [] ⟨.empty, [], .initial .standard, []⟩
    (Registry.faithful_empty _)
  rw [htrace, List.nil_append] at hcalls
  rw [hpresets, hend, ← hcalls] at h
  exact h

end Binder

end QueryBinding
