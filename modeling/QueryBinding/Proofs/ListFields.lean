-- Fields that hold lists. A list is made match by match: more matches give more of the
-- list, made afterwards, and the first match that fails is the end. A strict list has one
-- item for each match. A lenient list of texts leaves out the matches that have none, and
-- it is the shorter one just when a strict list fails.
import QueryBinding.Proofs.Inference

namespace QueryBinding

namespace Run

variable {ν α : Type}

/-- Two runs end alike, and the worlds that they leave differ in nothing but the log. -/
def SameButLog (m m' : Run ν α) : Prop :=
  ∀ w, ∃ log, m'.run.run w = ((m.run.run w).1, { (m.run.run w).2 with log := log })

theorem SameButLog.refl (m : Run ν α) : SameButLog m m := fun w => ⟨(m.run.run w).2.log, rfl⟩

end Run

namespace Coercion

open Run

variable {ν : Type}

/-! ## Lists in turn -/

/-- The items of a list. -/
def items : Value → List Value
  | .list vs => vs
  | _ => []

/-- Two lists are made one after the other, and put together. -/
def inTurn (first second : Run ν Value) : Run ν Value := do
  let v ← first
  let u ← second
  return .list (items v ++ items u)

section

variable {first second third : Run ν Value} {w w₁ w₂ : World ν} {v u : Value} {e : Failure}

theorem run_inTurn_ok (h : first.run.run w = (.ok v, w₁)) (h' : second.run.run w₁ = (.ok u, w₂)) :
    (inTurn first second).run.run w = (.ok (.list (items v ++ items u)), w₂) := by
  rw [inTurn, run_bind_ok h, run_bind_ok h']
  rfl

theorem run_inTurn_error_left (h : first.run.run w = (.error e, w₁)) :
    (inTurn first second).run.run w = (.error e, w₁) := by
  rw [inTurn, run_bind_error h]

theorem run_inTurn_error_right (h : first.run.run w = (.ok v, w₁))
    (h' : second.run.run w₁ = (.error e, w₂)) :
    (inTurn first second).run.run w = (.error e, w₂) := by
  rw [inTurn, run_bind_ok h, run_bind_error h']

theorem run_inTurn_eq_ok (h : (inTurn first second).run.run w = (.ok v, w₂)) : ∃ u₁ u₂ w₁,
    first.run.run w = (.ok u₁, w₁) ∧ second.run.run w₁ = (.ok u₂, w₂) ∧
      v = .list (items u₁ ++ items u₂) := by
  obtain ⟨u₁, w₁, h₁, h⟩ := run_bind_eq_ok h
  obtain ⟨u₂, w₂', h₂, h⟩ := run_bind_eq_ok h
  cases h
  exact ⟨u₁, u₂, w₁, h₁, h₂, rfl⟩

theorem inTurn_assoc (first second third : Run ν Value) :
    inTurn (inTurn first second) third = inTurn first (inTurn second third) := by
  simp only [inTurn, bind_assoc, pure_bind, items, List.append_assoc]

end

/-- A coercion makes lists by going along the matches: more matches give more of the list, made
afterwards, and the first match that fails is the end. -/
structure GoesAlong (coerced : List (Match ν) → Run ν Value) : Prop where
  list : ∀ ms w v, ((coerced ms).run.run w).1 = .ok v → ∃ vs, v = .list vs
  append : ∀ xs ys, SameButLog (inTurn (coerced xs) (coerced ys)) (coerced (xs ++ ys))
  fails_first : ∀ ms w e, ((coerced ms).run.run w).1 = .error e → ∃ before m after vs w₁,
    ms = before ++ m :: after ∧ (coerced before).run.run w = (.ok (.list vs), w₁) ∧
      ((coerced [m]).run.run w₁).1 = .error e

/-- A coercion makes lists that have one item for each match, in its place: the item that the match
gives when its turn comes. -/
structure KeepsPlaces (coerced : List (Match ν) → Run ν Value) : Prop where
  append_eq : ∀ xs ys, coerced (xs ++ ys) = inTurn (coerced xs) (coerced ys)
  length : ∀ ms w w' v, (coerced ms).run.run w = (.ok v, w') →
    ∃ vs, v = .list vs ∧ vs.length = ms.length
  place : ∀ before m after w w' v, (coerced (before ++ m :: after)).run.run w = (.ok v, w') →
    ∃ us x ts w₁ w₂, v = .list (us ++ x :: ts) ∧ us.length = before.length ∧
      (coerced before).run.run w = (.ok (.list us), w₁) ∧
      (coerced [m]).run.run w₁ = (.ok (.list [x]), w₂) ∧
      (coerced after).run.run w₂ = (.ok (.list ts), w')

/-! ## One item for each match -/

section

variable {coerced : List (Match ν) → Run ν Value}

/-- A coercion that makes the item of the first match, and then the list of the others. -/
structure Consecutive (coerced : List (Match ν) → Run ν Value) : Prop where
  nil : coerced [] = return .list []
  cons : ∀ m ms, coerced (m :: ms) = inTurn (coerced [m]) (coerced ms)
  single : ∀ m w w' v, (coerced [m]).run.run w = (.ok v, w') → ∃ x, v = .list [x]

theorem Consecutive.length (h : Consecutive coerced) {ms : List (Match ν)} {w w' : World ν}
    {v : Value} (hrun : (coerced ms).run.run w = (.ok v, w')) :
    ∃ vs, v = .list vs ∧ vs.length = ms.length := by
  induction ms generalizing w v with
  | nil =>
    rw [h.nil] at hrun
    cases hrun
    exact ⟨[], rfl, rfl⟩
  | cons m ms ih =>
    rw [h.cons] at hrun
    obtain ⟨u₁, u₂, w₁, h₁, h₂, rfl⟩ := run_inTurn_eq_ok hrun
    obtain ⟨x, rfl⟩ := h.single _ _ _ _ h₁
    obtain ⟨vs, rfl, hlength⟩ := ih h₂
    exact ⟨x :: vs, rfl, congrArg (· + 1) hlength⟩

/-- More matches give more of the list. -/
theorem Consecutive.append (h : Consecutive coerced) (xs ys : List (Match ν)) :
    coerced (xs ++ ys) = inTurn (coerced xs) (coerced ys) := by
  induction xs with
  | nil =>
    -- nothing is put before a list, which stays as it is
    rw [h.nil, List.nil_append]
    funext w
    change (coerced ys).run.run w = (inTurn (return .list []) (coerced ys)).run.run w
    have hnil : (return .list [] : Run ν Value).run.run w = (.ok (.list []), w) := rfl
    rcases hys : (coerced ys).run.run w with ⟨e | v, w'⟩
    · rw [run_inTurn_error_right hnil hys]
    · obtain ⟨vs, rfl, -⟩ := h.length hys
      rw [run_inTurn_ok hnil hys]
      rfl
  | cons m xs ih => rw [List.cons_append, h.cons, ih, h.cons m xs, inTurn_assoc]

theorem Consecutive.keepsPlaces (h : Consecutive coerced) : KeepsPlaces coerced where
  append_eq := h.append
  length := fun _ _ _ _ => h.length
  place := by
    intro before m after w w' v hrun
    rw [h.append, h.cons] at hrun
    obtain ⟨u₁, u₂, w₁, h₁, h₂, rfl⟩ := run_inTurn_eq_ok hrun
    obtain ⟨u₃, u₄, w₂, h₃, h₄, rfl⟩ := run_inTurn_eq_ok h₂
    obtain ⟨us, rfl, hlength⟩ := h.length h₁
    obtain ⟨x, rfl⟩ := h.single _ _ _ _ h₃
    obtain ⟨ts, rfl, -⟩ := h.length h₄
    exact ⟨us, x, ts, w₁, w₂, rfl, hlength, h₁, h₃, h₄⟩

theorem Consecutive.goesAlong (h : Consecutive coerced) : GoesAlong coerced where
  list := by
    intro ms w v hv
    obtain ⟨w', hrun⟩ := exists_run_eq hv
    obtain ⟨vs, rfl, -⟩ := h.length hrun
    exact ⟨vs, rfl⟩
  append := fun xs ys => h.append xs ys ▸ .refl _
  fails_first := by
    intro ms w e he
    obtain ⟨w', hrun⟩ := exists_run_eq he
    induction ms generalizing w with
    | nil =>
      rw [h.nil] at hrun
      cases hrun
    | cons m ms ih =>
      rcases hm : (coerced [m]).run.run w with ⟨e' | v, w₁⟩
      · rw [h.cons, run_inTurn_error_left hm] at hrun
        cases hrun
        refine ⟨[], m, ms, [], w, rfl, ?_, by rw [hm]⟩
        rw [h.nil]
        rfl
      · obtain ⟨x, rfl⟩ := h.single _ _ _ _ hm
        rcases hms : (coerced ms).run.run w₁ with ⟨e' | u, w₂⟩
        · rw [h.cons, run_inTurn_error_right hm hms] at hrun
          cases hrun
          obtain ⟨before, m', after, vs, w₃, rfl, hbefore, hm'⟩ := ih w₁ (by rw [hms]) hms
          refine ⟨m :: before, m', after, x :: vs, w₃, rfl, ?_, hm'⟩
          rw [h.cons, run_inTurn_ok hm hbefore]
          rfl
        · rw [h.cons, run_inTurn_ok hm hms] at hrun
          cases hrun

end

/-! ## Lists of structures -/

variable {d : Document ν} {nested : Target → ν → Run ν Value} {policy : StringListPolicy}
  {f : FieldSpec} {shape : TargetShape}

theorem coerce_structures (hshape : f.shape = some shape) (hkind : shape.kind = .nestedList)
    (ms : List (Match ν)) : coerce d nested policy f ms = (do
      let vs ← nestedList nested (targetOf shape) ms
      return .list vs) := by
  unfold coerce
  rw [hshape]
  dsimp only
  rw [hkind]

theorem consecutive_structures (hshape : f.shape = some shape)
    (hkind : shape.kind = .nestedList) : Consecutive (coerce d nested policy f) where
  nil := by
    rw [coerce_structures hshape hkind, nestedList, pure_bind]
  cons := by
    intro m ms
    rw [coerce_structures hshape hkind, coerce_structures hshape hkind,
      coerce_structures hshape hkind, nestedList, nestedList, nestedList]
    simp only [inTurn, bind_assoc, pure_bind, items, List.cons_append, List.nil_append]
  single := by
    intro m w w' v h
    rw [coerce_structures hshape hkind, nestedList, nestedList] at h
    simp only [bind_assoc, pure_bind] at h
    obtain ⟨n, w₁, -, h⟩ := run_bind_eq_ok h
    obtain ⟨x, w₂, -, h⟩ := run_bind_eq_ok h
    cases h
    exact ⟨x, rfl⟩

/-! ## Lists of texts -/

theorem coerce_texts (hshape : f.shape = some shape) (hkind : shape.kind = .stringList)
    (ms : List (Match ν)) : coerce d nested policy f ms = stringList d f policy ms := by
  unfold coerce
  rw [hshape]
  dsimp only
  rw [hkind]

theorem consecutive_texts (hshape : f.shape = some shape) (hkind : shape.kind = .stringList) :
    Consecutive (coerce d nested .error f) where
  nil := by
    rw [coerce_texts hshape hkind]
    rfl
  cons := by
    intro m ms
    rw [coerce_texts hshape hkind, coerce_texts hshape hkind, coerce_texts hshape hkind]
    simp only [stringList, allTexts, inTurn, items]
    rcases textOf d m with e | s
    · rfl
    · rcases allTexts d ms with e | texts <;> rfl
  single := by
    intro m w w' v h
    rw [coerce_texts hshape hkind] at h
    simp only [stringList, allTexts] at h
    rcases hm : textOf d m with e | s
    · rw [hm] at h
      cases h
    · rw [hm] at h
      cases h
      exact ⟨_, rfl⟩

/-- The first match adds its text, or nothing, and the others add theirs. -/
theorem someTexts_cons (d : Document ν) (m : Match ν) (ms : List (Match ν)) :
    someTexts d (m :: ms) = do
      let texts ← someTexts d [m]
      let rest ← someTexts d ms
      return texts ++ rest := by
  simp only [someTexts]
  rcases textOf d m with e | s
  · cases e with
    | field cause => cases cause <;> rcases someTexts d ms with e | texts <;> rfl
    | _ => rfl
  · rcases someTexts d ms with e | texts <;> rfl

theorem someTexts_append (d : Document ν) (xs ys : List (Match ν)) :
    someTexts d (xs ++ ys) = do
      let texts ← someTexts d xs
      let rest ← someTexts d ys
      return texts ++ rest := by
  induction xs with
  | nil => rcases h : someTexts d ys with e | texts <;> simp [someTexts, h] <;> rfl
  | cons m xs ih =>
    rw [List.cons_append, someTexts_cons, ih, someTexts_cons d m xs]
    simp only [bind_assoc, pure_bind, List.append_assoc]

/-- A lenient list fails with the first match that fails on its own. -/
theorem exists_of_someTexts_error {ms : List (Match ν)} {e : Failure}
    (h : someTexts d ms = .error e) : ∃ before m after texts,
      ms = before ++ m :: after ∧ someTexts d before = .ok texts ∧ someTexts d [m] = .error e := by
  induction ms with
  | nil => cases h
  | cons m ms ih =>
    rcases hm : someTexts d [m] with e' | texts
    · rw [someTexts_cons, hm] at h
      cases h
      exact ⟨[], m, ms, [], rfl, rfl, hm⟩
    · rcases hms : someTexts d ms with e' | rest
      · rw [someTexts_cons, hm, hms] at h
        cases h
        obtain ⟨before, m', after, texts', rfl, hbefore, hm'⟩ := ih hms
        refine ⟨m :: before, m', after, texts ++ texts', rfl, ?_, hm'⟩
        rw [someTexts_cons, hm, hbefore]
        rfl
      · rw [someTexts_cons, hm, hms] at h
        cases h

/-- A list of texts as a value. -/
def textList (texts : List String) : Value := .list (texts.map .text)

/-- A lenient list depends on the document alone, and only the log is written. -/
theorem run_coerce_someTexts (d : Document ν) (nested : Target → ν → Run ν Value)
    (hshape : f.shape = some shape) (hkind : shape.kind = .stringList) (ms : List (Match ν))
    (w : World ν) : ∃ log, (coerce d nested .drop f ms).run.run w =
      ((someTexts d ms).map textList, { w with log := log }) := by
  rw [coerce_texts hshape hkind]
  exact run_stringList d f .drop "" ms w

theorem goesAlong_someTexts (hshape : f.shape = some shape) (hkind : shape.kind = .stringList) :
    GoesAlong (coerce d nested .drop f) where
  list := by
    intro ms w v h
    obtain ⟨log, hrun⟩ := run_coerce_someTexts d nested hshape hkind ms w
    rw [hrun] at h
    obtain ⟨texts, -, rfl⟩ := map_eq_ok.1 h
    exact ⟨_, rfl⟩
  append := by
    intro xs ys w
    have hrun := run_coerce_someTexts d nested hshape hkind
    obtain ⟨log, hboth⟩ := hrun (xs ++ ys) w
    obtain ⟨log₁, hxs⟩ := hrun xs w
    rw [hboth, someTexts_append]
    rcases hx : someTexts d xs with e | texts
    · rw [hx] at hxs
      rw [run_inTurn_error_left hxs]
      exact ⟨log, rfl⟩
    · rw [hx] at hxs
      obtain ⟨log₂, hys⟩ := hrun ys { w with log := log₁ }
      rcases hy : someTexts d ys with e | rest
      · rw [hy] at hys
        rw [run_inTurn_error_right hxs hys]
        exact ⟨log, rfl⟩
      · rw [hy] at hys
        rw [run_inTurn_ok hxs hys]
        refine ⟨log, ?_⟩
        simp only [bind, Except.bind, pure, Except.pure, Except.map, textList, items,
          List.map_append]
  fails_first := by
    intro ms w e he
    have hrun := run_coerce_someTexts d nested hshape hkind
    obtain ⟨log, hms⟩ := hrun ms w
    rw [hms] at he
    obtain ⟨before, m, after, texts, rfl, hbefore, hm⟩ :=
      exists_of_someTexts_error (map_eq_error.1 he)
    obtain ⟨log₁, hb⟩ := hrun before w
    obtain ⟨log₂, hm'⟩ := hrun [m] { w with log := log₁ }
    rw [hbefore] at hb
    rw [hm] at hm'
    exact ⟨before, m, after, texts.map .text, _, rfl, hb, by rw [hm']; rfl⟩

/-! ## Strict and lenient lists of texts -/

/-- The texts of the matches that have one, in order. -/
def readable (d : Document ν) (ms : List (Match ν)) : List String :=
  ms.filterMap fun m => (textOf d m).toOption

/-- A strict and a lenient coercion make lists of the same texts. The lenient one leaves out what
has no text, without a failure; the strict one fails if there is such a match, and tells why the
first of them has no text. -/
structure LeavesOut (d : Document ν) (strict lenient : List (Match ν) → Run ν Value) : Prop where
  never_fails : ∀ ms w, ∃ log,
    (lenient ms).run.run w = (.ok (textList (readable d ms)), { w with log := log })
  agrees : ∀ ms w v, ((strict ms).run.run w).1 = .ok v → ((lenient ms).run.run w).1 = .ok v
  fails_iff : ∀ ms w, (∃ e, ((strict ms).run.run w).1 = .error e) ↔
    (readable d ms).length < ms.length
  fails_first : ∀ ms w e, ((strict ms).run.run w).1 = .error e → ∃ before m after cause,
    ms = before ++ m :: after ∧ (∀ m' ∈ before, ∃ s, textOf d m' = .ok s) ∧
      textOf d m = .error e ∧ e = .field (.conversion cause)

theorem exists_cause_of_textOf_error {m : Match ν} {e : Failure}
    (hread : ∀ n e, d.nodeText n = .error e → ∃ query reason, e = .field (.query query reason))
    (h : textOf d m = .error e) : ∃ cause, e = .field (.conversion cause) := by
  rcases textOf_error h with hcause | ⟨n, hn, hne⟩
  · exact hcause
  · obtain ⟨query, reason, hq⟩ := hread n e hn
    exact absurd hq (hne query reason)

theorem someTexts_eq_readable
    (hread : ∀ n e, d.nodeText n = .error e → ∃ query reason, e = .field (.query query reason))
    (ms : List (Match ν)) : someTexts d ms = .ok (readable d ms) := by
  rcases h : someTexts d ms with e | texts
  · obtain ⟨_, m, _, _, -, -, hm⟩ := exists_of_someTexts_error h
    simp only [someTexts] at hm
    split at hm
    · cases hm
    · cases hm
    · rename_i e' hne he
      obtain ⟨cause, rfl⟩ := exists_cause_of_textOf_error hread he
      exact absurd rfl (hne cause)
  · exact congrArg Except.ok (Binder.textsOf_eq_ok (show textsOf d .drop ms = .ok texts from h)).1

/-- A strict list fails with the first match that has no text. -/
theorem exists_of_allTexts_error {ms : List (Match ν)} {e : Failure}
    (h : allTexts d ms = .error e) : ∃ before m after, ms = before ++ m :: after ∧
      (∀ m' ∈ before, ∃ s, textOf d m' = .ok s) ∧ textOf d m = .error e := by
  induction ms with
  | nil => cases h
  | cons m ms ih =>
    rcases hm : textOf d m with e' | s
    · rw [allTexts, hm] at h
      cases h
      exact ⟨[], m, ms, rfl, by simp, hm⟩
    · rcases hms : allTexts d ms with e' | rest
      · rw [allTexts, hm, hms] at h
        cases h
        obtain ⟨before, m', after, rfl, hbefore, hm'⟩ := ih hms
        exact ⟨m :: before, m', after, rfl, List.forall_mem_cons.2 ⟨⟨s, hm⟩, hbefore⟩, hm'⟩
      · rw [allTexts, hm, hms] at h
        cases h

theorem fst_coerce_allTexts (hshape : f.shape = some shape) (hkind : shape.kind = .stringList)
    (ms : List (Match ν)) (w : World ν) : ((coerce d nested .error f ms).run.run w).1 =
      (allTexts d ms).map textList := by
  obtain ⟨log, hrun⟩ := run_stringList d f .error "" ms w
  rw [coerce_texts hshape hkind, hrun]
  rfl

/-- Matches without a text are missing among the readable ones. -/
theorem length_readable_lt_iff {ms : List (Match ν)} :
    (readable d ms).length < ms.length ↔ ∃ e, allTexts d ms = .error e := by
  rw [readable, List.length_filterMap_lt_length_iff_exists]
  constructor
  · rintro ⟨m, hm, hnone⟩
    rcases h : allTexts d ms with e | texts
    · exact ⟨e, rfl⟩
    · have htexts : textsOf d .error ms = .ok texts := h
      rcases (Binder.textsOf_eq_ok htexts).2 m hm with ⟨s, hs⟩ | ⟨hpolicy, -⟩
      · rw [hs] at hnone
        cases hnone
      · cases hpolicy
  · rintro ⟨e, h⟩
    obtain ⟨before, m, after, rfl, -, hm⟩ := exists_of_allTexts_error h
    exact ⟨m, by simp, by rw [hm]; rfl⟩

theorem leavesOut_texts (hshape : f.shape = some shape) (hkind : shape.kind = .stringList)
    (hread : ∀ n e, d.nodeText n = .error e → ∃ query reason, e = .field (.query query reason)) :
    LeavesOut d (coerce d nested .error f) (coerce d nested .drop f) where
  never_fails := by
    intro ms w
    obtain ⟨log, hrun⟩ := run_coerce_someTexts d nested hshape hkind ms w
    rw [someTexts_eq_readable hread] at hrun
    exact ⟨log, hrun⟩
  agrees := by
    intro ms w v h
    obtain ⟨log, hrun⟩ := run_coerce_someTexts d nested hshape hkind ms w
    rw [fst_coerce_allTexts hshape hkind] at h
    obtain ⟨texts, htexts, rfl⟩ := map_eq_ok.1 h
    have htexts' : textsOf d .error ms = .ok texts := htexts
    rw [hrun, someTexts_eq_readable hread, (Binder.textsOf_eq_ok htexts').1]
    rfl
  fails_iff := by
    intro ms w
    rw [fst_coerce_allTexts hshape hkind, length_readable_lt_iff]
    simp only [map_eq_error]
  fails_first := by
    intro ms w e h
    rw [fst_coerce_allTexts hshape hkind, map_eq_error] at h
    obtain ⟨before, m, after, hms, hbefore, hm⟩ := exists_of_allTexts_error h
    obtain ⟨cause, he⟩ := exists_cause_of_textOf_error hread hm
    exact ⟨before, m, after, cause, hms, hbefore, hm, he⟩

/-! ## The law of lists -/

/-- A field that holds a list is coerced match by match: the list over two runs of matches is that
of the first and then that of the second, up to the first match that fails. A list of structures,
and a list of texts under the strict policy, has one item for each match, in its place. When nodes
can only be refused, a lenient list of texts never fails: it holds the texts of the matches that
have one, in order; and a strict list either is the same, or fails because the lenient one is
shorter than the matches, with the conversion of the first match that is left out. -/
theorem a_list_is_coerced_match_by_match (d : Document ν) (nested : Target → ν → Run ν Value)
    {f : FieldSpec} {shape : TargetShape} (hshape : f.shape = some shape)
    (hlist : shape.kind = .stringList ∨ shape.kind = .nestedList) :
    (∀ policy, GoesAlong (coerce d nested policy f)) ∧
    (∀ policy, shape.kind = .nestedList ∨ policy = .error →
      KeepsPlaces (coerce d nested policy f)) ∧
    (shape.kind = .stringList →
      (∀ n e, d.nodeText n = .error e → ∃ query reason, e = .field (.query query reason)) →
      LeavesOut d (coerce d nested .error f) (coerce d nested .drop f)) := by
  rcases hlist with hkind | hkind
  · refine ⟨fun policy => ?_, fun policy hpolicy => ?_, fun _ => leavesOut_texts hshape hkind⟩
    · cases policy with
      | error => exact (consecutive_texts hshape hkind).goesAlong
      | drop => exact goesAlong_someTexts hshape hkind
    · rcases hpolicy with hnested | rfl
      · rw [hkind] at hnested
        cases hnested
      · exact (consecutive_texts hshape hkind).keepsPlaces
  · have hconsecutive (policy : StringListPolicy) : Consecutive (coerce d nested policy f) :=
      consecutive_structures hshape hkind
    refine ⟨fun policy => (hconsecutive policy).goesAlong,
      fun policy _ => (hconsecutive policy).keepsPlaces, fun htexts => ?_⟩
    rw [hkind] at htexts
    cases htexts

/-- Two shop signs, one of which is dark and has no text. -/
def signs : Document Bool :=
  ⟨fun _ _ => .ok [], fun lit =>
    if lit then .ok "open" else .error (.field (.query none "sign has no text")), 2⟩

/-- A field for the texts of signs. -/
def signTexts : FieldSpec :=
  ⟨.name "signs", .required, some "//sign", some ⟨.stringList, none⟩, none, none⟩

def signsFound : List (Match Bool) := [.text "sale", .node false, .other (.int 1), .node true]

theorem the_dark_sign_is_left_out :
    (∃ log, (coerce signs (fun _ _ => throw .endless) .drop signTexts signsFound).run.run
      ⟨.empty, [], .initial .standard, []⟩ =
        (.ok (textList ["sale", "open"]), ⟨.empty, [], log, []⟩)) ∧
    ∃ e, ((coerce signs (fun _ _ => throw .endless) .error signTexts signsFound).run.run
      ⟨.empty, [], .initial .standard, []⟩).1 = .error e := by
  have hread : ∀ n e, signs.nodeText n = .error e →
      ∃ query reason, e = .field (.query query reason) := by
    intro n e h
    cases n with
    | false =>
      cases h
      exact ⟨none, _, rfl⟩
    | true => cases h
  have hlist := a_list_is_coerced_match_by_match signs (fun _ _ => throw .endless)
    (f := signTexts) rfl (.inl rfl)
  have hleaves := hlist.2.2 rfl hread
  refine ⟨hleaves.never_fails signsFound _, (hleaves.fails_iff signsFound _).2 ?_⟩
  decide

end Coercion

end QueryBinding
