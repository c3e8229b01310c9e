-- Values that differ in the order of fields. An instance with its fields in
-- another order holds the same in every field, at every depth. Validation is
-- blind to that order, unless it takes an instance apart into its fields.
import QueryBinding.Proofs.OwnValues

namespace QueryBinding

/-! ## Results that are alike -/

/-- Both end with values that are related, or both fail. -/
def EndsAlike {ε ε' α β : Type} (R : α → β → Prop) : Except ε α → Except ε' β → Prop
  | .ok a, .ok b => R a b
  | .error _, .error _ => True
  | _, _ => False

namespace EndsAlike

variable {ε ε' α α' β β' : Type} {R : α → β → Prop} {R' : α' → β' → Prop} {x : Except ε α}
  {y : Except ε' β}

theorem mono {S : α → β → Prop} (h : EndsAlike R x y) (hRS : ∀ a b, R a b → S a b) :
    EndsAlike S x y := by
  cases x <;> cases y
  · trivial
  · exact h
  · exact h
  · exact hRS _ _ h

theorem bind (h : EndsAlike R x y) {f : α → Except ε α'} {g : β → Except ε' β'}
    (hfg : ∀ a b, R a b → EndsAlike R' (f a) (g b)) : EndsAlike R' (x >>= f) (y >>= g) := by
  cases x <;> cases y
  · trivial
  · exact h.elim
  · exact h.elim
  · exact hfg _ _ h

theorem map (h : EndsAlike R x y) {f : α → α'} {g : β → β'} (hfg : ∀ a b, R a b → R' (f a) (g b)) :
    EndsAlike R' (x.map f) (y.map g) := by
  cases x <;> cases y
  · trivial
  · exact h.elim
  · exact h.elim
  · exact hfg _ _ h

theorem mapError {δ δ' : Type} (f : ε → δ) (g : ε' → δ') (h : EndsAlike R x y) :
    EndsAlike R (x.mapError f) (y.mapError g) := by
  cases x <;> cases y <;> exact h

theorem located {x : Validation.Checked α} {y : Validation.Checked β} (at_ at' : Path)
    (h : EndsAlike R x y) : EndsAlike R (Validation.located at_ x) (Validation.located at' y) := by
  cases x <;> cases y <;> exact h

theorem of_eq {R : α → α → Prop} (hR : ∀ a, R a a) {x y : Except ε α} (h : x = y) :
    EndsAlike R x y := by
  subst h
  cases x with
  | error e => trivial
  | ok a => exact hR a

theorem and_left {P : α → Prop} (h : EndsAlike R x y) (hP : ∀ a, x = .ok a → P a) :
    EndsAlike (fun a b => R a b ∧ P a) x y := by
  cases x <;> cases y
  · trivial
  · exact h
  · exact h
  · exact ⟨h, hP _ rfl⟩

theorem exists_right (h : EndsAlike R x y) {a : α} (hx : x = .ok a) : ∃ b, y = .ok b ∧ R a b := by
  subst hx
  cases y with
  | error e => exact h.elim
  | ok b => exact ⟨b, rfl, h⟩

theorem exists_left (h : EndsAlike R x y) {b : β} (hy : y = .ok b) : ∃ a, x = .ok a ∧ R a b := by
  subst hy
  cases x with
  | error e => exact h.elim
  | ok a => exact ⟨a, rfl, h⟩

theorem of_ok (h : ∀ a, x = .ok a → ∃ b, y = .ok b ∧ R a b) (h' : ∀ b, y = .ok b → ∃ a, x = .ok a) :
    EndsAlike R x y := by
  rcases x with e | a
  · rcases y with e' | b
    · trivial
    · obtain ⟨a, ha⟩ := h' b rfl
      cases ha
  · obtain ⟨b, rfl, hab⟩ := h a rfl
    exact hab

end EndsAlike

/-! ## Instances in another order -/

namespace Value

mutual

/-- The values are the same, but that instances may have their fields in another order. -/
def Rearranged : Value → Value → Prop
  | list vs, w => ∃ ws, w = list ws ∧ RearrangedItems vs ws
  | tuple vs, w => ∃ ws, w = tuple ws ∧ RearrangedItems vs ws
  | mapping es, w => ∃ gs, w = mapping gs ∧ RearrangedEntries es gs
  | record m es, w => ∃ gs, w = record m gs ∧ ∃ hs, gs.Perm hs ∧ RearrangedEntries es hs
  | rooted m v, w => ∃ u, w = rooted m u ∧ Rearranged v u
  | v, w => w = v

def RearrangedItems : List Value → List Value → Prop
  | [], ws => ws = []
  | v :: vs, ws => ∃ u us, ws = u :: us ∧ Rearranged v u ∧ RearrangedItems vs us

/-- Entry by entry under the same keys. -/
def RearrangedEntries : List (String × Value) → List (String × Value) → Prop
  | [], gs => gs = []
  | (k, v) :: es, gs => ∃ u us, gs = (k, u) :: us ∧ Rearranged v u ∧ RearrangedEntries es us

end

theorem rearrangedItems_iff {vs ws : List Value} :
    RearrangedItems vs ws ↔ List.Forall₂ Rearranged vs ws := by
  induction vs generalizing ws with
  | nil => rw [RearrangedItems, List.forall₂_nil_left_iff]
  | cons v vs ih =>
    rw [RearrangedItems, List.forall₂_cons_left_iff]
    simp only [ih]
    constructor
    · rintro ⟨u, us, rfl, hv, hvs⟩
      exact ⟨u, us, hv, hvs, rfl⟩
    · rintro ⟨u, us, hv, hvs, rfl⟩
      exact ⟨u, us, rfl, hv, hvs⟩

/-- An entry under the same key. -/
def RearrangedEntry (e g : String × Value) : Prop := g.1 = e.1 ∧ e.2.Rearranged g.2

theorem rearrangedEntries_iff {es gs : List (String × Value)} :
    RearrangedEntries es gs ↔ List.Forall₂ RearrangedEntry es gs := by
  induction es generalizing gs with
  | nil => rw [RearrangedEntries, List.forall₂_nil_left_iff]
  | cons e es ih =>
    obtain ⟨k, v⟩ := e
    rw [RearrangedEntries, List.forall₂_cons_left_iff]
    simp only [ih]
    constructor
    · rintro ⟨u, us, rfl, hv, hes⟩
      exact ⟨(k, u), us, ⟨rfl, hv⟩, hes, rfl⟩
    · rintro ⟨⟨k', u⟩, us, ⟨rfl, hv⟩, hes, rfl⟩
      exact ⟨u, us, rfl, hv, hes⟩

mutual

theorem rearranged_self : ∀ v : Value, v.Rearranged v
  | list vs => ⟨vs, rfl, rearrangedItems_self vs⟩
  | tuple vs => ⟨vs, rfl, rearrangedItems_self vs⟩
  | mapping es => ⟨es, rfl, rearrangedEntries_self es⟩
  | record m es => ⟨es, rfl, es, .refl es, rearrangedEntries_self es⟩
  | rooted m v => ⟨v, rfl, rearranged_self v⟩
  | none | bool _ | int _ | float _ | decimal _ | text _ | bytes _ => by rfl

theorem rearrangedItems_self : ∀ vs : List Value, RearrangedItems vs vs
  | [] => by rfl
  | v :: vs => ⟨v, vs, rfl, rearranged_self v, rearrangedItems_self vs⟩

theorem rearrangedEntries_self : ∀ es : List (String × Value), RearrangedEntries es es
  | [] => by rfl
  | (_, v) :: es => ⟨v, es, rfl, rearranged_self v, rearrangedEntries_self es⟩

end

/-- The forms that rearranged values can have. -/
inductive RearrangedForm : Value → Value → Prop
  | same (v : Value) : RearrangedForm v v
  | list {vs ws : List Value} (h : List.Forall₂ Rearranged vs ws) :
      RearrangedForm (list vs) (list ws)
  | tuple {vs ws : List Value} (h : List.Forall₂ Rearranged vs ws) :
      RearrangedForm (tuple vs) (tuple ws)
  | mapping {es gs : List (String × Value)} (h : List.Forall₂ RearrangedEntry es gs) :
      RearrangedForm (mapping es) (mapping gs)
  | record {es gs hs : List (String × Value)} (m : String) (hperm : gs.Perm hs)
      (h : List.Forall₂ RearrangedEntry es hs) : RearrangedForm (record m es) (record m gs)
  | rooted {v w : Value} (m : String) (h : v.Rearranged w) :
      RearrangedForm (rooted m v) (rooted m w)

theorem Rearranged.form {v w : Value} (h : v.Rearranged w) : RearrangedForm v w := by
  cases v with
  | list vs =>
    obtain ⟨ws, rfl, h⟩ := h
    exact .list (rearrangedItems_iff.1 h)
  | tuple vs =>
    obtain ⟨ws, rfl, h⟩ := h
    exact .tuple (rearrangedItems_iff.1 h)
  | mapping es =>
    obtain ⟨gs, rfl, h⟩ := h
    exact .mapping (rearrangedEntries_iff.1 h)
  | record m es =>
    obtain ⟨gs, rfl, hs, hperm, h⟩ := h
    exact .record m hperm (rearrangedEntries_iff.1 h)
  | rooted m v =>
    obtain ⟨u, rfl, h⟩ := h
    exact .rooted m h
  | _ =>
    cases h
    exact .same _

theorem rearranged_list {vs ws : List Value} (h : List.Forall₂ Rearranged vs ws) :
    (list vs).Rearranged (list ws) := ⟨ws, rfl, rearrangedItems_iff.2 h⟩

theorem rearranged_tuple {vs ws : List Value} (h : List.Forall₂ Rearranged vs ws) :
    (tuple vs).Rearranged (tuple ws) := ⟨ws, rfl, rearrangedItems_iff.2 h⟩

theorem rearranged_mapping {es gs : List (String × Value)}
    (h : List.Forall₂ RearrangedEntry es gs) : (mapping es).Rearranged (mapping gs) :=
  ⟨gs, rfl, rearrangedEntries_iff.2 h⟩

theorem rearranged_record {es gs hs : List (String × Value)} (m : String) (hperm : gs.Perm hs)
    (h : List.Forall₂ RearrangedEntry es hs) : (record m es).Rearranged (record m gs) :=
  ⟨gs, rfl, hs, hperm, rearrangedEntries_iff.2 h⟩

theorem rearranged_rooted {v w : Value} (m : String) (h : v.Rearranged w) :
    (rooted m v).Rearranged (rooted m w) := ⟨w, rfl, h⟩

/-- The values are the same, or else they are rearranged and the first has a property. -/
def RearrangedIf (P : Value → Prop) (v w : Value) : Prop := v = w ∨ v.Rearranged w ∧ P v

variable {P Q : Value → Prop} {v w : Value}

theorem RearrangedIf.rearranged (h : v.RearrangedIf P w) : v.Rearranged w := by
  rcases h with rfl | ⟨h, -⟩
  · exact v.rearranged_self
  · exact h

theorem RearrangedIf.mono (h : v.RearrangedIf P w) (hPQ : P v → Q v) : v.RearrangedIf Q w :=
  h.imp_right fun h => ⟨h.1, hPQ h.2⟩

end Value

namespace Validation

/-! ## What is blind to the order -/

theorem sizeOfEntries_perm {es gs : List (String × Value)} (h : es.Perm gs) :
    sizeOfEntries es = sizeOfEntries gs := by
  have hsum : ∀ es : List (String × Value),
      sizeOfEntries es = (es.map fun e => sizeOf e.2).sum := by
    intro es
    induction es with
    | nil => rfl
    | cons e es ih => rw [sizeOfEntries, List.map_cons, List.sum_cons, ih]
  rw [hsum, hsum, (h.map _).sum_eq]

mutual

theorem sizeOf_rearranged : ∀ v w : Value, v.Rearranged w → sizeOf v = sizeOf w
  | .list vs, _, ⟨ws, rfl, h⟩ => congrArg (1 + ·) (sizeOfItems_rearranged vs ws h)
  | .tuple vs, _, ⟨ws, rfl, h⟩ => congrArg (1 + ·) (sizeOfItems_rearranged vs ws h)
  | .mapping es, _, ⟨gs, rfl, h⟩ => congrArg (1 + ·) (sizeOfEntries_rearranged es gs h)
  | .record m es, _, ⟨gs, rfl, hs, hperm, h⟩ =>
    congrArg (1 + ·) ((sizeOfEntries_rearranged es hs h).trans (sizeOfEntries_perm hperm).symm)
  | .rooted m v, _, ⟨u, rfl, h⟩ => congrArg (1 + ·) (sizeOf_rearranged v u h)
  | .none, _, rfl | .bool _, _, rfl | .int _, _, rfl | .float _, _, rfl | .decimal _, _, rfl
  | .text _, _, rfl | .bytes _, _, rfl => by rfl

theorem sizeOfItems_rearranged : ∀ vs ws : List Value, Value.RearrangedItems vs ws →
    sizeOfItems vs = sizeOfItems ws
  | [], _, rfl => by rfl
  | v :: vs, _, ⟨u, us, rfl, hv, hvs⟩ =>
    congrArg₂ (· + ·) (sizeOf_rearranged v u hv) (sizeOfItems_rearranged vs us hvs)

theorem sizeOfEntries_rearranged : ∀ es gs : List (String × Value), Value.RearrangedEntries es gs →
    sizeOfEntries es = sizeOfEntries gs
  | [], _, rfl => by rfl
  | (_, v) :: es, _, ⟨u, us, rfl, hv, hes⟩ =>
    congrArg₂ (· + ·) (sizeOf_rearranged v u hv) (sizeOfEntries_rearranged es us hes)

end

theorem all_eq_of_forall₂ {α : Type} {p : α → Bool} {as bs : List α}
    (h : List.Forall₂ (fun a b => p a = p b) as bs) : as.all p = bs.all p := by
  induction h with
  | nil => rfl
  | cons hab _ ih => rw [List.all_cons, List.all_cons, hab, ih]

theorem attach_all {α : Type} (p : α → Bool) (as : List α) :
    (as.attach.all fun a => p a.1) = as.all p := by
  have h : (as.attach.map Subtype.val).all p = as.all p := by rw [List.attach_map_subtype_val]
  rw [← h, List.all_map]
  rfl

/-- Whether a value is of a type just as it is does not depend on the order of fields. -/
theorem isExact_rearranged (a : FieldType) {v w : Value} (h : v.Rearranged w) :
    isExact a v = isExact a w := by
  have hitems : ∀ item vs ws, List.Forall₂ Value.Rearranged vs ws →
      (∀ v w, v.Rearranged w → isExact item v = isExact item w) →
      (vs.attach.all fun v => isExact item v.1) = ws.attach.all fun v => isExact item v.1 := by
    intro item vs ws h hitem
    rw [attach_all, attach_all]
    exact all_eq_of_forall₂ (h.imp hitem)
  cases h.form with
  | same => rfl
  | list hvs =>
    cases a with
    | list item => exact hitems item _ _ hvs fun v w => isExact_rearranged item
    | _ => rfl
  | tuple hvs =>
    cases a with
    | tuple item => exact hitems item _ _ hvs fun v w => isExact_rearranged item
    | _ => rfl
  | mapping hes =>
    cases a with
    | mapping item =>
      rw [isExact, isExact, attach_all fun e : String × Value => isExact item e.2,
        attach_all fun e : String × Value => isExact item e.2]
      exact all_eq_of_forall₂ (hes.imp fun e g he => isExact_rearranged item he.2)
    | _ => rfl
  | record m => cases a <;> rfl
  | rooted m => cases a <;> rfl

/-- Limits are about numbers, texts and lengths. -/
theorem keepsLimits_rearranged (limits : Limits) {v w : Value} (h : v.Rearranged w) :
    EndsAlike (fun v' w' => v' = v ∧ w' = w) (keepsLimits limits v) (keepsLimits limits w) := by
  have hbound : boundIssue? limits v = boundIssue? limits w := by
    cases h.form <;> rfl
  have hlength : lengthIssue? limits v = lengthIssue? limits w := by
    cases h.form with
    | list hvs => rw [lengthIssue?, lengthIssue?, hvs.length_eq]
    | _ => rfl
  unfold keepsLimits
  rw [hlength, hbound]
  rcases (lengthIssue? limits w).or (boundIssue? limits w) with _ | i
  · exact ⟨rfl, rfl⟩
  · trivial

theorem holds_rearranged (rule : FieldRule) {v w : Value} (h : v.Rearranged w) :
    FieldRule.holds rule v = FieldRule.holds rule w := by
  cases rule with
  | never => rfl
  | lowercase => cases h.form <;> rfl
  | nonempty =>
    cases h.form with
    | list hvs => cases hvs <;> rfl
    | tuple hvs => cases hvs <;> rfl
    | mapping hes => cases hes <;> rfl
    | _ => rfl
  | custom revise => rfl

/-- Only a check of one's own can see the order of fields. -/
theorem revised?_rearranged {rule : FieldRule} {earlier earlier' : Entries} {v w : Value}
    (h : v.Rearranged w) (hcustom : ∀ revise, rule = .custom revise →
      Option.Rel Value.Rearranged (revise earlier v) (revise earlier' w)) :
    Option.Rel Value.Rearranged (FieldRule.revised? rule earlier v)
      (FieldRule.revised? rule earlier' w) := by
  have hbuiltin : Option.Rel Value.Rearranged (if FieldRule.holds rule v then some v else none)
      (if FieldRule.holds rule w then some w else none) := by
    rw [holds_rearranged rule h]
    split
    · exact .some h
    · exact .none
  cases rule with
  | custom revise => exact hcustom revise rfl
  | _ => exact hbuiltin

theorem passChecks_rearranged {checks : List FieldCheck} {earlier earlier' : Entries}
    (hcustom : ∀ c ∈ checks, ∀ revise, c.rule = .custom revise → ∀ v w, v.Rearranged w →
      Option.Rel Value.Rearranged (revise earlier v) (revise earlier' w))
    {v w : Value} (h : v.Rearranged w) :
    EndsAlike Value.Rearranged (passChecks earlier checks v) (passChecks earlier' checks w) := by
  induction checks generalizing v w with
  | nil => exact h
  | cons c checks ih =>
    have hrevised := revised?_rearranged h fun revise hc =>
      hcustom c List.mem_cons_self revise hc v w h
    rw [passChecks, passChecks]
    generalize FieldRule.revised? c.rule earlier v = x at hrevised ⊢
    generalize FieldRule.revised? c.rule earlier' w = y at hrevised ⊢
    cases hrevised with
    | none => trivial
    | some hvw => exact ih (fun c hc => hcustom c (List.mem_cons_of_mem _ hc)) hvw

end Validation

end QueryBinding
