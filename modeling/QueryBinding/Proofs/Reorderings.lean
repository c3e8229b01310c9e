-- Validation of rearranged values. Models whose fields are declared in another
-- order make rearranged values into rearranged values, or refuse both, unless
-- an instance is read as the list of its fields.
import QueryBinding.Proofs.Rearranged
import QueryBinding.Proofs.Typing

namespace QueryBinding

namespace Validation

/-! ## Instances that are taken apart -/

/-- To make a value into a declared type, an instance is read as the list or tuple of its fields. -/
inductive TakesApart (family : Family) : FieldType → Value → Prop
  | bare (m : String) (fields : List (String × Value)) :
      TakesApart family .bareList (.record m fields)
  | list (item : FieldType) (m : String) (fields : List (String × Value)) :
      TakesApart family (.list item) (.record m fields)
  | tuple (item : FieldType) (m : String) (fields : List (String × Value)) :
      TakesApart family (.tuple item) (.record m fields)
  | listItem {item : FieldType} {v x : Value} {items : List Value} (hv : itemsOf? v = some items)
      (hx : x ∈ items) (h : TakesApart family item x) : TakesApart family (.list item) v
  | tupleItem {item : FieldType} {v x : Value} {items : List Value} (hv : itemsOf? v = some items)
      (hx : x ∈ items) (h : TakesApart family item x) : TakesApart family (.tuple item) v
  | entry {item : FieldType} {entries : List (String × Value)} {e : String × Value}
      (he : e ∈ entries) (h : TakesApart family item e.2) :
      TakesApart family (.mapping item) (.mapping entries)
  | member {long : Bool} {members : List FieldType} {a : FieldType} {v : Value} (ha : a ∈ members)
      (h : TakesApart family a v) : TakesApart family (.union long members) v
  | wrapped {name : String} {m : Model} {f : FieldDecl} {v : Value}
      (hm : family.model? name = some m) (hw : m.wraps = true) (hf : m.fields.head? = some f)
      (hv : ¬ v.IsInstance name) (h : TakesApart family f.type v) :
      TakesApart family (.model name) v
  | field {name : String} {m : Model} {f : FieldDecl} {data : Entries} {steps : Path} {v : Value}
      (hm : family.model? name = some m) (hw : m.wraps = false) (hf : f ∈ m.fields)
      (hv : find? m f data = some (steps, v)) (h : TakesApart family f.type v) :
      TakesApart family (.model name) (.mapping data)

/-- Validation cannot tell the values apart by the order of fields: they are the same, or else
rearranged and not taken apart. -/
def Kept (family : Family) (a : FieldType) : Value → Value → Prop :=
  Value.RearrangedIf fun v => ¬ TakesApart family a v

variable {family : Family} {a : FieldType} {v w : Value}

theorem Kept.rearranged (h : Kept family a v w) : v.Rearranged w := Value.RearrangedIf.rearranged h

/-- What is kept by one type is kept by another that takes no more apart. -/
theorem Kept.mono {a' : FieldType} {v w : Value} (h : Kept family a v w)
    (ha : TakesApart family a' v → TakesApart family a v) : Kept family a' v w :=
  Value.RearrangedIf.mono h (mt ha)

/-! ## Declared types -/

/-- Two ways to build instances that do the same to values that differ in the order of fields. -/
def BuildsAlike (family : Family) (build build' : Build) : Prop :=
  ∀ name v w, ¬ v.IsInstance name → Kept family (.model name) v w →
    EndsAlike Value.Rearranged (build name v) (build' name w)

theorem endsAlike_collect {α β : Type} {R : α → β → Prop} {rs : List (Checked α)}
    {ss : List (Checked β)} (h : List.Forall₂ (EndsAlike R) rs ss) :
    EndsAlike (List.Forall₂ R) (collect rs) (collect ss) := by
  induction h with
  | nil => exact .nil
  | @cons r s rs ss hrs _ ih =>
    rcases r with is | a <;> rcases s with is' | b
    · rcases hc : collect rs <;> rcases hc' : collect ss <;>
        simp only [collect, hc, hc'] <;> trivial
    · exact hrs.elim
    · exact hrs.elim
    · rcases hc : collect rs <;> rcases hc' : collect ss <;> rw [hc, hc'] at ih <;>
        simp only [collect, hc, hc']
      · trivial
      · exact ih.elim
      · exact ih.elim
      · exact .cons hrs ih

/-- Without an instance that gives its fields, the items are alike. -/
theorem itemsOf?_rearranged (h : v.Rearranged w) (hv : ∀ m fields, v ≠ .record m fields) :
    Option.Rel (List.Forall₂ Value.Rearranged) (itemsOf? v) (itemsOf? w) := by
  have hsame : ∀ vs, List.Forall₂ Value.Rearranged vs vs := fun vs =>
    Value.rearrangedItems_iff.1 (Value.rearrangedItems_self vs)
  cases h.form with
  | same =>
    rcases itemsOf? v with _ | items
    · exact .none
    · exact .some (hsame items)
  | list hvs => exact .some hvs
  | tuple hvs => exact .some hvs
  | mapping => exact .none
  | record m => exact absurd rfl (hv m _)
  | rooted m hroot =>
    refine .some (.cons (Value.rearranged_tuple ?_) .nil)
    exact .cons (Value.rearranged_self _) (.cons hroot .nil)

/-- The items of a value that is kept are kept. -/
theorem itemsOf?_kept {item : FieldType} (h : Kept family a v w)
    (hrecord : ∀ m fields, TakesApart family a (.record m fields))
    (hitem : ∀ items x, itemsOf? v = some items → x ∈ items → TakesApart family item x →
      TakesApart family a v) :
    Option.Rel (List.Forall₂ (Kept family item)) (itemsOf? v) (itemsOf? w) := by
  rcases h with rfl | ⟨h, hkept⟩
  · rcases itemsOf? v with _ | items
    · exact .none
    · exact .some (List.forall₂_same.2 fun x _ => .inl rfl)
  · have hrel := itemsOf?_rearranged h fun m fields hv => hkept (hv ▸ hrecord m fields)
    rcases hv : itemsOf? v with _ | items <;> rcases hw : itemsOf? w with _ | items' <;>
      rw [hv, hw] at hrel <;> cases hrel
    · exact .none
    · rename_i hitems
      refine .some (List.forall₂_iff_zip.2 ⟨hitems.length_eq, fun hx => ?_⟩)
      refine .inr ⟨List.forall₂_zip hitems hx, fun hpart => hkept ?_⟩
      exact hitem items _ hv (List.of_mem_zip hx).1 hpart

/-- The entries of a mapping that is kept are kept. -/
theorem mapping_kept {item : FieldType} (h : Kept family (.mapping item) v w) :
    (∃ es gs, v = .mapping es ∧ w = .mapping gs ∧
      List.Forall₂ (fun e g => g.1 = e.1 ∧ Kept family item e.2 g.2) es gs) ∨
    (∀ es, v ≠ .mapping es) ∧ ∀ gs, w ≠ .mapping gs := by
  have hsame : ∀ es : List (String × Value),
      List.Forall₂ (fun e g => g.1 = e.1 ∧ Kept family item e.2 g.2) es es := fun es =>
    List.forall₂_same.2 fun e _ => ⟨rfl, .inl rfl⟩
  cases h.rearranged.form with
  | same =>
    cases v with
    | mapping es => exact .inl ⟨es, es, rfl, rfl, hsame es⟩
    | _ => exact .inr ⟨nofun, nofun⟩
  | @mapping es gs hes =>
    rcases h with heq | ⟨-, hkept⟩
    · cases heq
      exact .inl ⟨es, es, rfl, rfl, hsame es⟩
    · refine .inl ⟨es, gs, rfl, rfl, List.forall₂_iff_zip.2 ⟨hes.length_eq, fun hx => ?_⟩⟩
      obtain ⟨hkey, hvalue⟩ := List.forall₂_zip hes hx
      exact ⟨hkey, .inr ⟨hvalue, fun hpart => hkept (.entry (List.of_mem_zip hx).1 hpart)⟩⟩
  | _ => exact .inr ⟨nofun, nofun⟩

theorem forall₂_zipIdx {α β : Type} {R : α → β → Prop} {as : List α} {bs : List β}
    (h : List.Forall₂ R as bs) (k : Nat) :
    List.Forall₂ (fun p q => R p.1 q.1 ∧ q.2 = p.2) (as.zipIdx k) (bs.zipIdx k) := by
  induction h generalizing k with
  | nil => exact .nil
  | cons hab _ ih =>
    rw [List.zipIdx_cons, List.zipIdx_cons]
    exact .cons ⟨hab, rfl⟩ (ih (k + 1))

section

variable {build build' : Build}

/-- Items are checked alike if each item is. -/
theorem endsAlike_items {item : FieldType} {wrap : List Value → Value} {issue : Issue}
    (hwrap : ∀ vs ws, List.Forall₂ Value.Rearranged vs ws → (wrap vs).Rearranged (wrap ws))
    (hitem : ∀ v w, Kept family item v w →
      EndsAlike Value.Rearranged (check build item v) (check build' item w))
    {items items' : Option (List Value)}
    (h : Option.Rel (List.Forall₂ (Kept family item)) items items') :
    EndsAlike Value.Rearranged
      (match items with
        | some items => (collect (items.zipIdx.map fun (x, i) =>
            located [.position i] (check build item x))).map wrap
        | none => reject issue)
      (match items' with
        | some items => (collect (items.zipIdx.map fun (x, i) =>
            located [.position i] (check build' item x))).map wrap
        | none => reject issue) := by
  cases h with
  | none => trivial
  | some h =>
    refine EndsAlike.map (endsAlike_collect ?_) hwrap
    rw [List.forall₂_map_left_iff, List.forall₂_map_right_iff]
    exact (forall₂_zipIdx h 0).imp fun p q hpq => (hitem p.1 q.1 hpq.1).located _ _

theorem isInstance_rearranged (h : v.Rearranged w) (name : String) :
    v.IsInstance name ↔ w.IsInstance name := by
  cases h.form <;> exact Iff.rfl

theorem check_model_of_not_isInstance {name : String} (h : ¬ v.IsInstance name) :
    check build (.model name) v = build name v := by
  have hne : ∀ m, m ≠ name → (m == name) = false := fun m hm => beq_eq_false_iff_ne.2 hm
  cases v with
  | record m fields => simp only [check, hne m h, Bool.false_eq_true, if_false]
  | rooted m root => simp only [check, hne m h, Bool.false_eq_true, if_false]
  | _ => simp only [check]

variable {members : List FieldType}

theorem checkExact_alike (h : v.Rearranged w)
    (hmembers : ∀ a ∈ members, EndsAlike Value.Rearranged (check build a v) (check build' a w)) :
    Option.Rel Value.Rearranged (checkExact build members v) (checkExact build' members w) := by
  induction members with
  | nil =>
    rw [checkExact, checkExact]
    exact .none
  | cons a members ih =>
    have hrest := ih fun b hb => hmembers b (List.mem_cons_of_mem a hb)
    have hfirst := hmembers a List.mem_cons_self
    rw [checkExact, checkExact, isExact_rearranged a h]
    split
    · rcases hv : check build a v <;> rcases hw : check build' a w <;> rw [hv, hw] at hfirst
      · exact hrest
      · exact hfirst.elim
      · exact hfirst.elim
      · exact .some hfirst
    · exact hrest

theorem checkAny_alike (tagged : Bool)
    (hmembers : ∀ a ∈ members, EndsAlike Value.Rearranged (check build a v) (check build' a w)) :
    EndsAlike Value.Rearranged (checkAny build tagged members v)
      (checkAny build' tagged members w) := by
  induction members with
  | nil =>
    rw [checkAny, checkAny]
    trivial
  | cons a members ih =>
    have hrest := ih fun b hb => hmembers b (List.mem_cons_of_mem a hb)
    have hfirst := hmembers a List.mem_cons_self
    by_cases ha : a = .nothing
    · subst ha
      rw [checkAny, checkAny]
      exact hrest
    · rw [checkAny, checkAny]
      · have hlocated := hfirst.located (if tagged then [.name a.shortName] else [])
          (if tagged then [.name a.shortName] else [])
        rcases hv : located (if tagged then [.name a.shortName] else []) (check build a v) <;>
          rcases hw : located (if tagged then [.name a.shortName] else []) (check build' a w) <;>
          rw [hv, hw] at hlocated
        · rcases hv' : checkAny build tagged members v <;>
            rcases hw' : checkAny build' tagged members w <;> rw [hv', hw'] at hrest
          · trivial
          · exact hrest.elim
          · exact hrest.elim
          · exact hrest
        · exact hlocated.elim
        · exact hlocated.elim
        · exact hlocated
      · exact ha
      · exact ha

theorem checkMembers_alike (h : v.Rearranged w)
    (hmembers : ∀ a ∈ members, EndsAlike Value.Rearranged (check build a v) (check build' a w)) :
    EndsAlike Value.Rearranged (checkMembers build members v) (checkMembers build' members w) := by
  have hany := checkAny_alike (1 < (members.filter (!·.isNothing)).length) hmembers
  have hexact := checkExact_alike h hmembers
  rw [checkMembers, checkMembers]
  generalize checkExact build members v = x at hexact ⊢
  generalize checkExact build' members w = y at hexact ⊢
  cases hexact with
  | none => exact hany
  | some hvw => exact hvw

/-- A value that is kept is made into a declared type in both orders, or in neither. -/
theorem check_alike (hbuild : BuildsAlike family build build') (a : FieldType) (v w : Value)
    (h : Kept family a v w) : EndsAlike Value.Rearranged (check build a v) (check build' a w) := by
  have hform := h.rearranged.form
  cases a with
  | text =>
    have heq : checkText v = checkText w := by cases hform <;> rfl
    exact .of_eq Value.rearranged_self (by rw [check, check, heq])
  | integer =>
    have heq : checkInteger v = checkInteger w := by cases hform <;> rfl
    exact .of_eq Value.rearranged_self (by rw [check, check, heq])
  | real =>
    have heq : checkReal v = checkReal w := by cases hform <;> rfl
    exact .of_eq Value.rearranged_self (by rw [check, check, heq])
  | boolean =>
    have heq : checkBoolean v = checkBoolean w := by cases hform <;> rfl
    exact .of_eq Value.rearranged_self (by rw [check, check, heq])
  | bytes =>
    have heq : checkBytes v = checkBytes w := by cases hform <;> rfl
    exact .of_eq Value.rearranged_self (by rw [check, check, heq])
  | decimal =>
    have heq : checkDecimal v = checkDecimal w := by cases hform <;> rfl
    exact .of_eq Value.rearranged_self (by rw [check, check, heq])
  | anything =>
    rw [check, check]
    exact h.rearranged
  | nothing =>
    cases hform with
    | same => exact .of_eq Value.rearranged_self (by cases v <;> simp only [check])
    | _ =>
      simp only [check]
      trivial
  | bareList =>
    -- the items stay as they are, whatever they are
    have hitems : Option.Rel (List.Forall₂ (Kept family .anything)) (itemsOf? v) (itemsOf? w) :=
      itemsOf?_kept h .bare fun _ _ _ _ hx => by cases hx
    rw [check, check]
    generalize itemsOf? v = items at hitems ⊢
    generalize itemsOf? w = items' at hitems ⊢
    cases hitems with
    | none => trivial
    | some hitems => exact Value.rearranged_list (hitems.imp fun _ _ hx => hx.rearranged)
  | bareMapping =>
    cases hform with
    | same => exact .of_eq Value.rearranged_self (by cases v <;> simp only [check])
    | mapping hes =>
      simp only [check]
      exact Value.rearranged_mapping hes
    | _ =>
      simp only [check]
      trivial
  | list item =>
    rw [check, check]
    exact endsAlike_items (fun _ _ => Value.rearranged_list) (check_alike hbuild item)
      (itemsOf?_kept h (.list item) fun _ _ hv hx => .listItem hv hx)
  | tuple item =>
    rw [check, check]
    exact endsAlike_items (fun _ _ => Value.rearranged_tuple) (check_alike hbuild item)
      (itemsOf?_kept h (.tuple item) fun _ _ hv hx => .tupleItem hv hx)
  | mapping item =>
    rcases mapping_kept h with ⟨es, gs, rfl, rfl, hes⟩ | ⟨hv, hw⟩
    · rw [check, check]
      refine EndsAlike.map (endsAlike_collect ?_) fun _ _ => Value.rearranged_mapping
      rw [List.forall₂_map_left_iff, List.forall₂_map_right_iff]
      refine hes.imp fun e g heg => ?_
      refine EndsAlike.map ((check_alike hbuild item _ _ heg.2).located _ _) fun x y hxy => ?_
      exact ⟨heg.1, hxy⟩
    · rw [check, check]
      · trivial
      · exact hw
      · exact hv
  | model name =>
    by_cases hv : v.IsInstance name
    · have hw := (isInstance_rearranged h.rearranged name).1 hv
      rw [check_leaf (.inr ⟨name, rfl⟩) (isExact_model.2 hv),
        check_leaf (.inr ⟨name, rfl⟩) (isExact_model.2 hw)]
      exact h.rearranged
    · have hw := fun hw => hv ((isInstance_rearranged h.rearranged name).2 hw)
      rw [check_model_of_not_isInstance hv, check_model_of_not_isInstance hw]
      exact hbuild name v w hv h
  | union long members =>
    have hmembers := checkMembers_alike h.rearranged fun a ha =>
      check_alike hbuild a v w (h.mono (.member ha))
    have hunion : ∀ build u, u ≠ .none →
        check build (.union long members) u = checkMembers build members u := by
      intro build u hu
      cases u with
      | none => exact absurd rfl hu
      | _ => simp only [check]
    by_cases hv : v = .none
    · subst hv
      cases hform
      rw [check, check]
      split
      · trivial
      · exact hmembers
    · have hw : w ≠ .none := by
        rintro rfl
        cases hform
        exact hv rfl
      rw [hunion build v hv, hunion build' w hw]
      exact hmembers
termination_by SizeOf.sizeOf a

end

end Validation

/-! ## Models in another order -/

/-- The same model, with its fields declared in another order. -/
structure Model.Reordered (m m' : Model) : Prop where
  name : m'.name = m.name
  wraps : m'.wraps = m.wraps
  config : m'.config = m.config
  checks : m'.checks = m.checks
  fields : m.fields.Perm m'.fields

/-- The same models, each with its fields in any order. -/
def Family.Reordered (family family' : Family) : Prop := List.Forall₂ Model.Reordered family family'

theorem Family.Reordered.model? {family family' : Family} (h : family.Reordered family')
    (name : String) : Option.Rel Model.Reordered (family.model? name) (family'.model? name) := by
  induction h with
  | nil => exact .none
  | @cons m m' family family' hm _ ih =>
    unfold Family.model? at ih ⊢
    rw [List.find?_cons, List.find?_cons, hm.name]
    split
    · exact .some hm
    · exact ih

/-- What every declared model has: fields whose names differ, a single one if it wraps a value, and
no empty way to any of them. Nothing checks its instances as a whole. -/
structure Model.Regular (m : Model) : Prop where
  distinct : (m.fields.map (·.name)).Nodup
  single : m.wraps = true → ∃ f, m.fields = [f]
  led : ∀ f ∈ m.fields, ∀ way ∈ Validation.waysTo m f, way ≠ []
  whole : m.checks = []

theorem Model.Reordered.eq_of_single {m m' : Model} (h : m.Reordered m') {f : FieldDecl}
    (hf : m.fields = [f]) : m' = m := by
  have hfields : m'.fields = [f] := List.perm_singleton.1 (hf ▸ h.fields.symm)
  calc m' = ⟨m'.name, m'.fields, m'.wraps, m'.config, m'.checks⟩ := rfl
    _ = ⟨m.name, m.fields, m.wraps, m.config, m.checks⟩ := by
      rw [h.name, h.wraps, h.config, h.checks, hf, hfields]

theorem Model.Reordered.waysTo {m m' : Model} (h : m.Reordered m') (f : FieldDecl) :
    Validation.waysTo m' f = Validation.waysTo m f := by
  unfold Validation.waysTo Model.readsNames
  rw [h.config]

namespace Validation

/-! ## Ways into rearranged data -/

/-- Under every key lies the same but for the order of fields, or nothing at all. -/
def EntriesAlike (data data' : Entries) : Prop :=
  ∀ key, Option.Rel Value.Rearranged (data.lookup key) (data'.lookup key)

theorem entriesAlike_of_forall₂ {data data' : Entries}
    (h : List.Forall₂ Value.RearrangedEntry data data') : EntriesAlike data data' := by
  intro key
  induction h with
  | nil => exact .none
  | @cons e g data data' heg _ ih =>
    obtain ⟨k, v⟩ := e
    obtain ⟨k', w⟩ := g
    obtain ⟨hk : k' = k, hvw⟩ := heg
    subst hk
    rw [List.lookup_cons, List.lookup_cons]
    cases key == k' with
    | true => exact .some hvw
    | false => exact ih

theorem getElem?_forall₂ {α β : Type} {R : α → β → Prop} {as : List α} {bs : List β}
    (h : List.Forall₂ R as bs) (i : Nat) : Option.Rel R as[i]? bs[i]? := by
  induction h generalizing i with
  | nil => exact .none
  | cons hab _ ih =>
    cases i with
    | zero => exact .some hab
    | succ i => exact ih i

theorem itemAt?_rearranged {vs ws : List Value} (h : List.Forall₂ Value.Rearranged vs ws)
    (i : Int) : Option.Rel Value.Rearranged (itemAt? vs i) (itemAt? ws i) := by
  unfold itemAt?
  rw [h.length_eq]
  split
  · exact getElem?_forall₂ h _
  · split
    · exact getElem?_forall₂ h _
    · exact .none

theorem option_rel_self {α : Type} {R : α → α → Prop} (hR : ∀ a, R a a) (x : Option α) :
    Option.Rel R x x := by
  cases x with
  | none => exact .none
  | some a => exact .some (hR a)

theorem option_rel_mono {α β : Type} {R S : α → β → Prop} {x : Option α} {y : Option β}
    (h : Option.Rel R x y) (hRS : ∀ a b, R a b → S a b) : Option.Rel S x y := by
  cases h with
  | none => exact .none
  | some hab => exact .some (hRS _ _ hab)

theorem stepInto?_rearranged (h : v.Rearranged w) (s : Identifier) :
    Option.Rel Value.Rearranged (stepInto? v s) (stepInto? w s) := by
  cases h.form with
  | same => exact option_rel_self Value.rearranged_self _
  | list hvs =>
    cases s with
    | name key => exact .none
    | position i => exact itemAt?_rearranged hvs i
  | tuple hvs =>
    cases s with
    | name key => exact .none
    | position i => exact itemAt?_rearranged hvs i
  | mapping hes =>
    cases s with
    | name key => exact entriesAlike_of_forall₂ hes key
    | position i => exact .none
  | record m => exact .none
  | rooted m => exact .none

theorem followFrom?_rearranged (h : v.Rearranged w) (steps : Path) :
    Option.Rel Value.Rearranged (followFrom? v steps) (followFrom? w steps) := by
  induction steps generalizing v w with
  | nil => exact .some h
  | cons s rest ih =>
    have hstep := stepInto?_rearranged h s
    rw [followFrom?, followFrom?]
    generalize stepInto? v s = x at hstep ⊢
    generalize stepInto? w s = y at hstep ⊢
    cases hstep with
    | none => exact .none
    | some hxy => exact ih hxy

theorem findSome?_rel {α β γ : Type} {R : β → γ → Prop} {p : α → Option β} {q : α → Option γ}
    {as : List α} (h : ∀ a ∈ as, Option.Rel R (p a) (q a)) :
    Option.Rel R (as.findSome? p) (as.findSome? q) := by
  induction as with
  | nil => exact .none
  | cons a as ih =>
    have hfirst := h a List.mem_cons_self
    rw [List.findSome?_cons, List.findSome?_cons]
    generalize p a = x at hfirst ⊢
    generalize q a = y at hfirst ⊢
    cases hfirst with
    | none => exact ih fun b hb => h b (List.mem_cons_of_mem a hb)
    | some hxy => exact .some hxy

/-! ## Fields -/

/-- A field is found on the same way in both, with values that its type keeps. -/
def FoundAlike (family : Family) (m m' : Model) (data data' : Entries) (f : FieldDecl) : Prop :=
  Option.Rel (fun p q => q.1 = p.1 ∧ Kept family f.type p.2 q.2) (find? m f data) (find? m' f data')

/-- The checks of a field look at its own value only, and among the values of its type they treat
those alike that differ in the order of fields. -/
structure BlindUnder (build : Build) (f : FieldDecl) : Prop where
  solitary : f.Solitary
  alike : ∀ x v w, check build f.type x = .ok v → v.Rearranged w →
    EndsAlike Value.Rearranged (passChecks [] f.checks v) (passChecks [] f.checks w)

variable {build build' : Build} {m m' : Model} {f : FieldDecl} {data data' : Entries}

theorem checkField_alike (hbuild : BuildsAlike family build build') (hf : BlindUnder build f)
    (h : Kept family f.type v w) :
    EndsAlike Value.Rearranged (checkField build f [] v) (checkField build' f [] w) := by
  have hchecked := (check_alike hbuild f.type v w h).and_left fun x hx => hx
  refine hchecked.bind fun x y hxy => (keepsLimits_rearranged f.limits hxy.1).bind ?_
  rintro _ _ ⟨rfl, rfl⟩
  exact hf.alike v _ _ hxy.2 hxy.1

theorem defaultField_alike (hbuild : BuildsAlike family build build') (hm : m.Reordered m')
    (hf : BlindUnder build f) :
    EndsAlike Value.Rearranged (defaultField build m f []) (defaultField build' m' f []) := by
  unfold defaultField
  rw [hm.config]
  cases f.default? with
  | none => trivial
  | some v =>
    dsimp only
    split
    · exact (checkField_alike hbuild hf (.inl rfl)).located _ _
    · exact v.rearranged_self

theorem readField_alike (hbuild : BuildsAlike family build build') (hm : m.Reordered m')
    (hf : BlindUnder build f) (hfound : FoundAlike family m m' data data' f) :
    EndsAlike Value.Rearranged (readField build m data f []) (readField build' m' data' f []) := by
  unfold FoundAlike at hfound
  unfold readField
  generalize find? m f data = x at hfound ⊢
  generalize find? m' f data' = y at hfound ⊢
  cases hfound with
  | none => exact defaultField_alike hbuild hm hf
  | some hpq => exact (checkField_alike hbuild hf hpq.2).located _ _

/-! ## Instances -/

theorem mem_usedKeys_alike (hm : m.Reordered m')
    (hfound : ∀ f ∈ m.fields, FoundAlike family m m' data data' f) (key : Identifier) :
    key ∈ usedKeys m data ↔ key ∈ usedKeys m' data' := by
  have hhead : ∀ f ∈ m.fields, ((find? m f data).bind fun p => p.1.head?) =
      (find? m' f data').bind fun p => p.1.head? := by
    intro f hf
    have hf := hfound f hf
    unfold FoundAlike at hf
    generalize find? m f data = x at hf ⊢
    generalize find? m' f data' = y at hf ⊢
    cases hf with
    | none => rfl
    | some hpq => exact congrArg List.head? hpq.1.symm
  unfold usedKeys
  rw [List.mem_filterMap, List.mem_filterMap]
  constructor
  · rintro ⟨f, hf, hkey⟩
    exact ⟨f, hm.fields.mem_iff.1 hf, (hhead f hf).symm.trans hkey⟩
  · rintro ⟨f, hf, hkey⟩
    have hf := hm.fields.mem_iff.2 hf
    exact ⟨f, hf, (hhead f hf).trans hkey⟩

theorem extraIssues_eq_nil (m : Model) (data : Entries) : extraIssues m data = [] ↔
    (m.config.forbidExtra = true → ∀ key ∈ data.map (·.1), .name key ∈ usedKeys m data) := by
  unfold extraIssues
  split
  · rename_i hforbid
    simp [hforbid, List.filter_eq_nil_iff]
  · rename_i hforbid
    simp [hforbid]

theorem EntriesAlike.mem_keys (h : EntriesAlike data data') (key : String) :
    key ∈ data.map (·.1) ↔ key ∈ data'.map (·.1) := by
  have hmem : ∀ es : Entries, key ∈ es.map (·.1) ↔ es.lookup key ≠ none := by
    intro es
    rw [Ne, List.lookup_eq_none_iff, List.mem_map]
    constructor
    · rintro ⟨e, he, rfl⟩ hnone
      simpa using hnone e he
    · intro hsome
      simpa using hsome
  have hkey := h key
  rw [hmem, hmem]
  generalize data.lookup key = x at hkey ⊢
  generalize data'.lookup key = y at hkey ⊢
  cases hkey <;> simp

theorem extraIssues_alike (hm : m.Reordered m') (hdata : EntriesAlike data data')
    (hfound : ∀ f ∈ m.fields, FoundAlike family m m' data data' f) :
    extraIssues m data = [] ↔ extraIssues m' data' = [] := by
  rw [extraIssues_eq_nil, extraIssues_eq_nil, hm.config]
  simp only [hdata.mem_keys, mem_usedKeys_alike hm hfound]

/-- What holds of each pair can be chosen along a list. -/
theorem exists_forall₂ {α β γ : Type} {P : α → β → Prop} {Q : α → γ → Prop} {R : β → γ → Prop}
    {as : List α} {bs : List β} (h : List.Forall₂ P as bs)
    (hPQ : ∀ a ∈ as, ∀ b, P a b → ∃ c, Q a c ∧ R b c) :
    ∃ cs, List.Forall₂ Q as cs ∧ List.Forall₂ R bs cs := by
  induction h with
  | nil => exact ⟨[], .nil, .nil⟩
  | cons hab _ ih =>
    obtain ⟨c, hac, hbc⟩ := hPQ _ List.mem_cons_self _ hab
    obtain ⟨cs, has, hbs⟩ := ih fun a ha => hPQ a (List.mem_cons_of_mem _ ha)
    exact ⟨c :: cs, .cons hac has, .cons hbc hbs⟩

/-- Without checks of the whole, an instance is built when each field is read and no key is left. -/
theorem recordOf_eq_ok_of_whole (hwhole : m.checks = []) (hsolitary : ∀ f ∈ m.fields, f.Solitary)
    {v : Value} : recordOf build m data = .ok v ↔ ∃ fields, v = .record m.name fields ∧
      List.Forall₂ (fun f e => e.1 = f.name ∧ readField build m data f [] = .ok e.2)
        m.fields fields ∧ extraIssues m data = [] := by
  have hprepare : prepare m data = data := by
    rw [prepare, hwhole]
    rfl
  simp only [recordOf_eq_ok, hprepare, readFields_eq_ok_of_solitary hsolitary, hwhole,
    List.findSome?_nil, and_true]

/-- The fields of an instance are read in both orders, or in neither. -/
theorem recordOf_alike (hbuild : BuildsAlike family build build') (hm : m.Reordered m')
    (hwhole : m.checks = []) (hblind : ∀ f ∈ m.fields, BlindUnder build f)
    (hdata : EntriesAlike data data')
    (hfound : ∀ f ∈ m.fields, FoundAlike family m m' data data' f) :
    EndsAlike Value.Rearranged (recordOf build m data) (recordOf build' m' data') := by
  have hread := fun f hf => readField_alike hbuild hm (hblind f hf) (hfound f hf)
  have hextra := extraIssues_alike hm hdata hfound
  have hwhole' : m'.checks = [] := hm.checks.trans hwhole
  have hsolitary : ∀ f ∈ m.fields, f.Solitary := fun f hf => (hblind f hf).solitary
  have hsolitary' : ∀ f ∈ m'.fields, f.Solitary := fun f hf => hsolitary f (hm.fields.mem_iff.2 hf)
  apply EndsAlike.of_ok
  · intro v hv
    obtain ⟨fields, rfl, hall, hnone⟩ := (recordOf_eq_ok_of_whole hwhole hsolitary).1 hv
    have hturned : ∀ f ∈ m.fields, ∀ e : String × Value,
        e.1 = f.name ∧ readField build m data f [] = .ok e.2 → ∃ g : String × Value,
          (g.1 = f.name ∧ readField build' m' data' f [] = .ok g.2) ∧
            Value.RearrangedEntry e g := by
      intro f hf e he
      obtain ⟨w, hw, hvw⟩ := (hread f hf).exists_right he.2
      exact ⟨(e.1, w), ⟨he.1, hw⟩, rfl, hvw⟩
    obtain ⟨hs, hall', hfields⟩ := exists_forall₂ hall hturned
    obtain ⟨gs, hall', hperm⟩ := List.perm_comp_forall₂ hm.fields.symm hall'
    refine ⟨.record m.name gs, (recordOf_eq_ok_of_whole hwhole' hsolitary').2
      ⟨gs, ?_, hall', hextra.1 hnone⟩, Value.rearranged_record _ hperm hfields⟩
    rw [hm.name]
  · intro w hw
    obtain ⟨gs, -, hall, hnone⟩ := (recordOf_eq_ok_of_whole hwhole' hsolitary').1 hw
    obtain ⟨hs, hall, -⟩ := List.perm_comp_forall₂ hm.fields hall
    have hturned : ∀ f ∈ m.fields, ∀ e : String × Value,
        e.1 = f.name ∧ readField build' m' data' f [] = .ok e.2 → ∃ g : String × Value,
          (g.1 = f.name ∧ readField build m data f [] = .ok g.2) ∧ True := by
      intro f hf e he
      obtain ⟨v, hv, -⟩ := (hread f hf).exists_left he.2
      exact ⟨(e.1, v), ⟨he.1, hv⟩, trivial⟩
    obtain ⟨fields, hall, -⟩ := exists_forall₂ hall hturned
    exact ⟨_, (recordOf_eq_ok_of_whole hwhole hsolitary).2 ⟨fields, rfl, hall, hextra.2 hnone⟩⟩

/-- A wrapped value is kept by both, or by neither. -/
theorem rootedOf_alike (hbuild : BuildsAlike family build build') (hf : m.fields = [f])
    (hblind : BlindUnder build f) {own own' : Option Value}
    (h : Option.Rel (Kept family f.type) own own') :
    EndsAlike Value.Rearranged (rootedOf build m own) (rootedOf build' m own') := by
  have hhead : m.fields.head? = some f := by rw [hf]; rfl
  have hwrap : ∀ x y, EndsAlike Value.Rearranged x y → EndsAlike Value.Rearranged
      (x >>= fun root => pure (Value.rooted m.name root) : Checked Value)
      (y >>= fun root => pure (Value.rooted m.name root) : Checked Value) :=
    fun x y hxy => hxy.bind fun _ _ => Value.rearranged_rooted m.name
  simp only [rootedOf, hhead]
  cases h with
  | some hvw => exact hwrap _ _ (checkField_alike hbuild hblind hvw)
  | none =>
    cases f.default? with
    | none => trivial
    | some d =>
      dsimp only
      split
      · exact hwrap _ _ (checkField_alike hbuild hblind (.inl rfl))
      · exact hwrap _ _ d.rearranged_self

/-! ## Building instances -/

theorem follow?_alike (h : EntriesAlike data data') {steps : Path} (hsteps : steps ≠ []) :
    Option.Rel Value.Rearranged (follow? data steps) (follow? data' steps) := by
  obtain ⟨s, rest, rfl⟩ := List.exists_cons_of_ne_nil hsteps
  rw [follow?, follow?, followFrom?, followFrom?]
  cases s with
  | position i => exact .none
  | name key =>
    have hkey := h key
    simp only [stepInto?]
    generalize data.lookup key = x at hkey ⊢
    generalize data'.lookup key = y at hkey ⊢
    cases hkey with
    | none => exact .none
    | some hvw => exact followFrom?_rearranged hvw rest

/-- A field is found alike if validation keeps what is found. -/
theorem foundAlike_of_entries (hm : m.Reordered m') (hled : ∀ way ∈ waysTo m f, way ≠ [])
    (hdata : EntriesAlike data data')
    (hkept : ∀ steps u u', find? m f data = some (steps, u) → find? m' f data' = some (steps, u') →
      u.Rearranged u' → Kept family f.type u u') :
    FoundAlike family m m' data data' f := by
  have hrel : Option.Rel (fun p q : Path × Value => q.1 = p.1 ∧ p.2.Rearranged q.2) (find? m f data)
      (find? m' f data') := by
    unfold find?
    rw [hm.waysTo]
    refine findSome?_rel fun way hway => ?_
    have hfollow := follow?_alike hdata (hled way hway)
    generalize follow? data way = x at hfollow ⊢
    generalize follow? data' way = y at hfollow ⊢
    cases hfollow with
    | none => exact .none
    | some hvw => exact .some ⟨rfl, hvw⟩
  unfold FoundAlike
  rcases hx : find? m f data with _ | ⟨steps, u⟩ <;>
    rcases hy : find? m' f data' with _ | ⟨steps', u'⟩ <;> rw [hx, hy] at hrel
  · exact .none
  · cases hrel
  · cases hrel
  · cases hrel with
    | some hpq =>
      obtain ⟨rfl, huu'⟩ := hpq
      exact .some ⟨rfl, hkept _ u u' hx hy huu'⟩

theorem foundAlike_self (hm : m.Reordered m') (data : Entries) (f : FieldDecl) :
    FoundAlike family m m' data data f := by
  unfold FoundAlike find?
  rw [hm.waysTo]
  exact option_rel_self (fun p => ⟨rfl, .inl rfl⟩) _

/-- Data is made into an instance in both orders, or in neither. -/
theorem ofMapping_alike {name : String} (hbuild : BuildsAlike family build build')
    (hm : m.Reordered m') (hregular : m.Regular) (hblind : ∀ f ∈ m.fields, BlindUnder build f)
    (hname : family.model? name = some m) (hw : m.wraps = false)
    (h : Kept family (.model name) v w) : EndsAlike Value.Rearranged
      (match v with
        | .mapping data => recordOf build m data
        | _ => reject (modelType name))
      (match w with
        | .mapping data => recordOf build' m' data
        | _ => reject (modelType name)) := by
  have hself : ∀ data, EndsAlike Value.Rearranged (recordOf build m data)
      (recordOf build' m' data) := fun data =>
    recordOf_alike hbuild hm hregular.whole hblind
      (fun key => option_rel_self Value.rearranged_self _) fun f _ => foundAlike_self hm data f
  cases h.rearranged.form with
  | same =>
    cases v with
    | mapping data => exact hself data
    | _ => trivial
  | @mapping data data' hes =>
    rcases h with heq | ⟨-, hkept⟩
    · cases heq
      exact hself data
    · have hdata := entriesAlike_of_forall₂ hes
      refine recordOf_alike hbuild hm hregular.whole hblind hdata fun f hf => ?_
      refine foundAlike_of_entries hm (hregular.led f hf) hdata ?_
      exact fun steps u u' hu _ huu' =>
        .inr ⟨huu', fun hpart => hkept (.field hname hw hf hu hpart)⟩
  | _ => trivial

end Validation

/-- The checks of a field look at its own value only, and not at the order of fields in it. -/
def FieldDecl.Blind (family : Family) (f : FieldDecl) : Prop :=
  ∀ depth size busy, Validation.BlindUnder (Validation.buildWithin family depth size busy) f

namespace Validation

variable {family' : Family}

/-- Instances are built alike from rearranged values, to every depth. -/
theorem buildWithin_alike (hfamily : family.Reordered family') (hregular : ∀ m ∈ family, m.Regular)
    (hblind : ∀ m ∈ family, ∀ f ∈ m.fields, f.Blind family) (depth size : Nat)
    (busy : List String) :
    BuildsAlike family (buildWithin family depth size busy)
      (buildWithin family' depth size busy) := by
  induction depth generalizing size busy with
  | zero =>
    intro name v w _ _
    trivial
  | succ depth ih =>
    intro name v w hv h
    rw [buildWithin, buildWithin, sizeOf_rearranged v w h.rearranged]
    generalize (if sizeOf w < size then [] else busy) = busy
    split
    · trivial
    have hmodel := hfamily.model? name
    generalize family'.model? name = y at hmodel ⊢
    rcases hname : family.model? name with _ | m <;> rw [hname] at hmodel
    · cases hmodel
      trivial
    obtain ⟨m', rfl, hm⟩ : ∃ m', y = some m' ∧ m.Reordered m' := by
      cases hmodel with | some hm => exact ⟨_, rfl, hm⟩
    have hmem := Family.mem_of_model? hname
    dsimp only
    rw [hm.wraps]
    cases hw : m.wraps with
    | true =>
      obtain ⟨f, hf⟩ := (hregular m hmem).single hw
      have hmf : f ∈ m.fields := by rw [hf]; exact List.mem_singleton_self f
      rw [hm.eq_of_single hf]
      refine rootedOf_alike (ih _ _) hf (hblind m hmem f hmf _ _ _) (.some (h.mono fun hpart => ?_))
      exact .wrapped hname hw (by rw [hf]; rfl) hv hpart
    | false =>
      exact ofMapping_alike (ih _ _) hm (hregular m hmem) (fun f hf => hblind m hmem f hf _ _ _)
        hname hw h

/-- Instances are put together alike from named values. -/
theorem instanceOf_alike (hfamily : family.Reordered family') (hregular : ∀ m ∈ family, m.Regular)
    (hblind : ∀ m ∈ family, ∀ f ∈ m.fields, f.Blind family) (hmem : m ∈ family)
    (hm : m.Reordered m') (hdata : EntriesAlike data data')
    (hfound : ∀ f ∈ m.fields, FoundAlike family m m' data data' f) :
    EndsAlike Value.Rearranged (instanceOf family m data) (instanceOf family' m' data') :=
  recordOf_alike (buildWithin_alike hfamily hregular hblind _ _ _) hm (hregular m hmem).whole
    (fun f hf => hblind m hmem f hf _ _ _) hdata hfound

/-- Values are wrapped alike. -/
theorem wrapperOf_alike (hfamily : family.Reordered family') (hregular : ∀ m ∈ family, m.Regular)
    (hblind : ∀ m ∈ family, ∀ f ∈ m.fields, f.Blind family) (hmem : m ∈ family)
    (hf : m.fields = [f]) {own own' : Option Value} (h : Option.Rel (Kept family f.type) own own') :
    EndsAlike Value.Rearranged (wrapperOf family m own) (wrapperOf family' m own') := by
  have hmf : f ∈ m.fields := by rw [hf]; exact List.mem_singleton_self f
  have hbuild : ∀ size busy, EndsAlike Value.Rearranged
      (rootedOf (buildWithin family nestingLimit size busy) m own)
      (rootedOf (buildWithin family' nestingLimit size busy) m own') := fun size busy =>
    rootedOf_alike (buildWithin_alike hfamily hregular hblind _ size busy) hf
      (hblind m hmem f hmf _ _ _) h
  unfold wrapperOf
  cases h with
  | none => exact hbuild 0 []
  | some hvw =>
    rw [builder, builder, sizeOf_rearranged _ _ hvw.rearranged]
    exact hbuild _ _

end Validation

end QueryBinding
