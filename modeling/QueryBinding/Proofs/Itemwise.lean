-- Transforms that work item by item. The transforms of this library, and whatever is composed
-- of them, leave nothing as nothing, and give for a list of texts the list of what they give
-- for each text. Composing them goes stage by stage over a whole list, which comes to the same.
import QueryBinding.Proofs.ListFields
import QueryBinding.Proofs.Outcomes

namespace QueryBinding

namespace Transform

/-! ## Items -/

/-- What can be an item of a list without being taken for nothing or for a list itself. -/
def IsItem : Value → Prop
  | .none => False
  | .list _ => False
  | _ => True

/-- A function on values leaves nothing as nothing, makes items of items, and works on a list of
items item by item. -/
structure Itemwise (g : Value → Except Fault Value) : Prop where
  nothing : g .none = .ok .none
  item : ∀ {x y}, IsItem x → g x = .ok y → IsItem y
  list : ∀ {xs v}, (∀ x ∈ xs, IsItem x) → (g (.list xs) = .ok v ↔
    ∃ ys, v = .list ys ∧ List.Forall₂ (fun x y => g x = .ok y) xs ys)

section

variable {g h : Value → Except Fault Value}

theorem mapM_eq_ok {f : Value → Except Fault Value} {xs ys : List Value} :
    xs.mapM f = .ok ys ↔ List.Forall₂ (fun x y => f x = .ok y) xs ys := by
  induction xs generalizing ys with
  | nil => simp [pure, Except.pure, eq_comm]
  | cons x xs ih =>
    rw [List.mapM_cons, bind_eq_ok, List.forall₂_cons_left_iff]
    simp only [bind_eq_ok, ih, pure, Except.pure, Except.ok.injEq]
    grind

/-- Two relations between items, one after the other. -/
theorem forall₂_comp_iff {α β γ : Type} {R : α → β → Prop} {S : β → γ → Prop} {as : List α}
    {cs : List γ} : List.Forall₂ (fun a c => ∃ b, R a b ∧ S b c) as cs ↔
      ∃ bs, List.Forall₂ R as bs ∧ List.Forall₂ S bs cs := by
  constructor
  · intro h
    induction h with
    | nil => exact ⟨[], .nil, .nil⟩
    | cons hac _ ih =>
      obtain ⟨b, hab, hbc⟩ := hac
      obtain ⟨bs, hR, hS⟩ := ih
      exact ⟨b :: bs, .cons hab hR, .cons hbc hS⟩
  · rintro ⟨bs, hR, hS⟩
    induction hR generalizing cs with
    | nil =>
      cases hS
      exact .nil
    | cons hab _ ih =>
      cases hS with
      | cons hbc hS => exact .cons ⟨_, hab, hbc⟩ (ih hS)

theorem lift_of_isItem {f : Value → Except Fault Value} {x : Value} (hx : IsItem x) :
    lift f x = f x := by
  cases x <;> first | rfl | exact hx.elim

/-- What works on single items works on lists of them, lifted. -/
theorem Itemwise.lift {f : Value → Except Fault Value}
    (hf : ∀ {x y}, IsItem x → f x = .ok y → IsItem y) : Itemwise (lift f) where
  nothing := rfl
  item := by
    intro x y hx hy
    rw [lift_of_isItem hx] at hy
    exact hf hx hy
  list := by
    intro xs v hxs
    have hitems : ∀ ys, List.Forall₂ (fun x y => f x = .ok y) xs ys ↔
        List.Forall₂ (fun x y => Transform.lift f x = .ok y) xs ys := by
      intro ys
      constructor <;> intro hys <;> refine ((List.forall₂_and_left _ _).2 ⟨hxs, hys⟩).imp ?_ <;>
        rintro x y ⟨hx, hy⟩ <;> simpa [lift_of_isItem hx] using hy
    rw [Transform.lift, map_eq_ok]
    simp only [mapM_eq_ok, hitems]
    grind

theorem Itemwise.ok : Itemwise .ok where
  nothing := rfl
  item := by
    rintro x y hx ⟨⟩
    exact hx
  list := by
    intro xs v _
    simp [List.forall₂_eq_eq_eq, eq_comm]

/-- One stage after another comes to the same over a whole list as over each item. -/
theorem Itemwise.bind (hg : Itemwise g) (hh : Itemwise h) : Itemwise fun v => g v >>= h where
  nothing := by
    rw [hg.nothing]
    exact hh.nothing
  item := by
    intro x z hx hz
    obtain ⟨y, hy, hz⟩ := bind_eq_ok.1 hz
    exact hh.item (hg.item hx hy) hz
  list := by
    intro xs v hxs
    -- the list between the stages holds items again, so the second stage takes it item by item
    have hbetween : ∀ {ys}, List.Forall₂ (fun x y => g x = .ok y) xs ys → ∀ y ∈ ys, IsItem y := by
      intro ys hys y hy
      obtain ⟨x, hx, hxy⟩ := exists_mem_left hys hy
      exact hg.item (hxs x hx) hxy
    simp only [bind_eq_ok, forall₂_comp_iff]
    constructor
    · rintro ⟨u, hu, hv⟩
      obtain ⟨ys, rfl, hys⟩ := (hg.list hxs).1 hu
      obtain ⟨zs, rfl, hzs⟩ := (hh.list (hbetween hys)).1 hv
      exact ⟨zs, rfl, ys, hys, hzs⟩
    · rintro ⟨zs, rfl, ys, hys, hzs⟩
      exact ⟨.list ys, (hg.list hxs).2 ⟨ys, rfl, hys⟩, (hh.list (hbetween hys)).2 ⟨zs, rfl, hzs⟩⟩

end

/-! ## The transforms of the library -/

/-- The transforms that this library offers, and all that is composed of them. -/
inductive Offered : Transform → Prop
  | strip : Offered strip
  | normalizeWhitespace : Offered normalizeWhitespace
  | toInt : Offered toInt
  | toDecimal : Offered toDecimal
  | prepend (base : String) : Offered (prepend base)
  | fixScheme (base : String) : Offered (fixScheme base)
  | absoluteUrl (base : String) : Offered (absoluteUrl base)
  | compose {parts : List Transform} (h : ∀ t ∈ parts, Offered t) : Offered (compose parts)

/-- A transform counts nothing, and works item by item. -/
def WorksItemwise (t : Transform) : Prop := ∃ g, Itemwise g ∧ ∀ v, t.apply v = ofFault (g v)

theorem ofFault_bind {α β : Type} (x : Except Fault α) (f : α → Except Fault β) :
    (ofFault x >>= fun a => ofFault (f a)) = ofFault (x >>= f) := by
  cases x <;> rfl

theorem exists_applyAll {parts : List Transform} (h : ∀ t ∈ parts, WorksItemwise t) :
    ∃ g, Itemwise g ∧ ∀ v, applyAll parts v = ofFault (g v) := by
  induction parts with
  | nil => exact ⟨.ok, .ok, fun v => by rw [applyAll]; rfl⟩
  | cons t parts ih =>
    obtain ⟨g, hg, happly⟩ := h t List.mem_cons_self
    obtain ⟨k, hk, happlyAll⟩ := ih fun t ht => h t (List.mem_cons_of_mem _ ht)
    refine ⟨fun v => g v >>= k, hg.bind hk, fun v => ?_⟩
    rw [applyAll, happly, ← ofFault_bind]
    simp only [happlyAll]

theorem isItem_of_map {α : Type} {x : Except Fault α} {f : α → Value} {y : Value}
    (hf : ∀ a, IsItem (f a)) (h : x.map f = .ok y) : IsItem y := by
  obtain ⟨a, -, rfl⟩ := map_eq_ok.1 h
  exact hf a

theorem Offered.worksItemwise {t : Transform} (h : Offered t) : WorksItemwise t := by
  induction h with
  | strip =>
    refine ⟨lift stripItem, .lift ?_, fun v => by rw [apply]⟩
    intro x y _ h
    unfold stripItem at h
    split at h <;> cases h
    exact trivial
  | normalizeWhitespace =>
    refine ⟨lift normalizeItem, .lift ?_, fun v => by rw [apply]⟩
    intro x y _ h
    unfold normalizeItem at h
    split at h
    · cases h
      exact trivial
    · split at h <;> cases h
      exact trivial
    · cases h
  | toInt =>
    refine ⟨lift toIntItem, .lift ?_, fun v => by rw [apply]⟩
    intro x y _ h
    unfold toIntItem at h
    split at h
    · exact isItem_of_map (f := .int) (fun _ => trivial) h
    · cases h
  | toDecimal =>
    refine ⟨lift toDecimalItem, .lift ?_, fun v => by rw [apply]⟩
    intro x y _ h
    unfold toDecimalItem at h
    split at h
    · exact isItem_of_map (f := .decimal) (fun _ => trivial) h
    · cases h
  | prepend base =>
    refine ⟨lift (prependItem base), .lift ?_, fun v => by rw [apply]⟩
    rintro x y _ ⟨⟩
    exact trivial
  | fixScheme base =>
    refine ⟨lift (fixSchemeItem base), .lift ?_, fun v => by rw [apply]⟩
    intro x y _ h
    unfold fixSchemeItem at h
    split at h <;> cases h
    exact trivial
  | absoluteUrl base =>
    refine ⟨lift (absoluteUrlItem base), .lift ?_, fun v => by rw [apply]⟩
    intro x y _ h
    unfold absoluteUrlItem at h
    split at h
    · exact isItem_of_map (f := ofChars) (fun _ => trivial) h
    · split at h <;> cases h
      exact trivial
    · cases h
  | compose _ ih =>
    obtain ⟨g, hg, happly⟩ := exists_applyAll ih
    exact ⟨g, hg, fun v => by rw [apply, happly]⟩

/-! ## Lists of texts -/

section

variable {t : Transform}

theorem WorksItemwise.settles (h : WorksItemwise t) (v : Value) :
    ∃ e : Except Fault Value, t.apply v = ofFault e := by
  obtain ⟨g, -, happly⟩ := h
  exact ⟨g v, happly v⟩

theorem WorksItemwise.nothing (h : WorksItemwise t) : t.apply .none = pure .none := by
  obtain ⟨g, hg, happly⟩ := h
  rw [happly, hg.nothing]
  rfl

theorem WorksItemwise.texts (h : WorksItemwise t) (xs : List String) (v : Value) :
    t.apply (.list (xs.map .text)) = pure v ↔ ∃ ys, v = .list ys ∧
      List.Forall₂ (fun x y => t.apply (.text x) = pure y) xs ys := by
  obtain ⟨g, hg, happly⟩ := h
  have hitems : ∀ x ∈ xs.map Value.text, IsItem x := by
    intro x hx
    obtain ⟨s, -, rfl⟩ := List.mem_map.1 hx
    exact trivial
  simp only [happly, ofFault_eq_pure, hg.list hitems, List.forall₂_map_left_iff]

theorem WorksItemwise.succeeds_iff (h : WorksItemwise t) (xs : List String) :
    (∃ v, t.apply (.list (xs.map .text)) = pure v) ↔ ∀ x ∈ xs, ∃ y, t.apply (.text x) = pure y := by
  simp only [h.texts]
  constructor
  · rintro ⟨v, ys, -, hys⟩ x hx
    obtain ⟨y, -, hy⟩ := exists_mem_right hys hx
    exact ⟨y, hy⟩
  · intro hall
    choose! f hf using hall
    refine ⟨_, xs.map f, rfl, ?_⟩
    rw [List.forall₂_map_right_iff, List.forall₂_same]
    exact hf

end

end Transform

namespace Coercion

open Run

variable {ν : Type} {d : Document ν} {f : FieldSpec} {t : Transform}

/-- The matches that a policy keeps: a lenient one leaves out those that have no text. -/
def keptMatches (d : Document ν) : StringListPolicy → List (Match ν) → List (Match ν)
  | .error, ms => ms
  | .drop, ms => ms.filter fun m => (textOf d m).toOption.isSome

/-- A list of texts has one text for each match that is kept, in its place. -/
theorem texts_of_keptMatches {policy : StringListPolicy} {ms : List (Match ν)}
    {texts : List String} (h : textsOf d policy ms = .ok texts) :
    List.Forall₂ (fun m x => textOf d m = .ok x) (keptMatches d policy ms) texts := by
  obtain ⟨rfl, hall⟩ := Binder.textsOf_eq_ok h
  have hreadable : List.Forall₂ (fun m x => textOf d m = .ok x)
      (ms.filter fun m => (textOf d m).toOption.isSome)
      (ms.filterMap fun m => (textOf d m).toOption) := by
    clear h hall
    induction ms with
    | nil => exact .nil
    | cons m ms ih =>
      rcases hm : textOf d m with e | s
      · simpa [hm, Except.toOption] using ih
      · simpa [hm, Except.toOption] using ih
  cases policy with
  | drop => exact hreadable
  | error =>
    -- a strict policy has read every match, so none is left out
    have hkept : (ms.filter fun m => (textOf d m).toOption.isSome) = ms := by
      refine List.filter_eq_self.2 fun m hm => ?_
      rcases hall m hm with ⟨s, hs⟩ | ⟨hpolicy, -⟩
      · rw [hs]
        rfl
      · cases hpolicy
    rw [hkept] at hreadable
    exact hreadable

/-- What is made of the texts is made of the matches that are kept. -/
theorem textOf_then_iff {policy : StringListPolicy} {ms : List (Match ν)} {texts : List String}
    (h : textsOf d policy ms = .ok texts) {S : String → Value → Prop} {ys : List Value} :
    List.Forall₂ (fun m y => ∃ x, textOf d m = .ok x ∧ S x y) (keptMatches d policy ms) ys ↔
      List.Forall₂ S texts ys := by
  rw [Transform.forall₂_comp_iff]
  have hkept := texts_of_keptMatches h
  have hunique : Relator.RightUnique fun (m : Match ν) x => textOf d m = .ok x := by
    intro m x y hx hy
    rw [hx] at hy
    cases hy
    rfl
  constructor
  · rintro ⟨texts', hkept', hys⟩
    rwa [List.right_unique_forall₂' hunique hkept hkept']
  · intro hys
    exact ⟨texts, hkept, hys⟩

/-- A transform that settles without counting gives the value of the field. -/
theorem applyTransform_eq_ok (ht : f.transform = some t) {u v : Value}
    (hsettles : ∃ e : Except Fault Value, t.apply u = Transform.ofFault e) (w : World ν) :
    ((applyTransform f u).run.run w).1 = .ok v ↔ t.apply u = pure v := by
  obtain ⟨e, he⟩ := hsettles
  rw [run_applyTransform ht, he, Transform.ofFault_eq_pure]
  rcases e with fault | a
  · simp [transformed, Transform.ofFault]
  · exact ⟨fun h => by cases h; rfl, fun h => by cases h; rfl⟩

end Coercion

namespace Binder

open Run Coercion Transform

variable {ν : Type} {b : Binder ν} {scope : Option ν} {f : FieldSpec} {t : Transform}
  {ms : List (Match ν)} {shape : TargetShape}

/-- Once its query is answered, a field is coerced and transformed. -/
theorem fst_bindField (nested : Target → ν → Run ν Value)
    (hms : b.document.evaluate (f.query.getD "") scope = .ok ms) (w : World ν) :
    ∃ w', ((b.bindField nested scope f).run.run w).1 = ((do
      let v ← coerce b.document nested b.policy f ms
      applyTransform f v : Run ν Value).run.run w').1 := by
  refine ⟨{ w with trace := w.trace ++ [.query (f.query.getD "") scope] }, ?_⟩
  have hnote : (note (.query (f.query.getD "") scope) : Run ν Unit).run.run w =
    (.ok (), { w with trace := w.trace ++ [.query (f.query.getD "") scope] }) := rfl
  unfold bindField
  dsimp only
  rw [run_bind_ok hnote, hms, run_bind_ok (run_ofExcept _ _)]

/-- An optional text that is not found stays nothing. -/
theorem fst_bindField_nothing (nested : Target → ν → Run ν Value) (h : WorksItemwise t)
    (ht : f.transform = some t) (hshape : f.shape = some shape)
    (hkind : shape.kind = .optionalScalar)
    (hms : b.document.evaluate (f.query.getD "") scope = .ok []) (w : World ν) :
    ((b.bindField nested scope f).run.run w).1 = .ok .none := by
  obtain ⟨w', hbind⟩ := fst_bindField nested hms w
  have hcoerce : coerce b.document nested b.policy f [] = return .none := by
    unfold coerce
    rw [hshape]
    dsimp only
    rw [hkind]
  rw [hbind, hcoerce, pure_bind, applyTransform_eq_ok ht (h.settles _)]
  exact h.nothing

/-- A list of texts is transformed match by match. -/
theorem fst_bindField_texts (nested : Target → ν → Run ν Value) (h : WorksItemwise t)
    (ht : f.transform = some t) (hshape : f.shape = some shape) (hkind : shape.kind = .stringList)
    (hms : b.document.evaluate (f.query.getD "") scope = .ok ms) (w : World ν) (v : Value) :
    ((b.bindField nested scope f).run.run w).1 = .ok v ↔
      (∃ texts, textsOf b.document b.policy ms = .ok texts) ∧ ∃ ys, v = .list ys ∧
        List.Forall₂ (fun m y => ∃ x, textOf b.document m = .ok x ∧ t.apply (.text x) = pure y)
          (keptMatches b.document b.policy ms) ys := by
  obtain ⟨w', hbind⟩ := fst_bindField nested hms w
  rw [hbind, coerce_texts hshape hkind]
  obtain ⟨log, hrun⟩ := run_stringList b.document f b.policy "" ms w'
  rcases htexts : textsOf b.document b.policy ms with e | texts
  · rw [plainValue, htexts] at hrun
    rw [run_bind_error hrun]
    simp
  · rw [plainValue, htexts] at hrun
    rw [run_bind_ok hrun, applyTransform_eq_ok ht (h.settles _), h.texts]
    simp only [textOf_then_iff htexts]
    simp

/-! ## The law of the transforms -/

/-- A transform that this library offers, or that is composed of such, gives a value or fails, and
counts nothing. It leaves nothing as nothing. On a list of texts it succeeds just when it succeeds
on each of them, and gives what it gives for each, in order. So an optional text that is not found
binds nothing, and a list of texts binds one value for each match that its policy keeps, in order:
what the transform gives for the text of the match. -/
theorem a_transform_of_the_library_works_item_by_item {t : Transform} (h : Offered t) :
    (∀ v, ∃ e : Except Fault Value, t.apply v = Transform.ofFault e) ∧
    t.apply .none = pure .none ∧
    (∀ xs : List String,
      ((∃ v, t.apply (.list (xs.map .text)) = pure v) ↔
        ∀ x ∈ xs, ∃ y, t.apply (.text x) = pure y) ∧
      ∀ v, t.apply (.list (xs.map .text)) = pure v ↔ ∃ ys, v = .list ys ∧
        List.Forall₂ (fun x y => t.apply (.text x) = pure y) xs ys) ∧
    ∀ {ν : Type} (b : Binder ν) (nested : Target → ν → Run ν Value) (scope : Option ν)
      (f : FieldSpec) (target : Option Target) (ms : List (Match ν)), f.transform = some t →
      b.document.evaluate (f.query.getD "") scope = .ok ms → ∀ w,
      (f.shape = some ⟨.optionalScalar, target⟩ → ms = [] →
        ((b.bindField nested scope f).run.run w).1 = .ok .none) ∧
      (f.shape = some ⟨.stringList, target⟩ → ∀ v,
        (((b.bindField nested scope f).run.run w).1 = .ok v ↔
          (∃ texts, textsOf b.document b.policy ms = .ok texts) ∧ ∃ ys, v = .list ys ∧
            List.Forall₂ (fun m y => ∃ x, textOf b.document m = .ok x ∧ t.apply (.text x) = pure y)
              (keptMatches b.document b.policy ms) ys)) := by
  have hworks := h.worksItemwise
  refine ⟨hworks.settles, hworks.nothing, fun xs => ⟨hworks.succeeds_iff xs, hworks.texts xs⟩, ?_⟩
  intro ν b nested scope f target ms ht hms w
  constructor
  · rintro hshape rfl
    exact fst_bindField_nothing nested hworks ht hshape rfl hms w
  · intro hshape v
    exact fst_bindField_texts nested hworks ht hshape rfl hms w v

/-- A shop with two signs, one of them a picture. -/
def shop : Document Unit :=
  ⟨fun query _ => .ok (if query = "//sign" then [.node (), .text " open "] else []),
    fun _ => .error (.field (.query none "node has no text")), 1⟩

/-- A field for what is found in the shop. -/
def noticed (query : String) (kind : ShapeKind) (t : Transform) : FieldSpec :=
  ⟨.name "notice", if kind = .optionalScalar then .optional else .required, some query,
    some ⟨kind, none⟩, some t, none⟩

/-- One who passes pictures over. -/
def passerBy : Binder Unit := ⟨[], shop, .drop⟩

theorem the_passer_by_notices_the_readable_sign : Offered (.compose [.strip, .prepend "We are "]) ∧
    ((passerBy.bindField (fun _ _ => throw .endless) none
      (noticed "//door" .optionalScalar (.compose [.strip, .prepend "We are "]))).run.run
        ⟨.empty, [], .initial .standard, []⟩).1 = .ok .none ∧
    ((passerBy.bindField (fun _ _ => throw .endless) none
      (noticed "//sign" .stringList (.compose [.strip, .prepend "We are "]))).run.run
        ⟨.empty, [], .initial .standard, []⟩).1 = .ok (.list [.text "We are open"]) := by
  have hoffered : Offered (.compose [.strip, .prepend "We are "]) := by
    refine .compose ?_
    simp [Offered.strip, Offered.prepend]
  obtain ⟨-, -, -, hbinds⟩ := a_transform_of_the_library_works_item_by_item hoffered
  refine ⟨hoffered, (hbinds passerBy _ none _ none [] rfl rfl _).1 rfl rfl, ?_⟩
  refine ((hbinds passerBy _ none _ none [.node (), .text " open "] rfl rfl _).2 rfl _).2 ?_
  exact ⟨⟨[" open "], rfl⟩, _, rfl, .cons ⟨" open ", rfl, rfl⟩ .nil⟩

/-- Under a lenient policy a list of texts can be shorter than its matches. -/
theorem the_picture_is_passed_over : ¬ ∀ {t : Transform}, Offered t → ∀ {ν : Type} (b : Binder ν)
    (nested : Target → ν → Run ν Value) (scope : Option ν) (f : FieldSpec) (target : Option Target)
    (ms : List (Match ν)) (w : World ν) (ys : List Value), f.transform = some t →
      f.shape = some ⟨.stringList, target⟩ →
      b.document.evaluate (f.query.getD "") scope = .ok ms →
      ((b.bindField nested scope f).run.run w).1 = .ok (.list ys) → ys.length = ms.length := by
  intro h
  have hlength := h .strip passerBy (fun _ _ => throw .endless) none
    (noticed "//sign" .stringList .strip) none [.node (), .text " open "]
    ⟨.empty, [], .initial .standard, []⟩ [.text "open"] rfl rfl rfl rfl
  cases hlength

end Binder

end QueryBinding
