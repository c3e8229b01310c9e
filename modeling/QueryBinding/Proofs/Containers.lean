-- The shape of a field whose value is transformed follows the container of its
-- type: a list, one type or nothing, or a type alone. A union of nothing and of
-- several other types is no such container, and a field of that type is required.
import QueryBinding.Proofs.Typing

namespace QueryBinding

namespace FieldType

variable {a item x : FieldType}

/-! ## Taking types apart -/

/-- The type is a union of nothing and one other member. -/
def IsOptional (a item : FieldType) : Prop :=
  ∃ long before after, a = .union long (before ++ item :: after) ∧ item ≠ .nothing ∧
    before ++ after ≠ [] ∧ ∀ c ∈ before ++ after, c = .nothing

theorem isNothing_iff : a.isNothing = true ↔ a = .nothing := by
  cases a <;> simp [isNothing]

theorem unwrapOptional_eq_iff : a.unwrapOptional = (item, true) ↔ a.IsOptional item := by
  constructor
  · intro h
    obtain ⟨long, ms, rfl, hfilter, hany⟩ := exists_union_of_unwrapOptional h
    obtain ⟨before, after, rfl, hbefore, hitem, hafter⟩ := List.filter_eq_cons_iff.1 hfilter
    have hnothing : ∀ c ∈ before ++ after, c = .nothing := by
      intro c hc
      rcases List.mem_append.1 hc with hc | hc
      · simpa [isNothing_iff] using hbefore c hc
      · simpa [isNothing_iff] using List.filter_eq_nil_iff.1 hafter c hc
    refine ⟨long, before, after, rfl, ?_, ?_, hnothing⟩
    · rintro rfl
      cases hitem
    · intro hnil
      obtain ⟨rfl, rfl⟩ := List.append_eq_nil_iff.1 hnil
      obtain ⟨c, hc, hn⟩ := List.any_eq_true.1 hany
      obtain rfl := List.mem_singleton.1 hc
      simp [hn] at hitem
  · rintro ⟨long, before, after, rfl, hitem, hne, hnothing⟩
    have hquiet : ∀ cs : List FieldType, (∀ c ∈ cs, c = .nothing) →
        cs.filter (!·.isNothing) = [] := by
      intro cs hcs
      rw [List.filter_eq_nil_iff]
      intro c hc
      simp [hcs c hc, isNothing]
    have hitem : item.isNothing = false := by simpa [← isNothing_iff] using hitem
    have hfilter : (before ++ item :: after).filter (!·.isNothing) = [item] := by
      rw [List.filter_append, hquiet before fun c hc => hnothing c (List.mem_append_left _ hc),
        List.filter_cons, hitem, hquiet after fun c hc => hnothing c (List.mem_append_right _ hc)]
      rfl
    have hany : (before ++ item :: after).any isNothing = true := by
      obtain ⟨c, hc⟩ := List.exists_mem_of_ne_nil _ hne
      refine List.any_eq_true.2 ⟨c, ?_, by rw [hnothing c hc]; rfl⟩
      simp only [List.mem_append, List.mem_cons] at hc ⊢
      tauto
    simp only [unwrapOptional, hfilter, hany, if_true]

theorem unwrapOptional_of_not_isOptional (h : ∀ x, ¬ a.IsOptional x) :
    a.unwrapOptional = (a, false) := by
  rcases hu : a.unwrapOptional with ⟨inner, optional⟩
  cases optional with
  | true => exact absurd (unwrapOptional_eq_iff.1 hu) (h inner)
  | false => rw [eq_of_unwrapOptional hu]

theorem IsOptional.unique (h : a.IsOptional item) (h' : a.IsOptional x) : x = item := by
  have heq := (unwrapOptional_eq_iff.2 h).symm.trans (unwrapOptional_eq_iff.2 h')
  exact (congrArg Prod.fst heq).symm

theorem IsOptional.ne_list (h : a.IsOptional item) (x : FieldType) : a ≠ .list x := by
  obtain ⟨long, before, after, rfl, -⟩ := h
  simp

theorem IsOptional.ne_model (h : a.IsOptional item) (name : String) : a ≠ .model name := by
  obtain ⟨long, before, after, rfl, -⟩ := h
  simp

theorem unwrapList_of_ne_list (h : ∀ x, a ≠ .list x) : a.unwrapList = (a, false) := by
  cases a <;> first | rfl | exact absurd rfl (h _)

/-- The containers that shapes follow. -/
inductive Container (a : FieldType) : Prop
  | optionalList {item : FieldType} (h : a.IsOptional (.list item))
  | list {item : FieldType} (h : a = .list item)
  | optional {item : FieldType} (h : a.IsOptional item) (hitem : ∀ x, item ≠ .list x)
  | alone (h : ∀ x, ¬ a.IsOptional x) (ha : ∀ x, a ≠ .list x)

theorem container (a : FieldType) : a.Container := by
  by_cases h : ∃ item, a.IsOptional item
  · obtain ⟨item, h⟩ := h
    by_cases hitem : ∃ x, item = .list x
    · obtain ⟨x, rfl⟩ := hitem
      exact .optionalList h
    · exact .optional h fun x hx => hitem ⟨x, hx⟩
  · by_cases ha : ∃ item, a = .list item
    · obtain ⟨item, ha⟩ := ha
      exact .list ha
    · exact .alone (fun x hx => h ⟨x, hx⟩) fun x hx => ha ⟨x, hx⟩

end FieldType

namespace Schema

open FieldType

variable {a item : FieldType}

/-! ## Shapes of transformed fields -/

/-- The shape of a list of items of some type. -/
def listShape : FieldType → TargetShape
  | .model name => ⟨.nestedList, some (.model name)⟩
  | _ => ⟨.stringList, none⟩

/-- The shape of a single item of some type. -/
def itemShape (optional : Bool) : FieldType → TargetShape
  | .model name => ⟨.nestedOne, some (.model name)⟩
  | _ => ⟨if optional then .optionalScalar else .scalar, none⟩

theorem inferShape_optionalList (h : a.IsOptional (.list item)) :
    inferShape a none true = .error .optionalList := by
  simp [inferShape, unwrapOptional_eq_iff.2 h, unwrapList]

theorem inferShape_list (item : FieldType) :
    inferShape (.list item) none true = .ok (listShape item, .required) := by
  cases item <;> simp [inferShape, unwrapOptional, unwrapList, modelOf?, listShape]

theorem inferShape_optional (h : a.IsOptional item) (hitem : ∀ x, item ≠ .list x) :
    inferShape a none true = .ok (itemShape true item, .optional) := by
  cases item <;> simp [inferShape, unwrapOptional_eq_iff.2 h, unwrapList_of_ne_list hitem, modelOf?,
    itemShape]

theorem inferShape_alone (h : ∀ x, ¬ a.IsOptional x) (ha : ∀ x, a ≠ .list x) :
    inferShape a none true = .ok (itemShape false a, .required) := by
  have hu := unwrapOptional_of_not_isOptional h
  have hl := unwrapList_of_ne_list ha
  cases a <;> simp [inferShape, hu, hl, modelOf?, itemShape]

/-! ## What the containers decide -/

/-- A shape and a mode that follow the container of a type. -/
structure Follows (a : FieldType) (shape : TargetShape) (mode : BindingMode) : Prop where
  optional : mode = .optional ↔ ∃ item, a.IsOptional item
  required : mode = .required ↔ ∀ item, ¬ a.IsOptional item
  lists : shape.kind = .stringList ∨ shape.kind = .nestedList ↔ ∃ item, a = .list item
  nestedLists : shape.kind = .nestedList ↔ ∃ name, a = .list (.model name)
  nestedOnes : shape.kind = .nestedOne ↔ ∃ name, a = .model name ∨ a.IsOptional (.model name)
  optionalScalars : shape.kind = .optionalScalar ↔
    mode = .optional ∧ ∀ name, ¬ a.IsOptional (.model name)
  scalars : shape.kind = .scalar ↔
    mode = .required ∧ (∀ item, a ≠ .list item) ∧ ∀ name, a ≠ .model name

theorem follows_list (item : FieldType) : Follows (.list item) (listShape item) .required := by
  have hsingle : ∀ x, ¬ (FieldType.list item).IsOptional x := fun x h => h.ne_list item rfl
  cases item <;> constructor <;> simp [listShape, hsingle]

theorem follows_optional (h : a.IsOptional item) (hitem : ∀ x, item ≠ .list x) :
    Follows a (itemShape true item) .optional := by
  have hoptional : ∀ x, a.IsOptional x ↔ x = item := fun x =>
    ⟨fun hx => h.unique hx, fun hx => hx ▸ h⟩
  cases item <;> constructor <;> simp [itemShape, hoptional, h.ne_list, h.ne_model]

theorem follows_alone (h : ∀ x, ¬ a.IsOptional x) (ha : ∀ x, a ≠ .list x) :
    Follows a (itemShape false a) .required := by
  cases a <;> constructor <;> simp [itemShape, h]
  all_goals exact absurd rfl (ha _)

theorem inferShape_follows (a : FieldType) :
    match inferShape a none true with
    | .error _ => ∃ item, a.IsOptional (.list item)
    | .ok (shape, mode) => (∀ item, ¬ a.IsOptional (.list item)) ∧ Follows a shape mode := by
  cases a.container with
  | optionalList h =>
    rw [inferShape_optionalList h]
    exact ⟨_, h⟩
  | list h =>
    rw [h, inferShape_list]
    exact ⟨fun x hx => hx.ne_list _ rfl, follows_list _⟩
  | optional h hitem =>
    rw [inferShape_optional h hitem]
    exact ⟨fun x hx => hitem x (h.unique hx).symm, follows_optional h hitem⟩
  | alone h ha =>
    rw [inferShape_alone h ha]
    exact ⟨fun x => h _, follows_alone h ha⟩

/-! ## No matches -/

variable {ν : Type} {d : Document ν} {nested : Target → ν → Run ν Value} {policy : StringListPolicy}
  {f : FieldSpec} {shape : TargetShape}

/-- What a field is made of when its query matches nothing. -/
def emptied (f : FieldSpec) (kind : ShapeKind) : Except Failure Value :=
  if kind = .stringList ∨ kind = .nestedList then .ok (.list [])
  else if f.mode = .optional then .ok .none
  else .error (.field (.missing (f.query.getD "")))

theorem run_coerce_nil (hs : f.shape = some shape)
    (h : Follows a shape f.mode) (w : World ν) :
    (Coercion.coerce d nested policy f []).run.run w = (emptied f shape.kind, w) := by
  unfold Coercion.coerce
  rw [hs]
  rcases shape with ⟨kind, target⟩
  cases kind with
  | stringList => cases policy <;> rfl
  | nestedList => rfl
  | scalar =>
    simp only [emptied, reduceCtorEq, or_self, if_false, (h.scalars.1 rfl).1]
    rfl
  | optionalScalar =>
    simp only [emptied, reduceCtorEq, or_self, if_false, (h.optionalScalars.1 rfl).1, if_true]
    rfl
  | nestedOne =>
    simp only [emptied, FieldSpec.optional, reduceCtorEq, or_self, if_false, beq_iff_eq]
    split <;> rfl

/-- What no matches are made into, by the container of the type. -/
structure Empties (a : FieldType) (query : String) (result : Except Failure Value) : Prop where
  nothing : result = .ok .none ↔ ∃ item, a.IsOptional item
  list : result = .ok (.list []) ↔ ∃ item, a = .list item
  missing : result = .error (.field (.missing query)) ↔
    (∀ item, ¬ a.IsOptional item) ∧ ∀ item, a ≠ .list item

theorem emptied_empties (h : Follows a shape f.mode) :
    Empties a (f.query.getD "") (emptied f shape.kind) := by
  by_cases hlist : ∃ item, a = .list item
  · have hsingle : ∀ x, ¬ a.IsOptional x := by
      obtain ⟨item, rfl⟩ := hlist
      exact fun x hx => hx.ne_list item rfl
    have hempty : emptied f shape.kind = .ok (.list []) := if_pos (h.lists.2 hlist)
    rw [hempty]
    constructor <;> simp [hsingle, hlist]
  · have hne : ∀ item, a ≠ .list item := fun item ha => hlist ⟨item, ha⟩
    by_cases hoptional : ∃ item, a.IsOptional item
    · have hempty : emptied f shape.kind = .ok .none := by
        rw [emptied, if_neg (hlist ∘ h.lists.1), if_pos (h.optional.2 hoptional)]
      rw [hempty]
      constructor <;> simp [hoptional, hlist]
    · have hempty : emptied f shape.kind = .error (.field (.missing (f.query.getD ""))) := by
        rw [emptied, if_neg (hlist ∘ h.lists.1), if_neg (hoptional ∘ h.optional.1)]
      rw [hempty]
      constructor <;> simp [not_exists.1 hoptional, hne]

/-- The shape of a transformed field follows the container of its type: it is refused just when it
is a list or nothing, and otherwise, without a match, it is nothing for one type or nothing, an
empty list for a list, and missing for anything else. -/
theorem a_transformed_shape_follows_the_container (a : FieldType) :
    match inferShape a none true with
    | .error _ => ∃ item, a.IsOptional (.list item)
    | .ok (shape, mode) =>
      (∀ item, ¬ a.IsOptional (.list item)) ∧ Follows a shape mode ∧
        ∀ {ν : Type} (d : Document ν) nested policy (f : FieldSpec) w,
          Empties a (f.query.getD "") ((Coercion.coerce d nested policy
            { f with shape := some shape, mode := mode } []).run.run w).1 := by
  have hfollows := inferShape_follows a
  rcases hi : inferShape a none true with e | ⟨shape, mode⟩
  · rw [hi] at hfollows
    exact hfollows
  · rw [hi] at hfollows
    obtain ⟨hrefused, hfollows⟩ := hfollows
    refine ⟨hrefused, hfollows, fun d nested policy f w => ?_⟩
    rw [run_coerce_nil (f := { f with shape := some shape, mode := mode }) rfl hfollows]
    exact emptied_empties (f := { f with shape := some shape, mode := mode }) hfollows

theorem a_post_or_nothing_is_optional :
    inferShape (.unite false [.model "Post", .nothing]) none true =
        .ok (⟨.nestedOne, some (.model "Post")⟩, .optional) ∧
      Follows (.unite false [.model "Post", .nothing])
        ⟨.nestedOne, some (.model "Post")⟩ .optional :=
  ⟨rfl, (a_transformed_shape_follows_the_container (.unite false [.model "Post", .nothing])).2.1⟩

/-- Nothing is a member of this union, but beside two others: the field is required, and no matches
are a failure. -/
theorem a_text_or_an_integer_or_nothing_is_required :
    FieldType.nothing ∈ (FieldType.unite false [.text, .integer, .nothing]).members ∧
      inferShape (.unite false [.text, .integer, .nothing]) none true =
        .ok (⟨.scalar, none⟩, .required) ∧
      ∀ {ν : Type} (d : Document ν) nested policy w, ((Coercion.coerce d nested policy
        ⟨.name "votes", .required, some "//b", some ⟨.scalar, none⟩, none, none⟩ []).run.run w).1 =
          .error (.field (.missing "//b")) :=
  ⟨by simp [FieldType.unite, FieldType.dedupe, FieldType.members], rfl, fun _ _ _ _ => rfl⟩

end Schema

end QueryBinding
