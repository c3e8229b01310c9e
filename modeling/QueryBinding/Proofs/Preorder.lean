-- Registration is reachability. `preorder` walks through the models that a model
-- leads to, depth first and in field order, whatever is registered already. In a
-- closed registry a registration enters just these models, and if one of them is
-- refused it fails as the first one does that the walk meets.
import QueryBinding.Proofs.Closure

namespace QueryBinding

namespace Family

/-! ## The walk -/

/-- The models that a model nests, in field order. A refused model nests none. -/
def children (family : Family) (name : String) : List String :=
  match Schema.ofTarget family (.model name) with
  | .ok s => Registry.nested s
  | .error _ => []

/-- Notes a model that has not been seen, and then the models below it. -/
def visitWithin (family : Family) : Nat → List String → String → List String
  | 0, seen, _ => seen
  | depth + 1, seen, name =>
    if name ∈ seen then seen
    else (family.children name).foldl (family.visitWithin depth) (seen ++ [name])

/-- A model and the models that it leads to, each before those that it nests itself. -/
def preorder (family : Family) (name : String) : List String :=
  family.visitWithin (family.length + 1) [] name

/-- Why a model is refused, if it is. -/
def refusal? (family : Family) (name : String) : Option SchemaFailure :=
  match Schema.ofTarget family (.model name) with
  | .ok _ => none
  | .error e => some e

variable {family : Family}

theorem mem_children {name inner : String} :
    inner ∈ family.children name ↔ family.Nests name inner := by
  unfold children Nests
  rcases Schema.ofTarget family (.model name) with e | s <;> simp

theorem children_of_ok {name : String} {s : Schema}
    (h : Schema.ofTarget family (.model name) = .ok s) :
    family.children name = Registry.nested s := by
  simp [children, h]

theorem refusal?_eq_none {name : String} :
    family.refusal? name = none ↔ ∃ s, Schema.ofTarget family (.model name) = .ok s := by
  unfold refusal?
  rcases Schema.ofTarget family (.model name) with e | s <;> simp

theorem refusal?_eq_some {name : String} {e : SchemaFailure} :
    family.refusal? name = some e ↔ Schema.ofTarget family (.model name) = .error e := by
  unfold refusal?
  rcases Schema.ofTarget family (.model name) with e' | s <;> simp

/-- How a walk goes on from the names that were seen, to the names that are seen at its end. -/
inductive Visits (family : Family) : List String → List String → List String → Prop
  | done (seen : List String) : Visits family seen [] seen
  | passed {seen seen' rest : List String} {name : String} (h : name ∈ seen)
      (hrest : Visits family seen rest seen') : Visits family seen (name :: rest) seen'
  | noted {seen mid seen' rest : List String} {name : String} (h : name ∉ seen)
      (hinner : Visits family (seen ++ [name]) (family.children name) mid)
      (hrest : Visits family mid rest seen') : Visits family seen (name :: rest) seen'

theorem Visits.isPrefix {seen names seen' : List String} (h : Visits family seen names seen') :
    seen <+: seen' := by
  induction h with
  | done => exact List.prefix_rfl
  | passed _ _ ih => exact ih
  | noted _ _ _ ihi ihr => exact (List.prefix_append _ _).trans (ihi.trans ihr)

theorem Visits.subset {seen names seen' : List String} (h : Visits family seen names seen') :
    ∀ n ∈ seen, n ∈ seen' := fun _ hn => h.isPrefix.subset hn

theorem Visits.nodup {seen names seen' : List String} (h : Visits family seen names seen')
    (hseen : seen.Nodup) : seen'.Nodup := by
  induction h with
  | done => exact hseen
  | passed _ _ ih => exact ih hseen
  | @noted seen _ _ _ name hn _ _ ihi ihr =>
    apply ihr
    apply ihi
    rw [List.nodup_append]
    refine ⟨hseen, List.nodup_singleton name, ?_⟩
    intro a ha b hb hab
    rw [List.mem_singleton] at hb
    rw [hab, hb] at ha
    exact hn ha

/-- A walk meets every name, or has seen it before. -/
theorem Visits.mem {seen names seen' : List String} (h : Visits family seen names seen') :
    ∀ n ∈ names, n ∈ seen' := by
  induction h with
  | done => simp
  | passed hn hrest ih =>
    intro n hmem
    rcases List.mem_cons.1 hmem with rfl | hmem
    · exact hrest.subset n hn
    · exact ih n hmem
  | noted _ hinner hrest _ ihr =>
    intro n hmem
    rcases List.mem_cons.1 hmem with rfl | hmem
    · apply hrest.subset
      apply hinner.subset
      simp
    · exact ihr n hmem

/-- What a walk meets can be reached from one of its names. -/
theorem Visits.reaches {seen names seen' : List String} (h : Visits family seen names seen') :
    ∀ n ∈ seen', n ∈ seen ∨ ∃ name ∈ names, family.Reaches name n := by
  induction h with
  | done =>
    intro n hn
    exact .inl hn
  | passed _ _ ih =>
    intro n hn
    rcases ih n hn with hs | ⟨m, hm, hr⟩
    · exact .inl hs
    · exact .inr ⟨m, List.mem_cons_of_mem _ hm, hr⟩
  | @noted seen _ _ _ name _ _ _ ihi ihr =>
    intro n hn
    rcases ihr n hn with hmid | ⟨m, hm, hr⟩
    · rcases ihi n hmid with hs | ⟨m, hm, hr⟩
      · rcases List.mem_append.1 hs with hs | hs
        · exact .inl hs
        · rw [List.mem_singleton] at hs
          exact .inr ⟨name, List.mem_cons_self, hs ▸ .refl⟩
      · exact .inr ⟨name, List.mem_cons_self, .head (mem_children.1 hm) hr⟩
    · exact .inr ⟨m, List.mem_cons_of_mem _ hm, hr⟩

/-- A walk leaves no model behind whose children it has not seen, but for those whose own children
are still being gone through. -/
theorem Visits.covers {seen names seen' : List String} (h : Visits family seen names seen') :
    ∀ pending : String → Prop,
      (∀ n ∈ seen, ¬ pending n → ∀ c ∈ family.children n, c ∈ seen) →
      ∀ n ∈ seen', ¬ pending n → ∀ c ∈ family.children n, c ∈ seen' := by
  induction h with
  | done => exact fun _ hs => hs
  | passed _ _ ih => exact ih
  | @noted seen mid seen' rest name hn hinner hrest ihi ihr =>
    intro pending hs
    apply ihr pending
    have hopen := ihi (fun n => pending n ∨ n = name) ?_
    · intro n hmid hp c hc
      by_cases hname : n = name
      · subst hname
        exact hinner.mem c hc
      · exact hopen n hmid (fun h => h.elim hp hname) c hc
    · intro n hmem hp c hc
      have hseen : n ∈ seen := by
        rcases List.mem_append.1 hmem with h | h
        · exact h
        · rw [List.mem_singleton] at h
          exact absurd (.inr h) hp
      exact List.mem_append_left _ (hs n hseen (fun h => hp (.inl h)) c hc)

/-! ## The budget of the walk -/

/-- How many models of the family have not been seen. -/
def unseen (family : Family) (seen : List String) : Nat :=
  ((family.map (·.name)).toFinset \ seen.toFinset).card

theorem unseen_mono {seen seen' : List String} (h : ∀ n ∈ seen, n ∈ seen') :
    family.unseen seen' ≤ family.unseen seen := by
  apply Finset.card_le_card
  apply Finset.sdiff_subset_sdiff (Finset.Subset.refl _)
  intro n hn
  rw [List.mem_toFinset] at hn ⊢
  exact h n hn

theorem unseen_lt {seen : List String} {name : String} {s : Schema} (h : name ∉ seen)
    (hs : Schema.ofTarget family (.model name) = .ok s) :
    family.unseen (seen ++ [name]) < family.unseen seen := by
  obtain ⟨m, hm, -⟩ := Schema.ofTarget_eq_ok hs
  have hname : name ∈ (family.map (·.name)).toFinset := by
    rw [List.mem_toFinset, List.mem_map]
    exact ⟨m, mem_of_model? hm, name_of_model? hm⟩
  apply Finset.card_lt_card
  rw [Finset.ssubset_iff_of_subset]
  · exact ⟨name, by simp [hname, h]⟩
  · intro n hn
    simp only [Finset.mem_sdiff, List.mem_toFinset, List.mem_append, not_or] at hn ⊢
    exact ⟨hn.1, hn.2.1⟩

theorem unseen_le_length (family : Family) (seen : List String) :
    family.unseen seen ≤ family.length := by
  calc family.unseen seen ≤ (family.map (·.name)).toFinset.card :=
        Finset.card_le_card Finset.sdiff_subset
    _ ≤ (family.map (·.name)).length := List.toFinset_card_le _
    _ = family.length := List.length_map _

/-- With a budget above the number of models that are left, going through names is a walk. -/
theorem visits_foldl (depth : Nat) (seen names : List String) (h : family.unseen seen < depth) :
    Visits family seen names (names.foldl (family.visitWithin depth) seen) := by
  induction depth generalizing seen names with
  | zero => omega
  | succ depth ih =>
    induction names generalizing seen with
    | nil => exact .done seen
    | cons name rest ihrest =>
      rw [List.foldl_cons]
      by_cases hn : name ∈ seen
      · have hstep : family.visitWithin (depth + 1) seen name = seen := by simp [visitWithin, hn]
        rw [hstep]
        exact .passed hn (ihrest seen h)
      · have hstep : family.visitWithin (depth + 1) seen name =
            (family.children name).foldl (family.visitWithin depth) (seen ++ [name]) := by
          simp [visitWithin, hn]
        rw [hstep]
        have hinner : Visits family (seen ++ [name]) (family.children name)
            ((family.children name).foldl (family.visitWithin depth) (seen ++ [name])) := by
          rcases hs : Schema.ofTarget family (.model name) with e | s
          · -- a refused model nests nothing, so its walk needs no budget
            have hnone : family.children name = [] := by simp [children, hs]
            rw [hnone]
            exact .done _
          · have hlt := unseen_lt hn hs
            exact ih (seen ++ [name]) (family.children name) (by omega)
        have hle : family.unseen _ ≤ family.unseen seen :=
          unseen_mono fun n hmem => hinner.subset n (List.mem_append_left _ hmem)
        exact .noted hn hinner (ihrest _ (by omega))

theorem visits_preorder (family : Family) (name : String) :
    Visits family [] [name] (family.preorder name) :=
  visits_foldl (family.length + 1) [] [name] (Nat.lt_succ_of_le (unseen_le_length family []))

theorem nodup_preorder (family : Family) (name : String) : (family.preorder name).Nodup :=
  (visits_preorder family name).nodup List.nodup_nil

/-- The walk meets what the model leads to, and nothing else. -/
theorem mem_preorder {name inner : String} :
    inner ∈ family.preorder name ↔ family.Reaches name inner := by
  have hvisits := visits_preorder family name
  constructor
  · intro h
    rcases hvisits.reaches inner h with hs | ⟨m, hm, hr⟩
    · cases hs
    · rw [List.mem_singleton] at hm
      exact hm ▸ hr
  · intro h
    have hcovers := hvisits.covers (fun _ => False) (by simp)
    induction h with
    | refl => exact hvisits.mem name List.mem_cons_self
    | tail _ hn ih => exact hcovers _ ih id _ (mem_children.2 hn)

end Family

namespace Registry

open Family

variable {family : Family}

/-! ## Any budget that is large enough -/

/-- Names are registered alike with two budgets, if each name is. -/
theorem registerEach_congr {depth depth' : Nat} {r : Registry} (names : List String)
    (heq : ∀ r name, unregistered family r < depth → unregistered family r < depth' →
      registerWithin family depth r name = registerWithin family depth' r name)
    (h : unregistered family r < depth) (h' : unregistered family r < depth') :
    registerEach (registerWithin family depth) r names =
      registerEach (registerWithin family depth') r names := by
  induction names generalizing r with
  | nil => rfl
  | cons name rest ih =>
    simp only [registerEach]
    rw [heq r name h h']
    rcases hr : (registerWithin family depth' r name).result with e | s
    · rfl
    · have hle := unregistered_registerWithin_le h' name
      dsimp only
      rw [ih (by omega) (by omega)]

/-- A registration does not depend on its budget, once that is above the number of models left. -/
theorem registerWithin_budget {depth depth' : Nat} {r : Registry} {name : String}
    (h : unregistered family r < depth) (h' : unregistered family r < depth') :
    registerWithin family depth r name = registerWithin family depth' r name := by
  induction depth generalizing depth' r name with
  | zero => omega
  | succ depth ih =>
    obtain ⟨depth', rfl⟩ : ∃ d, depth' = d + 1 := ⟨depth' - 1, by omega⟩
    rcases hget : r.get? name with _ | s
    · rcases hs : Schema.ofTarget family (.model name) with e | s
      · simp only [registerWithin, hget, hs]
      · have hlt := unregistered_insert_lt hget hs
        have hinner : registerEach (registerWithin family depth) (r.insert name s) (nested s) =
            registerEach (registerWithin family depth') (r.insert name s) (nested s) :=
          registerEach_congr (nested s) (fun r name => ih) (by omega) (by omega)
        simp only [registerWithin, hget, hs, hinner]
    · simp only [registerWithin, hget]

/-! ## Registrations beside walks -/

/-- A registry that was extended by the models that a walk has seen. -/
structure Tracks (family : Family) (base : String → Prop) (r : Registry) (seen : List String) :
    Prop where
  faithful : Faithful family r
  contains : ∀ n, r.contains n = true ↔ base n ∨ n ∈ seen

theorem Tracks.accepted {base : String → Prop} {r : Registry} {seen : List String}
    (h : Tracks family base r seen) : ∀ n ∈ seen, family.refusal? n = none := by
  intro n hn
  obtain ⟨s, hs⟩ := contains_iff.1 ((h.contains n).2 (.inr hn))
  exact refusal?_eq_none.2 ⟨s, h.faithful n s hs⟩

theorem Tracks.insert {base : String → Prop} {r : Registry} {seen : List String} {name : String}
    {s : Schema} (h : Tracks family base r seen)
    (hs : Schema.ofTarget family (.model name) = .ok s) :
    Tracks family base (r.insert name s) (seen ++ [name]) := by
  refine ⟨h.faithful.insert hs, ?_⟩
  intro n
  rw [List.mem_append, List.mem_singleton, ← or_assoc, ← h.contains, contains_iff, contains_iff]
  by_cases hn : n = name
  · subst hn
    simp
  · simp [get?_insert_ne hn, hn]

/-- Where a registration has come to when a walk is over: it has entered what the walk has met, or
it has failed as the first refused model that the walk has met. -/
def Follows (family : Family) (base : String → Prop) (r : Registry) (seen : List String) :
    Except SchemaFailure Unit → Prop
  | .ok _ => Tracks family base r seen
  | .error e => seen.findSome? family.refusal? = some e

theorem Follows.of_isPrefix {base : String → Prop} {r r' : Registry} {seen seen' : List String}
    {e : SchemaFailure} (h : Follows family base r seen (.error e)) (hseen : seen <+: seen') :
    Follows family base r' seen' (.error e) := by
  obtain ⟨more, rfl⟩ := hseen
  simp only [Follows] at h ⊢
  simp [List.findSome?_append, h]

/-- What is registered at the start is closed, so a walk that goes on there meets nothing new. -/
theorem Tracks.visits {base : String → Prop}
    (hbase : ∀ n inner, base n → family.Reaches n inner → base inner) {r : Registry}
    {seen names mid : List String} (h : Tracks family base r seen) (hnames : ∀ n ∈ names, base n)
    (hvisits : Visits family seen names mid) : Tracks family base r mid := by
  refine ⟨h.faithful, ?_⟩
  intro n
  rw [h.contains]
  constructor
  · intro hn
    exact hn.imp_right (hvisits.subset n)
  · rintro (hn | hn)
    · exact .inl hn
    · rcases hvisits.reaches n hn with hs | ⟨m, hm, hr⟩
      · exact .inr hs
      · exact .inl (hbase m n (hnames m hm) hr)

/-- A registration beside the walk through the same names. -/
theorem Registers.follows {base : String → Prop}
    (hbase : ∀ n inner, base n → family.Reaches n inner → base inner) {r r' : Registry}
    {names : List String} {result : Except SchemaFailure Unit}
    (h : Registers family r names result r') : ∀ seen seen', Tracks family base r seen →
      Visits family seen names seen' → Follows family base r' seen' result := by
  induction h with
  | done =>
    intro seen seen' ht hv
    cases hv
    exact ht
  | @known r r' name rest s result hget hrest ih =>
    intro seen seen' ht hv
    cases hv with
    | passed hn hv => exact ih _ _ ht hv
    | noted hn hinner hv =>
      -- registered but not seen: it was there at the start, with all that it leads to
      have hname : base name := by
        have hc := (ht.contains name).1 (contains_iff.2 ⟨s, hget⟩)
        exact hc.resolve_right hn
      have hstart : Visits family seen [name] _ := .noted hn hinner (.done _)
      exact ih _ _ (ht.visits hbase (by simpa using hname) hstart) hv
  | @refused r name e rest hget hs =>
    intro seen seen' ht hv
    have hn : name ∉ seen := by
      intro hmem
      have hnone := ht.accepted name hmem
      rw [refusal?_eq_some.2 hs] at hnone
      cases hnone
    cases hv with
    | passed h _ => exact absurd h hn
    | noted _ hinner hv =>
      have hfirst : Follows family base r (seen ++ [name]) (.error e) := by
        have hseen : seen.findSome? family.refusal? = none :=
          List.findSome?_eq_none_iff.2 ht.accepted
        simp [Follows, List.findSome?_append, hseen, refusal?_eq_some.2 hs]
      exact hfirst.of_isPrefix (hinner.isPrefix.trans hv.isPrefix)
  | @undone r r' name s e rest hget hs _ ih =>
    intro seen seen' ht hv
    have hn : name ∉ seen := fun hmem => by
      have hc := (ht.contains name).2 (.inr hmem)
      simp [contains, hget] at hc
    cases hv with
    | passed h _ => exact absurd h hn
    | noted _ hinner hv =>
      rw [children_of_ok hs] at hinner
      exact (ih _ _ (ht.insert hs) hinner).of_isPrefix hv.isPrefix
  | @entered r r' r'' name s rest result hget hs _ _ ihi ihr =>
    intro seen seen' ht hv
    have hn : name ∉ seen := fun hmem => by
      have hc := (ht.contains name).2 (.inr hmem)
      simp [contains, hget] at hc
    cases hv with
    | passed h _ => exact absurd h hn
    | noted _ hinner hv =>
      rw [children_of_ok hs] at hinner
      exact ihr _ _ (ihi _ _ (ht.insert hs) hinner) hv

/-! ## The law of registration -/

/-- A registration in a closed registry, beside the walk through the model. -/
theorem follows_register {r : Registry} (hr : Faithful family r) (hc : r.Closed) (name : String) :
    Follows family (fun n => r.contains n = true) (register family r name).registry
      (family.preorder name) ((register family r name).result.map fun _ => ()) := by
  have hbase : ∀ n inner, r.contains n = true → family.Reaches n inner → r.contains inner = true :=
    fun n inner hn hi => hc.contains_of_reaches hr hn hi
  refine (registers_register family r name).follows hbase [] _ ?_ (visits_preorder family name)
  exact ⟨hr, by simp⟩

theorem tracks_of_register_ok {r : Registry} (hr : Faithful family r) (hc : r.Closed)
    {name : String} {s : Schema} (h : (register family r name).result = .ok s) :
    Tracks family (fun n => r.contains n = true) (register family r name).registry
      (family.preorder name) := by
  have hfollows := follows_register hr hc name
  rw [h] at hfollows
  exact hfollows

/-- A registration that succeeds has met accepted models only. -/
theorem accepted_of_register_ok {r : Registry} (hr : Faithful family r) (hc : r.Closed)
    {name : String} {s : Schema} (h : (register family r name).result = .ok s) :
    ∀ inner, family.Reaches name inner → family.refusal? inner = none := by
  intro inner hi
  exact (tracks_of_register_ok hr hc h).accepted inner (mem_preorder.2 hi)

/-- What is registered after a registration that succeeds. -/
theorem get?_register_iff {r : Registry} (hr : Faithful family r) (hc : r.Closed) {name : String}
    {s : Schema} (h : (register family r name).result = .ok s) (inner : String) (t : Schema) :
    (register family r name).registry.get? inner = some t ↔ r.get? inner = some t ∨
      family.Reaches name inner ∧ Schema.ofTarget family (.model inner) = .ok t := by
  have htracks := tracks_of_register_ok hr hc h
  constructor
  · intro hget
    have hof := htracks.faithful inner t hget
    rcases (htracks.contains inner).1 (contains_iff.2 ⟨t, hget⟩) with hold | hmet
    · left
      obtain ⟨u, hu⟩ := contains_iff.1 hold
      rw [hr inner u hu] at hof
      cases hof
      exact hu
    · exact .inr ⟨mem_preorder.1 hmet, hof⟩
  · rintro (hold | ⟨hi, hof⟩)
    · exact (registers_register family r name).get?_of_get? hold
    · obtain ⟨u, hu⟩ := contains_iff.1 ((htracks.contains inner).2 (.inr (mem_preorder.2 hi)))
      rw [htracks.faithful inner u hu] at hof
      cases hof
      exact hu

/-- A registration fails as the first refused model does that the walk meets. -/
theorem register_error_iff {r : Registry} (hr : Faithful family r) (hc : r.Closed) {name : String}
    {e : SchemaFailure} : (register family r name).result = .error e ↔
      (family.preorder name).findSome? family.refusal? = some e := by
  have hfollows := follows_register hr hc name
  rcases h : (register family r name).result with e' | s
  · rw [h] at hfollows
    have hfirst : (family.preorder name).findSome? family.refusal? = some e' := hfollows
    rw [hfirst]
    simp
  · have hnone : (family.preorder name).findSome? family.refusal? = none := by
      rw [List.findSome?_eq_none_iff]
      intro inner hi
      exact accepted_of_register_ok hr hc h inner (mem_preorder.1 hi)
    simp [hnone]

/-- Registering a model ends whatever budget above the number of models it is given. The walk meets
each model that the model leads to once, and no other. In a closed registry, the registration
succeeds just when all of them are accepted, and then adds them and nothing else; otherwise it fails
as the first one that is refused in the order of the walk. -/
theorem registering_enters_what_is_reached (family : Family) {r : Registry}
    (hr : Faithful family r) (hc : r.Closed) (name : String) :
    (∀ depth, family.length < depth → registerWithin family depth r name = register family r name) ∧
    ((family.preorder name).Nodup ∧
      ∀ inner, inner ∈ family.preorder name ↔ family.Reaches name inner) ∧
    ((∃ s, (register family r name).result = .ok s) ↔
      ∀ inner, family.Reaches name inner → ∃ s, Schema.ofTarget family (.model inner) = .ok s) ∧
    (∀ s, (register family r name).result = .ok s →
      Schema.ofTarget family (.model name) = .ok s ∧
      ∀ inner t, (register family r name).registry.get? inner = some t ↔ r.get? inner = some t ∨
        family.Reaches name inner ∧ Schema.ofTarget family (.model inner) = .ok t) ∧
    ∀ e, (register family r name).result = .error e ↔
      (family.preorder name).findSome? family.refusal? = some e := by
  refine ⟨?_, ⟨nodup_preorder family name, fun inner => mem_preorder⟩, ⟨?_, ?_⟩, ?_, ?_⟩
  · intro depth hdepth
    have hle := unregistered_le_length family r
    exact registerWithin_budget (by omega) (by omega)
  · rintro ⟨s, hs⟩ inner hi
    exact refusal?_eq_none.1 (accepted_of_register_ok hr hc hs inner hi)
  · intro haccepted
    have hsound : ¬ family.Doomed name := by
      rintro ⟨inner, hi, e, he⟩
      obtain ⟨s, hs⟩ := haccepted inner hi
      rw [he] at hs
      cases hs
    obtain ⟨s, hs, -⟩ := exists_register_ok hr hsound
    exact ⟨s, hs⟩
  · intro s hs
    exact ⟨ofTarget_of_register_ok hr hs, get?_register_iff hr hc hs⟩
  · intro e
    exact register_error_iff hr hc

/-- A blog and its posts lead to each other; an ad, of which a blog has one, has no directive. -/
def blog : Family :=
  [.plain "Blog" [.bound "author" (.model "Author") (.scrape "author" none none) none,
      .bound "posts" (.list (.model "Post")) (.scrape "post" none none) none,
      .bound "ad" (.model "Ad") (.scrape "ad" none none) none],
    .plain "Post" [.bound "replies" (.list (.model "Post")) (.scrape "reply" none none) none,
      .bound "blog" (.unite false [.model "Blog", .nothing]) (.scrape "blog" none none) none,
      .bound "author" (.model "Author") (.scrape "author" none none) none],
    .plain "Author" [.bound "name" .text (.scrape "name" none none) none],
    .plain "Ad" [⟨"text", .text, [], none, none, none, none, ⟨none, none, none, none⟩, []⟩]]

/-- Authors are registered already; a post then fails as the ad does, the last model of the walk. -/
theorem a_post_is_refused_as_the_ad_is :
    let r := (register blog empty "Author").registry
    Faithful blog r ∧ r.Closed ∧ r.contains "Author" = true ∧
      blog.preorder "Post" = ["Post", "Blog", "Author", "Ad"] ∧
      (register blog r "Post").result = .error ⟨"Ad", .noDirective, some (.name "text")⟩ := by
  have hcoherent : Coherent blog (fun _ => False) (register blog empty "Author").registry := by
    apply (coherent_empty blog _).register
    intro e he
    have hok : (register blog empty "Author").result =
        .ok ⟨"Author", [⟨.name "name", .required, some "name", some ⟨.scalar, none⟩, none, none⟩],
          false⟩ := by cbv
    rw [hok] at he
    cases he
  refine ⟨hcoherent.faithful, hcoherent.closed, by cbv, by cbv, ?_⟩
  apply ((registering_enters_what_is_reached blog hcoherent.faithful hcoherent.closed
    "Post").2.2.2.2 _).2
  cbv

end Registry

end QueryBinding
