-- A default that is handed on, and one that is left to the model. What is handed
-- on is validated like any other value; what is left out takes the default as it
-- is, or validated where the model says so. Both come to the same if validation
-- keeps the default and the name of the field is its own.
import QueryBinding.Proofs.Directives
import QueryBinding.Proofs.Presets

namespace QueryBinding

/-- The name of a field is its own. No other field is looked for under it, no check moves what lies
there, and elsewhere the field is looked for only where nothing is bound. -/
structure Model.Reserves (m : Model) (decl : FieldDecl) : Prop where
  others : ∀ f ∈ m.fields, f.name ≠ decl.name → ∀ way ∈ Validation.waysTo m f,
    ∃ head rest, way = head :: rest ∧ head ≠ .name decl.name
  own : ∀ way ∈ Validation.waysTo m decl, way = [.name decl.name] ∨
    ∃ head rest, way = head :: rest ∧ ∀ key, head = .name key →
      (∀ f ∈ m.fields, key ≠ f.name) ∧ ∀ old, .rename old (some key) ∉ m.checks
  checks : ∀ old new, .rename old new ∈ m.checks → old ≠ decl.name ∧ new ≠ some decl.name

namespace Validation

variable {m : Model} {decl f : FieldDecl} {data : Entries} {key : String}

/-! ## Checks before reading -/

theorem remove_renameKey {old : String} {new : Option String} (hold : old ≠ key)
    (hnew : new ≠ some key) (data : Entries) :
    Keyed.remove key (renameKey old new data) = renameKey old new (Keyed.remove key data) := by
  unfold renameKey
  cases new with
  | none => exact Keyed.remove_comm key old data
  | some k =>
    have hk : k ≠ key := fun h => hnew (congrArg some h)
    dsimp only
    rw [Keyed.remove_put_ne hk, Keyed.remove_comm, Keyed.lookup_remove_ne hold]

theorem lookup_renameKey {old : String} {new : Option String} (hold : old ≠ key)
    (hnew : new ≠ some key) (data : Entries) :
    (renameKey old new data).lookup key = data.lookup key := by
  unfold renameKey
  cases new with
  | none => exact Keyed.lookup_remove_ne hold.symm data
  | some k =>
    have hk : key ≠ k := fun h => hnew (congrArg some h.symm)
    dsimp only
    rw [Keyed.lookup_put_ne hk, Keyed.lookup_remove_ne hold.symm]

/-- What lies under a reserved name is neither moved nor looked at. -/
theorem prepare_reserved (h : m.Reserves decl) (data : Entries) :
    Keyed.remove decl.name (prepare m data) = prepare m (Keyed.remove decl.name data) ∧
      (prepare m data).lookup decl.name = data.lookup decl.name := by
  have hchecks := h.checks
  unfold prepare
  generalize m.checks = checks at hchecks
  induction checks with
  | nil => exact ⟨rfl, rfl⟩
  | cons c checks ih =>
    obtain ⟨hremove, hlookup⟩ := ih fun old new hmem =>
      hchecks old new (List.mem_cons_of_mem c hmem)
    rw [List.foldr_cons, List.foldr_cons]
    cases c with
    | equal => exact ⟨hremove, hlookup⟩
    | accepted => exact ⟨hremove, hlookup⟩
    | rename old new =>
      obtain ⟨hold, hnew⟩ := hchecks old new List.mem_cons_self
      dsimp only
      rw [remove_renameKey hold hnew, hremove, lookup_renameKey hold hnew]
      exact ⟨rfl, hlookup⟩

/-- Every key is the name of a field, or one that a check moves something to. -/
def Known (m : Model) (data : Entries) : Prop :=
  ∀ key u, data.lookup key = some u →
    (∃ f ∈ m.fields, key = f.name) ∨ ∃ old, .rename old (some key) ∈ m.checks

theorem lookup_renameKey_cases {old : String} {new : Option String} {u : Value}
    (h : (renameKey old new data).lookup key = some u) :
    new = some key ∨ data.lookup key = some u := by
  have hrest : (Keyed.remove old data).lookup key = some u → data.lookup key = some u := by
    intro h
    by_cases hk : key = old
    · rw [hk, Keyed.lookup_remove_self] at h
      cases h
    · rwa [Keyed.lookup_remove_ne hk] at h
  unfold renameKey at h
  cases new with
  | none => exact .inr (hrest h)
  | some k =>
    by_cases hk : key = k
    · exact .inl (congrArg some hk.symm)
    · dsimp only at h
      rw [Keyed.lookup_put_ne hk] at h
      exact .inr (hrest h)

theorem known_prepare (h : Known m data) : Known m (prepare m data) := by
  intro key u hu
  have hkey : (∃ old, .rename old (some key) ∈ m.checks) ∨ ∃ u, data.lookup key = some u := by
    unfold prepare at hu
    -- the checks are a fold from the right, so the last of them comes first
    generalize m.checks = checks at hu ⊢
    induction checks generalizing u with
    | nil => exact .inr ⟨u, hu⟩
    | cons c checks ih =>
      have hlater : ∀ u, (prepare { m with checks := checks } data).lookup key = some u →
          (∃ old, .rename old (some key) ∈ c :: checks) ∨ ∃ u, data.lookup key = some u :=
        fun u hu => (ih u hu).imp_left fun ⟨old, hold⟩ => ⟨old, List.mem_cons_of_mem c hold⟩
      cases c with
      | equal => exact hlater u hu
      | accepted => exact hlater u hu
      | rename old new =>
        rcases lookup_renameKey_cases hu with rfl | hu
        · exact .inl ⟨old, List.mem_cons_self⟩
        · exact hlater u hu
  rcases hkey with hrenamed | ⟨u, hu⟩
  · exact .inr hrenamed
  · exact h key u hu

theorem known_remove (key : String) (h : Known m data) : Known m (Keyed.remove key data) := by
  intro other u hu
  by_cases hother : other = key
  · rw [hother, Keyed.lookup_remove_self] at hu
    cases hu
  · rw [Keyed.lookup_remove_ne hother] at hu
    exact h other u hu

/-! ## Looking for fields -/

theorem follow?_remove {head : Identifier} (h : head ≠ .name key) (rest : Path) (data : Entries) :
    follow? (Keyed.remove key data) (head :: rest) = follow? data (head :: rest) := by
  cases head with
  | position i => rfl
  | name k =>
    have hk : k ≠ key := fun hk => h (congrArg Identifier.name hk)
    change ((Keyed.remove key data).lookup k).bind _ = (data.lookup k).bind _
    rw [Keyed.lookup_remove_ne hk]

theorem find?_remove (h : m.Reserves decl) (hf : f ∈ m.fields) (hne : f.name ≠ decl.name) :
    find? m f (Keyed.remove decl.name data) = find? m f data := by
  have hways := h.others f hf hne
  unfold find?
  generalize waysTo m f = ways at hways
  induction ways with
  | nil => rfl
  | cons way ways ih =>
    obtain ⟨head, rest, rfl, hhead⟩ := hways way List.mem_cons_self
    rw [List.findSome?_cons, List.findSome?_cons, follow?_remove hhead,
      ih fun way hway => hways way (List.mem_cons_of_mem _ hway)]

/-- A field with a reserved name is found under its name, or not at all. -/
theorem find?_reserved (h : m.Reserves decl) (hname : [.name decl.name] ∈ waysTo m decl)
    (hdata : Known m data) :
    find? m decl data = (data.lookup decl.name).map fun v => ([.name decl.name], v) := by
  have hways : ∀ way ∈ waysTo m decl, way = [.name decl.name] ∨ follow? data way = none := by
    intro way hway
    refine (h.own way hway).imp_right ?_
    -- a way to anything would start at a key, and every key belongs to a field or to a check
    rintro ⟨head, rest, rfl, hhead⟩
    by_contra hfollow
    obtain ⟨u, hu⟩ := Option.ne_none_iff_exists'.1 hfollow
    obtain ⟨key, x, rfl, hx, -⟩ := exists_key_of_follow? hu
    obtain ⟨hfields, hchecks⟩ := hhead key rfl
    rcases hdata key x hx with ⟨f, hf, hkey⟩ | ⟨old, hold⟩
    · exact hfields f hf hkey
    · exact hchecks old hold
  unfold find?
  generalize waysTo m decl = ways at hname hways
  cases hl : data.lookup decl.name with
  | none =>
    refine List.findSome?_eq_none_iff.2 fun way hway => ?_
    rcases hways way hway with rfl | hnone
    · rw [follow?_name, hl]
      rfl
    · rw [hnone]
      rfl
  | some v =>
    induction ways with
    | nil => cases hname
    | cons way ways ih =>
      rw [List.findSome?_cons]
      by_cases hway : way = [.name decl.name]
      · rw [hway, follow?_name, hl]
        rfl
      · have hmem : [.name decl.name] ∈ ways := (List.mem_cons.1 hname).resolve_left (Ne.symm hway)
        rw [(hways way List.mem_cons_self).resolve_left hway]
        exact ih hmem fun way hway => hways way (List.mem_cons_of_mem _ hway)

/-! ## Reading fields -/

/-- What becomes of a default that is left to the model, given the fields before it. -/
def leftOut (build : Build) (m : Model) (decl : FieldDecl) (earlier : Entries) (v : Value) :
    Checked Value :=
  if m.config.validateDefault then checkField build decl earlier v else .ok v

variable {build : Build} {v : Value} {earlier : Entries}

theorem defaultField_eq (hv : decl.default? = some v) : defaultField build m decl earlier =
    located [.name decl.name] (leftOut build m decl earlier v) := by
  unfold defaultField leftOut
  rw [hv]
  cases m.config.validateDefault <;> rfl

theorem readField_reserved (h : m.Reserves decl) (hname : [.name decl.name] ∈ waysTo m decl)
    (hdata : Known m data) (hv : decl.default? = some v) :
    readField build m data decl earlier = located [.name decl.name]
      (match data.lookup decl.name with
        | some u => checkField build decl earlier u
        | none => leftOut build m decl earlier v) := by
  have hlocate : locate m decl [.name decl.name] = [.name decl.name] := by
    unfold locate
    split <;> rfl
  unfold readField
  rw [find?_reserved h hname hdata]
  cases data.lookup decl.name with
  | none => exact defaultField_eq hv
  | some u =>
    dsimp only [Option.map_some]
    rw [hlocate]

theorem readField_remove (h : m.Reserves decl) (hf : f ∈ m.fields) (hne : f.name ≠ decl.name) :
    readField build m (Keyed.remove decl.name data) f earlier =
      readField build m data f earlier := by
  unfold readField
  rw [find?_remove h hf hne]

/-- Fields are read alike from data in which each of them is read alike. -/
theorem readEach_congr {data data' : Entries} {fs : List FieldDecl}
    (h : ∀ f ∈ fs, ∀ earlier, readField build m data f earlier = readField build m data' f earlier)
    (earlier : Entries) : readEach build m data fs earlier = readEach build m data' fs earlier := by
  induction fs generalizing earlier with
  | nil => rfl
  | cons f fs ih =>
    have hrest := ih fun g hg => h g (List.mem_cons_of_mem _ hg)
    simp only [readEach, h f List.mem_cons_self, hrest]

/-! ## Leaving a default out -/

variable (h : m.Reserves decl) (hn : (m.fields.map (·.name)).Nodup) (hd : decl ∈ m.fields)
  (hname : [.name decl.name] ∈ waysTo m decl) (hdata : Known m data)

include h hn hd hname hdata

theorem mem_usedKeys_remove (hkey : key ≠ decl.name) :
    .name key ∈ usedKeys m (Keyed.remove decl.name data) ↔ .name key ∈ usedKeys m data := by
  have hfound : ∀ f ∈ m.fields,
      (((find? m f (Keyed.remove decl.name data)).bind fun p => p.1.head?) = some (.name key) ↔
        ((find? m f data).bind fun p => p.1.head?) = some (.name key)) := by
    intro f hf
    by_cases heq : f.name = decl.name
    · have hnever : ∀ data, Known m data →
          ((find? m decl data).bind fun p => p.1.head?) ≠ some (.name key) := by
        intro data hdata
        rw [find?_reserved h hname hdata]
        cases data.lookup decl.name with
        | none => simp
        | some u => simpa using hkey.symm
      obtain rfl := List.inj_on_of_nodup_map hn hf hd heq
      exact iff_of_false (hnever _ (known_remove _ hdata)) (hnever _ hdata)
    · rw [find?_remove h hf heq]
  unfold usedKeys
  rw [List.mem_filterMap, List.mem_filterMap]
  exact exists_congr fun f => and_congr_right fun hf => hfound f hf

theorem extraIssues_remove :
    extraIssues m (Keyed.remove decl.name data) = extraIssues m data := by
  have hown : ∀ e ∈ data, e.1 = decl.name → .name decl.name ∈ usedKeys m data := by
    intro e he hkey
    cases hl : data.lookup decl.name with
    | none =>
      have hne := List.lookup_eq_none_iff.1 hl e he
      simp [hkey] at hne
    | some u =>
      refine List.mem_filterMap.2 ⟨decl, hd, ?_⟩
      rw [find?_reserved h hname hdata, hl]
      rfl
  have hfilter : (Keyed.remove decl.name data).filter (fun e =>
      !(usedKeys m (Keyed.remove decl.name data)).contains (.name e.1)) =
      data.filter fun e => !(usedKeys m data).contains (.name e.1) := by
    rw [Keyed.remove, List.filter_filter]
    refine List.filter_congr fun e he => ?_
    by_cases hkey : e.1 = decl.name
    · simp [hkey, hown e he hkey]
    · have hmem := mem_usedKeys_remove h hn hd hname hdata hkey
      rw [Keyed.remove] at hmem
      simp [hkey, hmem]
  unfold extraIssues
  split
  · exact congrArg _ hfilter
  · rfl

/-- A default under a reserved name is read as if it were left out, if validation keeps it. -/
theorem readFields_remove {v : Value} (hv : decl.default? = some v)
    (hlookup : data.lookup decl.name = some v)
    (hkeeps : ∀ earlier, checkField build decl earlier v = leftOut build m decl earlier v) :
    readFields build m (Keyed.remove decl.name data) = readFields build m data := by
  have hread : ∀ f ∈ m.fields, ∀ earlier,
      readField build m (Keyed.remove decl.name data) f earlier =
        readField build m data f earlier := by
    intro f hf earlier
    by_cases heq : f.name = decl.name
    · obtain rfl := List.inj_on_of_nodup_map hn hf hd heq
      rw [readField_reserved h hname (known_remove _ hdata) hv, Keyed.lookup_remove_self,
        readField_reserved h hname hdata hv, hlookup]
      exact congrArg _ (hkeeps earlier).symm
    · exact readField_remove h hf heq
  unfold readFields
  rw [readEach_congr hread, extraIssues_remove h hn hd hname hdata]

theorem recordOf_remove {v : Value} (hv : decl.default? = some v)
    (hlookup : data.lookup decl.name = some v)
    (hkeeps : ∀ earlier, checkField build decl earlier v = leftOut build m decl earlier v) :
    recordOf build m (Keyed.remove decl.name data) = recordOf build m data := by
  obtain ⟨hprepare, hsame⟩ := prepare_reserved h data
  have hread := readFields_remove h hn hd hname (known_prepare hdata) hv (hsame.trans hlookup)
    hkeeps
  unfold recordOf
  rw [← hprepare, hread]

/-- The field holds what becomes of its value, or of its default. -/
theorem held_of_recordOf {v x : Value} (hv : decl.default? = some v)
    (hx : recordOf build m data = .ok x) : ∃ y, x.held? decl.name = some y ∧
      (match data.lookup decl.name with
        | some u => checkField build decl (x.before decl.name) u
        | none => leftOut build m decl (x.before decl.name) v) = .ok y := by
  obtain ⟨fields, rfl, hread, -⟩ := recordOf_eq_ok.1 hx
  obtain ⟨y, hlookup, hy⟩ := (readFields_eq_ok.1 hread).1.lookup hn decl hd
  rw [readField_reserved h hname (known_prepare hdata) hv, located_eq_ok,
    (prepare_reserved h data).2] at hy
  exact ⟨y, hlookup, hy⟩

end Validation

/-! ## Instances -/

/-- A field of a model of the family that can rest on a default, under a name of its own. -/
structure Family.Rests (family : Family) (m : Model) (decl : FieldDecl) (v : Value) : Prop where
  model : family.model? m.name = some m
  declared : m.Declared
  mem : decl ∈ m.fields
  default : decl.default? = some v
  reserved : m.wraps = true ∨ m.Reserves decl

namespace Family.Rests

variable {family : Family} {m : Model} {decl : FieldDecl} {v : Value}

theorem fields_eq (h : family.Rests m decl v) (hw : m.wraps = true) : m.fields = [decl] := by
  obtain ⟨f, hf⟩ := h.declared.single hw
  have hmem := h.mem
  rw [hf, List.mem_singleton] at hmem
  rw [hf, hmem]

theorem reserves (h : family.Rests m decl v) (hw : m.wraps = false) : m.Reserves decl := by
  refine h.reserved.resolve_left ?_
  rw [hw]
  exact Bool.false_ne_true

end Family.Rests

namespace Validation

variable {family : Family} {m : Model} {decl : FieldDecl} {v : Value} {data : Entries}

/-- Validation keeps a default behind some fields: validated as a value, it is what it is when it is
left out. -/
def KeepsDefaultBehind (family : Family) (m : Model) (decl : FieldDecl) (v : Value)
    (earlier : Entries) : Prop :=
  validated family m decl earlier v = leftOut (builder family m none) m decl earlier v

/-- Validation keeps a default, whatever the fields before it hold. -/
def KeepsDefault (family : Family) (m : Model) (decl : FieldDecl) (v : Value) : Prop :=
  ∀ earlier, KeepsDefaultBehind family m decl v earlier

/-- If the checks of a field look at its own value only, then validation keeps a default behind all
fields or behind none. -/
theorem keepsDefault_of_solitary (h : decl.Solitary) {earlier : Entries}
    (hkeeps : KeepsDefaultBehind family m decl v earlier) : KeepsDefault family m decl v := by
  intro earlier'
  have hcheck : ∀ family' root,
      checkField (builder family' m root) decl earlier' v =
        checkField (builder family' m root) decl earlier v := fun _ _ =>
    (checkField_solitary h earlier' v).trans (checkField_solitary h earlier v).symm
  unfold KeepsDefaultBehind validated leftOut at hkeeps ⊢
  simpa only [hcheck] using hkeeps

/-- What becomes of a field that is bound to a value, or left to its default. -/
def taken (family : Family) (m : Model) (decl : FieldDecl) (v : Value) (earlier : Entries) :
    Option Value → Checked Value
  | some u => validated family m decl earlier u
  | none => leftOut (builder family m none) m decl earlier v

theorem wrapperOf_none (hv : decl.default? = some v) (hfields : m.fields = [decl])
    (hw : m.wraps = true) (hkeeps : KeepsDefaultBehind family m decl v []) :
    wrapperOf family m none = wrapperOf family m (some v) := by
  have hhead : m.fields.head? = some decl := by rw [hfields]; rfl
  have hleft : wrapperOf family m none = (do
      let root ← leftOut (builder family m none) m decl [] v
      return .rooted m.name root) := by
    simp only [wrapperOf, rootedOf, hhead, hv, leftOut]
    split <;> rfl
  rw [hleft, ← hkeeps, validated, hw]
  simp only [wrapperOf, rootedOf, hhead, if_true]

end Validation

namespace Binder

variable {family : Family} {m : Model} {decl : FieldDecl} {v : Value} {mode : BindingMode}
  {fs gs : List FieldSpec} {i : Identifier}

/-- The schema of a model whose field rests on its default. -/
def restingSchema (m : Model) (fs gs : List FieldSpec) (i : Identifier) (mode : BindingMode)
    (v : Value) : Schema := ⟨m.name, fs ++ .resting i mode v :: gs, m.wraps⟩

/-- The values of a model whose field rests on its default. -/
def restingValues (fs gs : List FieldSpec) (i : Identifier) (mode : BindingMode) (v : Value)
    (vs ws : List (Option Value)) : Bound :=
  boundOf fs vs ++
    (((FieldSpec.resting i mode v).factory.map fun v => (i, v)).toList ++ boundOf gs ws)

theorem mem_identifiers_of_mem_boundOf {vs : List (Option Value)} {p : Identifier × Value}
    (hp : p ∈ boundOf fs vs) : p.1 ∈ fs.map (·.identifier) := by
  obtain ⟨⟨f, o⟩, hmem, hsome⟩ := List.mem_filterMap.1 hp
  obtain ⟨u, -, rfl⟩ := Option.map_eq_some_iff.1 hsome
  exact List.mem_map_of_mem (List.of_mem_zip hmem).1

theorem rejected_redirect (s : Schema) (ds : FieldDecl → List Directive) (m : Model) :
    rejected s (m.redirect ds) = rejected s m := by
  have hpath : ∀ location, errorPath s (m.redirect ds) location = errorPath s m location := by
    intro location
    cases location with
    | nil => rfl
    | cons head rest =>
      have hfind : (m.redirect ds).fields.find? (fun f => errorPath.answersTo f head) =
          (m.fields.find? fun f => errorPath.answersTo f head).map (·.redirect ds) := List.find?_map
      unfold errorPath
      dsimp only
      rw [hfind]
      cases m.fields.find? fun f => errorPath.answersTo f head <;> rfl
  funext issues
  cases issues with
  | nil => rfl
  | cons issue issues => simp only [rejected, hpath]

theorem rejected_congr {s s' : Schema} (hpos : s.positional = s'.positional)
    (hid : s.identifiers = s'.identifiers) (m : Model) : rejected s m = rejected s' m := by
  funext issues
  cases issues with
  | nil => rfl
  | cons issue issues => simp only [rejected, errorPath, hpos, hid]

/-- Values are put together as without the directive that binds a field. -/
theorem assemble_rebind (hm : family.model? m.name = some m) {field : String} {d : Directive}
    {s : Schema} (hs : Schema.ofModel (m.rebind field d) = .ok s) (values : Bound) :
    assemble (family.rebind m.name field d) s values =
      (if m.wraps then Validation.wrapperOf family m (values.lookup (.position 0))
        else Validation.instanceOf family m (namedEntries values)).mapError (rejected s m) := by
  have hm' : (family.rebind m.name field d).model? (m.rebind field d).name =
      some (m.rebind field d) := Family.model?_rebind_self hm
  have hw : (m.rebind field d).wraps = m.wraps := rfl
  rw [assemble_eq hm' hs, hw, Validation.wrapperOf_rebind, Validation.instanceOf_rebind,
    Model.rebind, rejected_redirect]

theorem namedEntries_append (xs ys : Bound) :
    namedEntries (xs ++ ys) = namedEntries xs ++ namedEntries ys := List.filterMap_append

theorem mem_namedEntries {values : Bound} {e : String × Value} :
    e ∈ namedEntries values ↔ (.name e.1, e.2) ∈ values := by
  unfold namedEntries
  rw [List.mem_filterMap]
  constructor
  · rintro ⟨⟨i, u⟩, hmem, hsome⟩
    cases i with
    | name n =>
      cases hsome
      exact hmem
    | position p => cases hsome
  · intro hmem
    exact ⟨_, hmem, rfl⟩

/-- The entries with a default under the name of its field are those without it, and the default. -/
theorem remove_restingValues {name : String} (hfs : .name name ∉ fs.map (·.identifier))
    (hgs : .name name ∉ gs.map (·.identifier)) (v : Value) (vs ws : List (Option Value)) :
    Keyed.remove name (namedEntries (restingValues fs gs (.name name) .useDefault v vs ws)) =
        namedEntries (boundOf fs vs ++ boundOf gs ws) ∧
      (namedEntries (restingValues fs gs (.name name) .useDefault v vs ws)).lookup name =
        some v := by
  have hnone : ∀ {fs : List FieldSpec} (vs : List (Option Value)),
      .name name ∉ fs.map (·.identifier) → (namedEntries (boundOf fs vs)).lookup name = none := by
    intro fs vs hfs
    refine List.lookup_eq_none_iff.2 fun e he => bne_iff_ne.2 ?_
    rintro rfl
    exact hfs (mem_identifiers_of_mem_boundOf (mem_namedEntries.1 he))
  have hentries : namedEntries (restingValues fs gs (.name name) .useDefault v vs ws) =
      namedEntries (boundOf fs vs) ++ (name, v) :: namedEntries (boundOf gs ws) :=
    namedEntries_append _ _
  constructor
  · rw [hentries, namedEntries_append, Keyed.remove_append, Keyed.remove_cons, if_pos rfl,
      Keyed.remove_of_lookup_eq_none (hnone vs hfs), Keyed.remove_of_lookup_eq_none (hnone ws hgs)]
  · rw [hentries, List.lookup_append, hnone vs hfs, List.lookup_cons_self]
    rfl

theorem identifiers_restingSchema (m : Model) (fs gs : List FieldSpec) (i : Identifier)
    (mode : BindingMode) (v : Value) : (restingSchema m fs gs i mode v).identifiers =
      fs.map (·.identifier) ++ i :: gs.map (·.identifier) := by
  rw [Schema.identifiers, restingSchema, List.map_append]
  rfl

theorem rejected_restingSchema (m : Model) (fs gs : List FieldSpec) (i : Identifier)
    (mode mode' : BindingMode) (v : Value) : rejected (restingSchema m fs gs i mode v) m =
      rejected (restingSchema m fs gs i mode' v) m := by
  have hid : (restingSchema m fs gs i mode v).identifiers =
      (restingSchema m fs gs i mode' v).identifiers := by
    rw [identifiers_restingSchema, identifiers_restingSchema]
  exact rejected_congr (by rfl) hid m

section

variable (hs : Schema.ofModel (m.rebind decl.name (.silent mode)) =
  .ok (restingSchema m fs gs i mode v))

include hs

/-- The values of a model that wraps its field are the one value of the field, or none. -/
theorem lookup_restingValues_of_wraps (hm : m.Declared) (hw : m.wraps = true)
    (vs ws : List (Option Value)) : (restingValues fs gs i mode v vs ws).lookup (.position 0) =
      (FieldSpec.resting i mode v).factory := by
  have hid := Schema.identifiers_of_wraps hs (hm.rebind _ _) hw
  rw [identifiers_restingSchema, List.append_eq_singleton_iff] at hid
  rcases hid with ⟨hfs, hid⟩ | ⟨-, hnil⟩
  · obtain ⟨rfl, hgs⟩ := List.cons_eq_cons.1 hid
    rw [List.map_eq_nil_iff] at hfs hgs
    rw [hfs, hgs, restingValues]
    cases (FieldSpec.resting (.position 0) mode v).factory <;> rfl
  · cases hnil

theorem names_restingSchema (hw : m.wraps = false) (hi : i = .name decl.name) :
    fs.map (·.identifier) ++ .name decl.name :: gs.map (·.identifier) =
      m.fields.map fun f => .name f.name := by
  have hid := Schema.identifiers_of_names hs hw
  rw [identifiers_restingSchema, hi] at hid
  rw [hid, Model.rebind, Model.redirect, List.map_map]
  rfl

/-- Every key among the values is the name of a field. -/
theorem known_restingValues (hw : m.wraps = false) (hi : i = .name decl.name)
    (vs ws : List (Option Value)) :
    Validation.Known m (namedEntries (restingValues fs gs i mode v vs ws)) := by
  intro key u hu
  obtain ⟨e, he, hkey⟩ : ∃ e ∈ namedEntries (restingValues fs gs i mode v vs ws), key = e.1 := by
    by_contra hnone
    have hlookup : (namedEntries (restingValues fs gs i mode v vs ws)).lookup key = none :=
      List.lookup_eq_none_iff.2 fun e he => bne_iff_ne.2 fun hkey => hnone ⟨e, he, hkey⟩
    rw [hlookup] at hu
    cases hu
  have hid : Identifier.name e.1 ∈ m.fields.map fun f => Identifier.name f.name := by
    rw [← names_restingSchema hs hw hi, ← hi, List.mem_append, List.mem_cons]
    rcases List.mem_append.1 (mem_namedEntries.1 he) with hmem | hmem
    · exact .inl (mem_identifiers_of_mem_boundOf hmem)
    · rcases List.mem_append.1 hmem with hmem | hmem
      · obtain ⟨u, -, heq⟩ := Option.map_eq_some_iff.1 (Option.mem_toList.1 hmem)
        exact .inr (.inl (congrArg Prod.fst heq).symm)
      · exact .inr (.inr (mem_identifiers_of_mem_boundOf hmem))
  obtain ⟨f, hf, hname⟩ := List.mem_map.1 hid
  exact .inl ⟨f, hf, hkey.trans (Identifier.name.inj hname).symm⟩

/-- The name of the field is a way to it. -/
theorem name_mem_waysTo_of_rebind (hd : decl ∈ m.fields) (hw : m.wraps = false) :
    [.name decl.name] ∈ Validation.waysTo m decl := by
  have hd' : decl.redirect (FieldDecl.rebound decl.name (.silent mode)) ∈
      (m.rebind decl.name (.silent mode)).fields := List.mem_map_of_mem hd
  obtain ⟨f, -, k, hf⟩ := Schema.exists_spec hs hd'
  obtain ⟨d, -, -, haliases⟩ := Schema.fieldOf_eq_ok hf
  exact Validation.name_mem_waysTo fun _ => haliases hw

/-- No other field has the identifier of the field. -/
theorem identifier_not_mem (hm : m.Declared) :
    i ∉ fs.map (·.identifier) ∧ i ∉ gs.map (·.identifier) := by
  have hn := Schema.nodup_identifiers hs (hm.rebind _ _)
  rw [identifiers_restingSchema] at hn
  obtain ⟨-, hgs, hfs⟩ := List.nodup_append.1 hn
  exact ⟨fun hmem => hfs _ hmem _ List.mem_cons_self rfl, (List.nodup_cons.1 hgs).1⟩

/-- A default that validation keeps is put together with the other values as if it were left out. -/
theorem assemble_resting (h : family.Rests m decl v)
    (hkeeps : Validation.KeepsDefault family m decl v) (hq : mode.queries = false)
    (hi : m.wraps = false → i = .name decl.name) (vs ws : List (Option Value)) :
    assemble (family.resting m decl mode) (restingSchema m fs gs i mode v)
        (restingValues fs gs i mode v vs ws) =
      (if m.wraps then Validation.wrapperOf family m none
        else Validation.instanceOf family m
          (namedEntries (boundOf fs vs ++ boundOf gs ws))).mapError
            (rejected (restingSchema m fs gs i .ignore v) m) := by
  rw [Family.resting, assemble_rebind h.model hs, rejected_restingSchema m fs gs i mode .ignore v]
  refine congrArg (Except.mapError _) ?_
  cases hw : m.wraps with
  | true =>
    have hf := h.fields_eq hw
    rw [if_pos rfl, if_pos rfl, lookup_restingValues_of_wraps hs h.declared hw]
    cases mode with
    | useDefault => exact (Validation.wrapperOf_none h.default hf hw (hkeeps [])).symm
    | ignore => rfl
    | _ => cases hq
  | false =>
    rw [if_neg Bool.false_ne_true, if_neg Bool.false_ne_true]
    cases mode with
    | useDefault =>
      obtain rfl := hi hw
      obtain ⟨hfs, hgs⟩ := identifier_not_mem hs h.declared
      obtain ⟨hremove, hlookup⟩ := remove_restingValues hfs hgs v vs ws
      have hkept : ∀ earlier,
          Validation.checkField (Validation.builder family m none) decl earlier v =
            Validation.leftOut (Validation.builder family m none) m decl earlier v := by
        intro earlier
        rw [← hkeeps earlier, Validation.validated, hw]
        rfl
      rw [← hremove]
      exact (Validation.recordOf_remove (h.reserves hw) h.declared.distinct h.mem
        (name_mem_waysTo_of_rebind hs h.mem hw) (known_restingValues hs hw rfl vs ws) h.default
        hlookup hkept).symm
    | ignore => rfl
    | _ => cases hq

/-- Under the name of the field lies its default, if it is handed on. -/
theorem lookup_restingValues (hm : m.Declared) (hi : i = .name decl.name)
    (vs ws : List (Option Value)) :
    (namedEntries (restingValues fs gs i mode v vs ws)).lookup decl.name =
      (FieldSpec.resting i mode v).factory := by
  subst hi
  obtain ⟨hfs, hgs⟩ := identifier_not_mem hs hm
  obtain ⟨hremove, hlookup⟩ := remove_restingValues hfs hgs v vs ws
  cases mode with
  | useDefault => exact hlookup
  | _ =>
    change (namedEntries (boundOf fs vs ++ boundOf gs ws)).lookup decl.name = none
    rw [← hremove]
    exact Keyed.lookup_remove_self _ _

/-- The field of an instance holds what becomes of its default. -/
theorem held_of_assemble_resting (h : family.Rests m decl v)
    (hi : m.wraps = false → i = .name decl.name) {vs ws : List (Option Value)} {x : Value}
    (hx : assemble (family.resting m decl mode) (restingSchema m fs gs i mode v)
      (restingValues fs gs i mode v vs ws) = .ok x) : ∃ y, x.held? decl.name = some y ∧
        Validation.taken family m decl v (x.before decl.name)
          (FieldSpec.resting i mode v).factory = .ok y := by
  rw [Family.resting, assemble_rebind h.model hs] at hx
  have hx := Validation.eq_ok_of_mapError hx
  cases hw : m.wraps with
  | true =>
    have hf := h.fields_eq hw
    rw [hw, if_pos rfl, lookup_restingValues_of_wraps hs h.declared hw] at hx
    obtain ⟨root, rfl, hroot⟩ := Validation.settled_of_wrapperOf hf hw hx
    refine ⟨root, rfl, ?_⟩
    cases hfactory : (FieldSpec.resting i mode v).factory with
    | some u =>
      rw [hfactory] at hroot
      exact hroot
    | none =>
      rw [hfactory, Validation.settled, Validation.defaultField_eq h.default,
        Validation.located_eq_ok] at hroot
      exact hroot
  | false =>
    rw [hw, if_neg Bool.false_ne_true] at hx
    obtain ⟨y, hy, htaken⟩ := Validation.held_of_recordOf (h.reserves hw) h.declared.distinct
      h.mem (name_mem_waysTo_of_rebind hs h.mem hw) (known_restingValues hs hw (hi hw) vs ws)
      h.default hx
    refine ⟨y, hy, ?_⟩
    rw [lookup_restingValues hs h.declared (hi hw)] at htaken
    cases hfactory : (FieldSpec.resting i mode v).factory with
    | some u =>
      rw [hfactory] at htaken
      rw [Validation.taken, Validation.validated, hw]
      exact htaken
    | none =>
      rw [hfactory] at htaken
      exact htaken

end

end Binder

end QueryBinding
