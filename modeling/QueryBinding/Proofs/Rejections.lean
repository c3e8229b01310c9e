-- Where a rejected value is blamed. The first complaint is told at the field to
-- which the head of its location leads back; that is the field that complains
-- unless the value was looked for on a way that leads to no field, or to another.
import QueryBinding.Proofs.Acceptance
import QueryBinding.Proofs.OwnValues

namespace QueryBinding

namespace Validation

/-! ## Complaints -/

/-- What is wrong, if something is. -/
def issuesOf {α : Type} : Checked α → List Issue
  | .ok _ => []
  | .error is => is

theorem issuesOf_map {α β : Type} (g : α → β) (x : Checked α) :
    issuesOf (x.map g) = issuesOf x := by
  cases x <;> rfl

theorem issuesOf_located {α : Type} (at_ : Path) (x : Checked α) :
    issuesOf (located at_ x) = (issuesOf x).map (Issue.under at_) := by
  cases x <;> rfl

variable {build : Build} {m : Model} {f : FieldDecl} {fs : List FieldDecl}
  {data earlier : Entries}

/-- The keys of the data that no field uses, where they are forbidden. -/
def unknownKeys (m : Model) (data : Entries) : List String :=
  if m.config.forbidExtra then
    (data.map (·.1)).filter fun k => !(usedKeys m data).contains (.name k)
  else []

theorem extraIssues_eq (m : Model) (data : Entries) :
    extraIssues m data =
      (unknownKeys m data).map fun k => Issue.under [.name k] extraForbidden := by
  unfold extraIssues unknownKeys
  split
  · rw [List.filter_map, List.map_map]
    rfl
  · rfl

/-- The complaints about fields come in declaration order. -/
theorem issuesOf_readEach_cons : issuesOf (readEach build m data (f :: fs) earlier) =
    issuesOf (readField build m data f earlier) ++
      issuesOf (readEach build m data fs (match readField build m data f earlier with
        | .ok v => earlier ++ [(f.name, v)]
        | .error _ => earlier)) := by
  rw [readEach]
  rcases readField build m data f earlier with is | v
  · dsimp only
    rcases readEach build m data fs earlier with js | values
    · rfl
    · exact (List.append_nil is).symm
  · exact issuesOf_map _ _

/-- The complaints about unknown keys come last. -/
theorem issuesOf_readFields (build : Build) (m : Model) (data : Entries) :
    issuesOf (readFields build m data) =
      issuesOf (readEach build m data m.fields []) ++ extraIssues m data := by
  rw [readFields]
  rcases readEach build m data m.fields [] with is | values
  · rfl
  · cases extraIssues m data <;> rfl

/-- The first of some fields that complains when they are read one after the other. -/
def firstComplaint? (build : Build) (m : Model) (data : Entries) :
    List FieldDecl → Entries → Option FieldDecl
  | [], _ => none
  | f :: fs, earlier =>
    match readField build m data f earlier with
    | .ok v => firstComplaint? build m data fs (earlier ++ [(f.name, v)])
    | .error [] => firstComplaint? build m data fs earlier
    | .error (_ :: _) => some f

/-- The first field that complains when the data is read. -/
def complaining? (build : Build) (m : Model) (data : Entries) : Option FieldDecl :=
  firstComplaint? build m data m.fields []

/-- Where the complaints of a field are located: on the way on which it was found, or, when it is
missing, on the first way on which it was looked for; a default is located at the name. -/
def placeOf (m : Model) (f : FieldDecl) (data : Entries) : Path :=
  match find? m f data, f.default? with
  | some (steps, _), _ => locate m f steps
  | none, some _ => [.name f.name]
  | none, none => locate m f ((waysTo m f).headD [])

theorem exists_path_of_mem_issuesOf {i : Issue}
    (h : i ∈ issuesOf (readField build m data f earlier)) :
    ∃ rest, i.path = placeOf m f data ++ rest := by
  have hlocated : ∀ (at_ : Path) (x : Checked Value), i ∈ issuesOf (located at_ x) →
      ∃ rest, i.path = at_ ++ rest := by
    intro at_ x hi
    rw [issuesOf_located] at hi
    obtain ⟨j, -, rfl⟩ := List.mem_map.1 hi
    exact ⟨j.path, rfl⟩
  unfold readField at h
  unfold placeOf
  rcases hf : find? m f data with _ | ⟨steps, v⟩
  · rw [hf] at h
    unfold defaultField at h
    rcases hd : f.default? with _ | v
    · rw [hd] at h
      exact hlocated _ _ h
    · rw [hd] at h
      dsimp only at h
      split at h
      · exact hlocated _ _ h
      · cases h
  · rw [hf] at h
    exact hlocated _ _ h

/-- If a field complains, the first complaint is that of the first field that does. -/
theorem exists_first_issue (h : firstComplaint? build m data fs earlier = some f) : f ∈ fs ∧
    ∃ before i rest, i ∈ issuesOf (readField build m data f before) ∧
      issuesOf (readEach build m data fs earlier) = i :: rest := by
  induction fs generalizing earlier with
  | nil => cases h
  | cons g fs ih =>
    rw [firstComplaint?] at h
    rw [issuesOf_readEach_cons]
    rcases hread : readField build m data g earlier with (_ | ⟨i, is⟩) | v <;> rw [hread] at h
    · obtain ⟨hf, before, i, rest, hi, hissues⟩ := ih h
      exact ⟨List.mem_cons_of_mem _ hf, before, i, rest, hi, hissues⟩
    · cases h
      refine ⟨List.mem_cons_self, earlier, i, _, ?_, rfl⟩
      rw [hread]
      exact List.mem_cons_self
    · obtain ⟨hf, before, i, rest, hi, hissues⟩ := ih h
      exact ⟨List.mem_cons_of_mem _ hf, before, i, rest, hi, hissues⟩

theorem issuesOf_readEach_of_none (h : firstComplaint? build m data fs earlier = none) :
    issuesOf (readEach build m data fs earlier) = [] := by
  induction fs generalizing earlier with
  | nil => rfl
  | cons g fs ih =>
    rw [firstComplaint?] at h
    rw [issuesOf_readEach_cons]
    rcases hread : readField build m data g earlier with (_ | ⟨i, is⟩) | v <;> rw [hread] at h
    · exact ih h
    · cases h
    · exact ih h

/-- If no field complains, only unknown keys are complained about. -/
theorem issuesOf_readFields_of_none (h : complaining? build m data = none) :
    issuesOf (readFields build m data) = extraIssues m data := by
  rw [issuesOf_readFields, issuesOf_readEach_of_none h, List.nil_append]

/-- Data is rejected when it is read, or by a check of the whole model, which is located nowhere. -/
theorem recordOf_eq_error {is : List Issue} (h : recordOf build m data = .error is) :
    readFields build m (prepare m data) = .error is ∨
      issuesOf (readFields build m (prepare m data)) = [] ∧ ∃ i, is = [i] ∧ i.path = [] := by
  unfold recordOf at h
  rcases hread : readFields build m (prepare m data) with js | fields
  · rw [hread] at h
    cases h
    exact .inl rfl
  · refine .inr ⟨rfl, ?_⟩
    rw [hread] at h
    rcases hcheck : keepsModelChecks m fields with js | checked
    · have heq : is = js := by
        change (keepsModelChecks m fields >>= _) = _ at h
        rw [hcheck] at h
        cases h
        rfl
      unfold keepsModelChecks at hcheck
      split at hcheck
      · rename_i c _
        cases hcheck
        refine ⟨complained c, heq, ?_⟩
        unfold complained
        split <;> rfl
      · cases hcheck
    · change (keepsModelChecks m fields >>= _) = _ at h
      rw [hcheck] at h
      cases h

end Validation

/-! ## The way back to a field -/

/-- The head of a location leads back to a field: it is the name of the field, or it is the name of
no field and the first field with such a plain alias is this one. -/
def Model.LeadsBack (m : Model) (f : FieldDecl) (head : Identifier) : Prop :=
  head = .name f.name ∨ (∀ g ∈ m.fields, head ≠ .name g.name) ∧
    ∃ g, m.fields.find? (fun g => Binder.errorPath.answersTo g head) = some g ∧ g.name = f.name

namespace Binder

variable {m : Model} {s : Schema} {f : FieldDecl} {head : Identifier} {rest : Path}

theorem errorPath_cons (hs : Schema.ofModel m = .ok s) (hw : m.wraps = false) :
    errorPath s m (head :: rest) =
      if ∃ g ∈ m.fields, head = .name g.name then [head]
      else match m.fields.find? fun g => errorPath.answersTo g head with
        | some g => [.name g.name]
        | none => [] := by
  have hpos : s.positional = false := (Schema.ofModel_eq_ok hs).2.1.trans hw
  unfold errorPath
  rw [hpos, Schema.identifiers_of_names hs hw]
  by_cases h : ∃ g ∈ m.fields, head = .name g.name
  · rw [if_pos h]
    obtain ⟨g, hg, rfl⟩ := h
    have hmem : (m.fields.map fun f => Identifier.name f.name).contains (.name g.name) = true :=
      List.contains_iff_mem.2 (List.mem_map.2 ⟨g, hg, rfl⟩)
    simp only [Bool.false_eq_true, if_false, hmem, if_true]
  · rw [if_neg h]
    have hmem : (m.fields.map fun f => Identifier.name f.name).contains head = false := by
      refine Bool.eq_false_iff.2 fun hc => ?_
      obtain ⟨g, hg, hhead⟩ := List.mem_map.1 (List.contains_iff_mem.1 hc)
      exact h ⟨g, hg, hhead.symm⟩
    rcases hfind : m.fields.find? fun g => errorPath.answersTo g head with _ | g <;>
      simp only [Bool.false_eq_true, if_false, hmem, hfind]

/-- A complaint is told at a field exactly when its location leads back there. -/
theorem errorPath_eq_iff (hs : Schema.ofModel m = .ok s) (hw : m.wraps = false)
    (hf : f ∈ m.fields) : errorPath s m (head :: rest) = [.name f.name] ↔ m.LeadsBack f head := by
  rw [errorPath_cons hs hw, Model.LeadsBack]
  by_cases h : ∃ g ∈ m.fields, head = .name g.name
  · rw [if_pos h, List.cons.injEq, and_iff_left rfl]
    obtain ⟨g, hg, hhead⟩ := h
    exact ⟨.inl, fun hback => hback.resolve_right fun hother => hother.1 g hg hhead⟩
  · rw [if_neg h]
    have hnot : ∀ g ∈ m.fields, head ≠ .name g.name := fun g hg hhead => h ⟨g, hg, hhead⟩
    rw [or_iff_right (hnot f hf), and_iff_right hnot]
    cases m.fields.find? fun g => errorPath.answersTo g head with
    | none => simp
    | some g => simp

/-- A complaint is told at no field exactly when its location leads back to none. -/
theorem errorPath_eq_nil_iff (hs : Schema.ofModel m = .ok s) (hw : m.wraps = false) :
    errorPath s m (head :: rest) = [] ↔
      ∀ g ∈ m.fields, head ≠ .name g.name ∧ errorPath.answersTo g head = false := by
  rw [errorPath_cons hs hw]
  by_cases h : ∃ g ∈ m.fields, head = .name g.name
  · rw [if_pos h]
    obtain ⟨g, hg, hhead⟩ := h
    exact iff_of_false (List.cons_ne_nil _ _) fun hnone => (hnone g hg).1 hhead
  · rw [if_neg h]
    have hnot : ∀ g ∈ m.fields, head ≠ .name g.name := fun g hg hhead => h ⟨g, hg, hhead⟩
    cases hfind : m.fields.find? fun g => errorPath.answersTo g head with
    | none =>
      refine iff_of_true rfl fun g hg => ⟨hnot g hg, ?_⟩
      simpa using List.find?_eq_none.1 hfind g hg
    | some g =>
      refine iff_of_false (List.cons_ne_nil _ _) fun hnone => ?_
      have hanswers := List.find?_some hfind
      rw [(hnone g (List.mem_of_find?_eq_some hfind)).2] at hanswers
      cases hanswers

end Binder

namespace Validation

variable {m : Model} {f : FieldDecl} {data : Entries}

/-- Every way to a field starts at some key. -/
theorem exists_head_placeOf (hways : ∀ way ∈ waysTo m f, way ≠ []) (hne : waysTo m f ≠ []) :
    ∃ head rest, placeOf m f data = head :: rest := by
  have hlocate : ∀ way ∈ waysTo m f, locate m f way ≠ [] := by
    intro way hway
    unfold locate
    split
    · exact hways way hway
    · exact List.cons_ne_nil _ _
  apply List.exists_cons_of_ne_nil
  unfold placeOf
  split
  · rename_i steps v _ hfind
    exact hlocate _ (follow?_of_find? hfind).1
  · exact List.cons_ne_nil _ _
  · refine hlocate _ ?_
    obtain ⟨way, ways, hcons⟩ := List.exists_cons_of_ne_nil hne
    rw [hcons]
    exact List.mem_cons_self

/-- The complaints of a field are located at its name, where that is asked for or where names are
all that is read. -/
theorem placeOf_eq_name (hname : [.name f.name] ∈ waysTo m f)
    (h : m.config.locateByAlias = false ∨ waysTo m f = [[.name f.name]]) :
    placeOf m f data = [.name f.name] := by
  have hlocate : ∀ way ∈ waysTo m f, locate m f way = [.name f.name] := by
    intro way hway
    unfold locate
    rcases h with hlocate | honly
    · rw [hlocate]
      rfl
    · rw [honly, List.mem_singleton] at hway
      rw [hway, ite_self]
  unfold placeOf
  split
  · rename_i steps v _ hfind
    exact hlocate _ (follow?_of_find? hfind).1
  · rfl
  · refine hlocate _ ?_
    obtain ⟨way, ways, hcons⟩ := List.exists_cons_of_ne_nil (List.ne_nil_of_mem hname)
    rw [hcons]
    exact List.mem_cons_self

end Validation

namespace Binder

variable {m : Model} {s : Schema} {f : FieldDecl}

/-- Where names are not read, only the name of a field leads back to it. -/
theorem eq_name_of_answersTo (h : Schema.checkAliases m f = .ok ()) (hn : m.readsNames = false)
    {head : Identifier} (ha : errorPath.answersTo f head = true) : head = .name f.name := by
  unfold Schema.checkAliases at h
  rw [hn] at h
  simp only [Bool.false_eq_true, if_false] at h
  split at h
  · cases h
  · rename_i hnone
    have heq : ∀ a ∈ (f.aliasName.map Alias.key).toList ++ f.readingAlias?.toList,
        a = .key f.name := fun a ha => by simpa using List.find?_eq_none.1 hnone a ha
    unfold errorPath.answersTo at ha
    rw [Bool.or_eq_true] at ha
    rcases ha with ha | ha
    · obtain ⟨a, hsome, hhead⟩ := (Option.any_eq_true _ _).1 ha
      have hkey := heq (.key a)
        (List.mem_append_left _ (by rw [hsome]; exact List.mem_singleton_self _))
      cases hkey
      exact (eq_of_beq hhead).symm
    · split at ha
      · rename_i k hsome
        have hkey := heq (.key k)
          (List.mem_append_right _ (by rw [hsome]; exact List.mem_singleton_self _))
        cases hkey
        exact (eq_of_beq ha).symm
      · cases ha

/-- Where names are not read, an unknown key leads back to no field. -/
theorem leads_nowhere_of_mem_unknownKeys (hs : Schema.ofModel m = .ok s) (hw : m.wraps = false)
    (hn : m.readsNames = false) {data : Validation.Entries} {k : String}
    (hk : k ∈ Validation.unknownKeys m data) :
    ∀ g ∈ m.fields, k ≠ g.name ∧ errorPath.answersTo g (.name k) = false := by
  intro g hg
  obtain ⟨spec, -, i, hof⟩ := Schema.exists_spec hs hg
  obtain ⟨d, -, -, haliases⟩ := Schema.fieldOf_eq_ok hof
  have hne : k ≠ g.name := by
    rintro rfl
    unfold Validation.unknownKeys at hk
    split at hk
    · obtain ⟨hdata, hunused⟩ := List.mem_filter.1 hk
      -- the key is there, so the field has been found under it
      obtain ⟨v, hv⟩ : ∃ v, data.lookup g.name = some v := by
        obtain ⟨e, he, hkey⟩ := List.mem_map.1 hdata
        by_contra hnone
        have hnone := List.lookup_eq_none_iff.1 (Option.eq_none_iff_forall_not_mem.2
          fun v hv => hnone ⟨v, hv⟩) e he
        simp [hkey] at hnone
      have hfind : Validation.find? m g data = some ([.name g.name], v) := by
        unfold Validation.find?
        rw [Validation.waysTo_of_not_readsNames (haliases hw) hn, List.findSome?_singleton,
          Validation.follow?_name, hv]
        rfl
      have hused : (Validation.usedKeys m data).contains (.name g.name) = true := by
        refine List.contains_iff_mem.2 (List.mem_filterMap.2 ⟨g, hg, ?_⟩)
        rw [hfind]
        rfl
      rw [hused] at hunused
      cases hunused
    · cases hk
  refine ⟨hne, Bool.eq_false_iff.2 fun ha => hne ?_⟩
  have hname := eq_name_of_answersTo (haliases hw) hn ha
  cases hname
  rfl

/-- Where a rejection is told. Let the constructor of a model that wraps no value reject the values
that are bound. If a field complains, the first that does is blamed exactly when the head of the way
on which it was looked for leads back to it; and that is always so if complaints are located by
names, or if the model does not read names. If no field complains, none is blamed, unless there is
an unknown key that leads back to one, which there is not in a model that does not read names. -/
theorem a_rejection_is_told_where_its_way_leads_back {family : Family}
    (hm : family.model? m.name = some m) (hs : Schema.ofModel m = .ok s) (hw : m.wraps = false)
    (hways : ∀ f ∈ m.fields, ∀ way ∈ Validation.waysTo m f, way ≠ []) (values : Bound)
    {e : Failure} (he : assemble family s values = .error e) :
    ∃ path text, e = .extraction path (.conversion (.validation text)) ∧
      match Validation.complaining? (Validation.builder family m none) m
        (Validation.prepare m (namedEntries values)) with
      | some f => ∃ head rest,
        Validation.placeOf m f (Validation.prepare m (namedEntries values)) = head :: rest ∧
          (path = [.name f.name] ↔ m.LeadsBack f head) ∧
          (m.config.locateByAlias = false ∨ m.readsNames = false → path = [.name f.name])
      | none =>
        match (Validation.unknownKeys m (Validation.prepare m (namedEntries values))).head? with
        | some k => (path = [] ↔
            ∀ g ∈ m.fields, k ≠ g.name ∧ errorPath.answersTo g (.name k) = false) ∧
            (m.readsNames = false → path = [])
        | none => path = [] := by
  rw [assemble_eq hm hs, hw, if_neg Bool.false_ne_true] at he
  rcases hrecord : Validation.instanceOf family m (namedEntries values) with issues | v
  · rw [hrecord] at he
    cases he
    have hread := Validation.recordOf_eq_error hrecord
    have hpos : s.positional = false := (Schema.ofModel_eq_ok hs).2.1.trans hw
    have hnowhere : errorPath s m [] = [] := by
      unfold errorPath
      rw [hpos]
      rfl
    split
    · -- a field complains, so its first complaint is the first of all
      rename_i f hf
      obtain ⟨hmem, before, i, rest, hi, hissues⟩ := Validation.exists_first_issue hf
      replace hissues := (Validation.issuesOf_readFields _ m _).trans (congrArg (· ++ _) hissues)
      obtain rfl : issues = i :: (rest ++ _) := by
        rcases hread with hread | ⟨hnone, -⟩
        · rwa [hread] at hissues
        · rw [hnone] at hissues
          cases hissues
      obtain ⟨spec, -, j, hof⟩ := Schema.exists_spec hs hmem
      obtain ⟨d, -, -, haliases⟩ := Schema.fieldOf_eq_ok hof
      have hname : [.name f.name] ∈ Validation.waysTo m f :=
        Validation.name_mem_waysTo fun _ => haliases hw
      obtain ⟨inside, hpath⟩ := Validation.exists_path_of_mem_issuesOf hi
      obtain ⟨head, tail, hplace⟩ : ∃ head tail, Validation.placeOf m f
          (Validation.prepare m (namedEntries values)) = head :: tail :=
        Validation.exists_head_placeOf (hways f hmem) (List.ne_nil_of_mem hname)
      rw [hplace, List.cons_append] at hpath
      have hback : errorPath s m i.path = [.name f.name] ↔ m.LeadsBack f head :=
        hpath ▸ errorPath_eq_iff hs hw hmem
      refine ⟨_, _, rfl, head, tail, hplace, hback, fun hlocate => hback.2 (.inl ?_)⟩
      have hat : Validation.placeOf m f (Validation.prepare m (namedEntries values)) =
          [.name f.name] := Validation.placeOf_eq_name hname
        (hlocate.imp_right fun hn => Validation.waysTo_of_not_readsNames (haliases hw) hn)
      rw [hplace] at hat
      cases hat
      rfl
    · rename_i hnone
      have hextra := Validation.issuesOf_readFields_of_none hnone
      rw [Validation.extraIssues_eq] at hextra
      split
      · -- an unknown key is complained about
        rename_i k hk
        obtain ⟨ks, hks⟩ := List.head?_eq_some_iff.1 hk
        rw [hks, List.map_cons] at hextra
        obtain rfl : issues = _ :: _ := by
          rcases hread with hread | ⟨hnone, -⟩
          · rwa [hread] at hextra
          · rw [hnone] at hextra
            cases hextra
        have hback : errorPath s m [.name k] = [] ↔
            ∀ g ∈ m.fields, k ≠ g.name ∧ errorPath.answersTo g (.name k) = false := by
          have hnil : errorPath s m [.name k] = [] ↔ ∀ g ∈ m.fields,
              Identifier.name k ≠ .name g.name ∧ errorPath.answersTo g (.name k) = false :=
            errorPath_eq_nil_iff hs hw
          simpa only [ne_eq, Identifier.name.injEq] using hnil
        have hunknown :
            k ∈ Validation.unknownKeys m (Validation.prepare m (namedEntries values)) := by
          rw [hks]
          exact List.mem_cons_self
        exact ⟨_, _, rfl, hback, fun hn =>
          hback.2 (leads_nowhere_of_mem_unknownKeys hs hw hn hunknown)⟩
      · -- the model as a whole is complained about
        rename_i hk
        rw [List.head?_eq_none_iff.1 hk, List.map_nil] at hextra
        rcases hread with hread | ⟨-, i, rfl, hi⟩
        · rw [hread] at hextra
          obtain rfl : issues = [] := hextra
          exact ⟨_, _, rfl, rfl⟩
        · exact ⟨_, _, rfl, hi ▸ hnowhere⟩
  · rw [hrecord] at he
    cases he

/-- The title of a page is a number. It is moved under the headline before it is read. -/
def title (heading : Option String) (headings : Option Alias) : FieldDecl :=
  ⟨"title", .integer, [.scrape "//h1" (some .strip) none], none, none, heading, headings,
    ⟨none, none, none, none⟩, []⟩

def titled (decl : FieldDecl) : Model :=
  ⟨"Page", [decl], false, ⟨true, false, false, false, true⟩, [.rename "title" (some "headline")]⟩

def titledSchema : Schema :=
  ⟨"Page", [⟨.name "title", .required, some "//h1", some ⟨.scalar, none⟩, some .strip, none⟩],
    false⟩

def notInteger : FieldFailure :=
  .conversion (.validation "Input should be a valid integer, unable to parse string as an integer")

/-- A title with one alias. -/
def headline : FieldDecl := title (some "headline") none

theorem a_title_under_its_alias_is_blamed :
    assemble [titled headline] titledSchema [(.name "title", .text "Front page")] =
      .error (.extraction [.name "title"] notInteger) ∧
    (titled headline).LeadsBack headline (.name "headline") := by
  have hrun : assemble [titled headline] titledSchema [(.name "title", .text "Front page")] =
      .error (.extraction [.name "title"] notInteger) := by
    cbv
  have hcomplains : Validation.complaining?
      (Validation.builder [titled headline] (titled headline) none)
      (titled headline) (Validation.prepare (titled headline)
        (namedEntries [(.name "title", .text "Front page")])) = some headline := by
    cbv
  obtain ⟨path, text, hpath, h⟩ := a_rejection_is_told_where_its_way_leads_back
    (m := titled headline) (s := titledSchema) rfl rfl rfl
    (by simp [titled, headline, title, Validation.waysTo, FieldDecl.readingAlias?, Alias.ways,
      Model.readsNames])
    [(.name "title", .text "Front page")] hrun
  cases hpath
  rw [hcomplains] at h
  obtain ⟨head, rest, hplace, hback, -⟩ := h
  cases hplace
  exact ⟨hrun, hback.1 rfl⟩

/-- A title with two aliases. -/
def headlineOrHeading : FieldDecl :=
  title none (some (.choices [[.name "headline"], [.name "heading"]]))

/-- A title that was found under one of two aliases complains, and is not blamed. -/
theorem a_title_under_one_of_two_aliases_is_not_blamed :
    Schema.ofModel (titled headlineOrHeading) = .ok titledSchema ∧
    Validation.complaining?
      (Validation.builder [titled headlineOrHeading] (titled headlineOrHeading) none)
      (titled headlineOrHeading) (Validation.prepare (titled headlineOrHeading)
        (namedEntries [(.name "title", .text "Front page")])) = some headlineOrHeading ∧
    ((materialize ⟨[titled headlineOrHeading],
        ⟨fun _ _ => .ok [.text "Front page"], fun _ => .ok "", 1⟩, .error⟩ (.model "Page")
        (none : Option Unit) []).run.run ⟨.empty, [], .initial .standard, []⟩).1 =
      .error (.extraction [] notInteger) :=
  ⟨rfl, by cbv, by cbv⟩

end Binder

end QueryBinding
