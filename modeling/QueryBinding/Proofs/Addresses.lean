-- Addresses that are taken apart and put together. A written address has the scheme and the
-- host that it was written with, and a reference without a scheme that is resolved against an
-- absolute base gives an absolute address under the scheme of the base, if references resolve
-- under that scheme at all.
import QueryBinding.Proofs.Numerals
import QueryBinding.Url

namespace QueryBinding.Url

/-! ## The parts of a text -/

/-- The characters that are dropped wherever they stand. -/
def isBreak (c : Char) : Bool := c == '\t' || c == '\r' || c == '\n'

/-- The scheme that a text names, in lower case: none if it names none. -/
def schemeOf (cs : List Char) : List Char := (takeScheme (clean cs)).1

/-- The host that a text names: none if it names none. -/
def hostOf (cs : List Char) : List Char := (takeHost (takeScheme (clean cs)).2).1

/-- A scheme in lower case. -/
structure IsScheme (scheme : List Char) : Prop where
  starts : ∃ c rest, scheme = c :: rest ∧ c.isAlpha = true
  chars : ∀ c ∈ scheme, isSchemeChar c = true
  lower : scheme.map Char.toLower = scheme

/-- A host that passes every check of an address, and ends where the address says. -/
structure IsHost (host : List Char) : Prop where
  whole : ∀ c ∈ host, isHostEnd c = false
  unbroken : ∀ c ∈ host, isBreak c = false
  brackets : checkBrackets host = .ok ()
  lookalikes : checkLookalikes host = .ok ()

/-- What may follow a host: nothing, or what ends it. -/
def EndsHost (tail : List Char) : Prop := ∀ c rest, tail = c :: rest → isHostEnd c = true

variable {cs before after host scheme tail : List Char}

/-! ## Cutting -/

theorem cut_append {isMark : Char → Bool} {mark : Char} (h : ∀ c ∈ before, isMark c = false)
    (hmark : isMark mark = true) : cut isMark (before ++ mark :: after) = (before, some after) := by
  induction before with
  | nil => simp [cut, hmark]
  | cons c before ih =>
    simp only [List.mem_cons, forall_eq_or_imp] at h
    simp [cut, h.1, ih h.2]

/-- What a text is cut into is the text. -/
theorem of_cut_eq {isMark : Char → Bool} (h : cut isMark cs = (before, some after)) :
    ∃ mark, cs = before ++ mark :: after ∧ isMark mark = true := by
  induction cs generalizing before with
  | nil => simp [cut] at h
  | cons c cs ih =>
    rw [cut] at h
    by_cases hc : isMark c = true
    · simp only [hc, if_true, Prod.mk.injEq, Option.some.injEq] at h
      obtain ⟨rfl, rfl⟩ := h
      exact ⟨c, rfl, hc⟩
    · simp only [hc] at h
      rcases hcut : cut isMark cs with ⟨front, back⟩
      simp only [hcut, Bool.false_eq_true, if_false, Prod.mk.injEq] at h
      obtain ⟨rfl, rfl⟩ := h
      obtain ⟨mark, rfl, hmark⟩ := ih hcut
      exact ⟨mark, rfl, hmark⟩

/-! ## Schemes -/

theorem isSchemeChar_toLower {c : Char} (h : isSchemeChar c = true) :
    isSchemeChar c.toLower = true := by
  by_cases hupper : c.isUpper = true
  · simp [isSchemeChar, Char.isAlpha, hupper]
  · rwa [Char.toLower_eq_of_not_isUpper hupper]

theorem ne_colon_of_isSchemeChar {c : Char} (h : isSchemeChar c = true) : (c == ':') = false := by
  rw [beq_eq_false_iff_ne]
  rintro rfl
  exact absurd h (by decide)

theorem not_isBreak_of_isSchemeChar {c : Char} (h : isSchemeChar c = true) :
    isBreak c = false := by
  have hne : c ≠ '\t' ∧ c ≠ '\r' ∧ c ≠ '\n' := by
    refine ⟨?_, ?_, ?_⟩ <;> rintro rfl <;> exact absurd h (by decide)
  simp [isBreak, hne]

/-- A text names no scheme, or begins with one in letters of any case and a colon. -/
theorem takeScheme_cases (cs : List Char) : takeScheme cs = ([], cs) ∨
    ∃ before after, cs = before ++ ':' :: after ∧
      takeScheme cs = (before.map Char.toLower, after) ∧ IsScheme (before.map Char.toLower) := by
  unfold takeScheme
  split
  · rename_i c rest before after hcut
    split
    · rename_i hscheme
      right
      rw [Bool.and_eq_true, List.all_eq_true] at hscheme
      obtain ⟨mark, heq, hmark⟩ := of_cut_eq hcut
      rw [beq_iff_eq] at hmark
      subst hmark
      have hbefore : ∃ tail, before = c :: tail := by
        cases before with
        | nil =>
          rw [(List.cons.inj heq).1] at hscheme
          exact absurd hscheme.1 (by decide)
        | cons d tail => exact ⟨tail, by rw [(List.cons.inj heq).1]⟩
      obtain ⟨tail, rfl⟩ := hbefore
      refine ⟨_, after, heq, rfl, ⟨c.toLower, tail.map Char.toLower, rfl, by simpa using hscheme.1⟩,
        ?_, ?_⟩
      · intro d hd
        obtain ⟨e, he, rfl⟩ := List.mem_map.1 hd
        exact isSchemeChar_toLower (hscheme.2 e he)
      · simp
    · exact .inl rfl
  · exact .inl rfl

theorem schemeOf_cases (cs : List Char) : schemeOf cs = [] ∨ IsScheme (schemeOf cs) := by
  rcases takeScheme_cases (clean cs) with hnone | ⟨before, after, -, heq, hscheme⟩
  · exact .inl (congrArg Prod.fst hnone)
  · refine .inr ?_
    rwa [schemeOf, heq]

theorem of_mem_takeScheme {c : Char} (h : c ∈ (takeScheme cs).2) : c ∈ cs := by
  rcases takeScheme_cases cs with hnone | ⟨before, after, rfl, heq, -⟩
  · rwa [hnone] at h
  · rw [heq] at h
    simp [h]

theorem takeScheme_append (h : IsScheme scheme) :
    takeScheme (scheme ++ ':' :: cs) = (scheme, cs) := by
  have hcut : cut (· == ':') (scheme ++ ':' :: cs) = (scheme, some cs) :=
    cut_append (fun c hc => ne_colon_of_isSchemeChar (h.chars c hc)) (by decide)
  have hlower := h.lower
  have hchars : scheme.all isSchemeChar = true := List.all_eq_true.2 h.chars
  obtain ⟨c, rest, rfl, hc⟩ := h.starts
  rw [List.cons_append] at hcut ⊢
  simp only [takeScheme, hcut, hc, hchars, hlower, Bool.and_self, if_true]

/-- Nothing is dropped before a scheme, or inside it. -/
theorem clean_append (h : IsScheme scheme) :
    clean (scheme ++ cs) = scheme ++ cs.filter (!isBreak ·) := by
  have hkept : scheme.filter (!isBreak ·) = scheme :=
    List.filter_eq_self.2 fun c hc => by simp [not_isBreak_of_isSchemeChar (h.chars c hc)]
  have hfront : (scheme ++ cs).dropWhile (·.toNat ≤ 32) = scheme ++ cs := by
    obtain ⟨c, rest, rfl, hc⟩ := h.starts
    have hlarge : ¬ c.toNat ≤ 32 := by
      simp only [Char.isAlpha, Char.isUpper, Char.isLower, Bool.or_eq_true, Bool.and_eq_true,
        decide_eq_true_eq] at hc
      rcases hc with hc | hc
      · have : 65 ≤ c.toNat := hc.1
        omega
      · have : 97 ≤ c.toNat := hc.1
        omega
    simp [hlarge]
  have hbreak : (fun c : Char => c != '\t' && c != '\r' && c != '\n') = (!isBreak ·) := by
    funext c
    simp [isBreak, bne]
  rw [clean, hfront, hbreak, List.filter_append, hkept]

theorem schemeOf_slash (cs : List Char) : schemeOf ('/' :: cs) = [] := by
  rcases takeScheme_cases (clean ('/' :: cs)) with hnone | ⟨before, after, heq, -, hscheme⟩
  · exact congrArg Prod.fst hnone
  · have hclean : clean ('/' :: cs) =
        '/' :: cs.filter fun c => c != '\t' && c != '\r' && c != '\n' := rfl
    obtain ⟨c, rest, hbefore, hc⟩ := hscheme.starts
    rw [hclean] at heq
    cases before with
    | nil => cases hbefore
    | cons d before =>
      rw [← (List.cons.inj hbefore).1, ← (List.cons.inj heq).1] at hc
      exact absurd hc (by decide)

/-! ## Hosts -/

theorem takeHost_append (hhost : ∀ c ∈ host, isHostEnd c = false) (htail : EndsHost tail) :
    takeHost ('/' :: '/' :: (host ++ tail)) = (host, tail) := by
  have hall : ∀ c ∈ host, (!isHostEnd c) = true := fun c hc => by simp [hhost c hc]
  have hnone : tail.takeWhile (!isHostEnd ·) = [] ∧ tail.dropWhile (!isHostEnd ·) = tail := by
    cases tail with
    | nil => exact ⟨rfl, rfl⟩
    | cons c rest => simp [htail c rest rfl]
  rw [takeHost, List.takeWhile_append_of_pos hall, List.dropWhile_append_of_pos hall, hnone.1,
    hnone.2, List.append_nil]

theorem of_mem_takeHost {c : Char} (h : c ∈ (takeHost cs).1) :
    c ∈ cs ∧ isHostEnd c = false := by
  unfold takeHost at h
  split at h
  · refine ⟨?_, by simpa using List.mem_takeWhile_imp h⟩
    exact List.mem_cons_of_mem _ (List.mem_cons_of_mem _ ((List.takeWhile_prefix _).subset h))
  · cases h

theorem not_isBreak_of_mem_clean {c : Char} (h : c ∈ clean cs) : isBreak c = false := by
  have hc := (List.mem_filter.1 h).2
  simpa [isBreak, and_assoc] using hc

/-! ## Taking apart -/

/-- An address that can be taken apart has the scheme of its text, or the one that it was given,
and the host of its text, which is a proper one. -/
theorem split_eq_ok {u : Url} (h : split cs scheme = .ok u) :
    u.scheme = (if schemeOf cs = [] then scheme else schemeOf cs) ∧ u.host = hostOf cs ∧
      IsHost u.host := by
  simp only [split, bind, Except.bind, pure, Except.pure] at h
  split at h
  · cases h
  · rename_i hbrackets
    split at h
    · cases h
    · rename_i hlookalikes
      cases h
      refine ⟨?_, rfl, fun c hc => (of_mem_takeHost hc).2, fun c hc => ?_, hbrackets, hlookalikes⟩
      · change (if (schemeOf cs).isEmpty = true then scheme else schemeOf cs) = _
        simp only [List.isEmpty_iff]
      · exact not_isBreak_of_mem_clean (of_mem_takeScheme (of_mem_takeHost hc).1)

/-- Whether a text can be taken apart does not hang on the scheme that it is given. -/
theorem split_eq_error {e : UrlFault} (h : split cs scheme = .error e) (given : List Char) :
    split cs given = .error e := by
  simp only [split, bind, Except.bind, pure, Except.pure] at h ⊢
  rcases hbrackets : checkBrackets (takeHost (takeScheme (clean cs)).2).1 with e' | _
  · rw [hbrackets] at h
    exact h
  · rcases hlookalikes : checkLookalikes (takeHost (takeScheme (clean cs)).2).1 with e' | _
    · rw [hbrackets, hlookalikes] at h
      exact h
    · rw [hbrackets, hlookalikes] at h
      cases h

theorem exists_split_given {u : Url} (h : split cs scheme = .ok u) (given : List Char) :
    ∃ v, split cs given = .ok v := by
  rcases hgiven : split cs given with e | v
  · rw [split_eq_error hgiven scheme] at h
    cases h
  · exact ⟨v, rfl⟩

/-- A text with a scheme and a host can be taken apart. -/
theorem exists_split (hscheme : IsScheme scheme) (hhost : IsHost host) (htail : EndsHost tail)
    (given : List Char) : ∃ path query fragment,
      split (scheme ++ ':' :: '/' :: '/' :: (host ++ tail)) given =
        .ok ⟨scheme, host, path, [], query, fragment⟩ := by
  have hkept : host.filter (!isBreak ·) = host :=
    List.filter_eq_self.2 fun c hc => by simp [hhost.unbroken c hc]
  have htail' : EndsHost (tail.filter (!isBreak ·)) := by
    cases tail with
    | nil => intro c rest h; cases h
    | cons c rest =>
      have hc := htail c rest rfl
      have hbreak : isBreak c = false := by
        simp only [isHostEnd, Bool.or_eq_true, beq_iff_eq] at hc
        rcases hc with (rfl | rfl) | rfl <;> decide
      intro d rest' h
      rw [List.filter_cons_of_pos (by simp [hbreak])] at h
      cases h
      exact hc
  have hclean : clean (scheme ++ ':' :: '/' :: '/' :: (host ++ tail)) =
      scheme ++ ':' :: '/' :: '/' :: (host ++ tail.filter (!isBreak ·)) := by
    rw [clean_append hscheme, List.filter_cons_of_pos (by decide),
      List.filter_cons_of_pos (by decide), List.filter_cons_of_pos (by decide),
      List.filter_append, hkept]
  have hne : scheme ≠ [] := by
    obtain ⟨c, rest, rfl, -⟩ := hscheme.starts
    exact List.cons_ne_nil _ _
  simp only [split, hclean, takeScheme_append hscheme, takeHost_append hhost.whole htail',
    hhost.brackets, hhost.lookalikes, List.isEmpty_iff, hne, bind, Except.bind, pure, Except.pure]
  exact ⟨_, _, _, rfl⟩

/-! ## Putting together -/

theorem endsHost_cons {c : Char} (h : isHostEnd c = true) : EndsHost (c :: tail) := by
  intro d rest heq
  cases heq
  exact h

theorem EndsHost.append (h : EndsHost before) (h' : EndsHost after) :
    EndsHost (before ++ after) := by
  cases before with
  | nil => exact h'
  | cons c before => exact endsHost_cons (h c before rfl)

/-- A written address shows its scheme and its host. -/
theorem exists_write {u : Url} (hscheme : u.scheme ≠ []) (hhost : u.host ≠ []) :
    ∃ tail, u.write = u.scheme ++ ':' :: '/' :: '/' :: (u.host ++ tail) ∧ EndsHost tail := by
  have hpath : ∀ path : List Char, EndsHost
      (if path.isEmpty || path.head? == some '/' then path else '/' :: path) := by
    intro path
    split
    · intro c rest hcons
      subst hcons
      simp_all [isHostEnd]
    · exact endsHost_cons rfl
  have hpart : ∀ (mark : Char) (part : List Char), isHostEnd mark = true →
      EndsHost (if part.isEmpty then [] else mark :: part) := by
    intro mark part hmark
    split
    · intro c rest h
      cases h
    · exact endsHost_cons hmark
  refine ⟨_, ?_, ((hpath (if u.params.isEmpty then u.path else u.path ++ ';' :: u.params)).append
    (hpart '?' u.query rfl)).append (hpart '#' u.fragment rfl)⟩
  by_cases hquery : u.query = [] <;> by_cases hfragment : u.fragment = [] <;>
    simp [write, hscheme, hhost, hquery, hfragment]

/-! ## Resolving -/

/-- Parameters are moved inside the path. -/
theorem parts_withParams (u : Url) :
    u.withParams.scheme = u.scheme ∧ u.withParams.host = u.host := by
  unfold withParams
  split
  · rcases lastSegment u.path with ⟨front, last⟩
    dsimp only
    split <;> exact ⟨rfl, rfl⟩
  · exact ⟨rfl, rfl⟩

theorem scheme_against (base reference : Url) :
    (against base reference).scheme = reference.scheme := by
  unfold against
  split
  · rfl
  · dsimp only
    split <;> rfl

/-- Under a scheme whose addresses name a host, the host is that of the reference if it has one,
and else that of the base. -/
theorem host_against {base reference : Url} (h : among hosted reference.scheme = true) :
    (against base reference).host =
      if reference.host = [] then base.host else reference.host := by
  unfold against
  by_cases hhost : reference.host = []
  · simp only [h, hhost, List.isEmpty_nil, Bool.not_true, Bool.and_false, Bool.false_eq_true,
      if_false, if_true]
    split <;> rfl
  · simp [h, hhost]

theorem among_hosted (h : among resolving scheme = true) : among hosted scheme = true := by
  have hsub : ∀ s ∈ resolving, s ∈ hosted := by decide
  obtain ⟨s, hs, heq⟩ := List.any_eq_true.1 h
  exact List.any_eq_true.2 ⟨s, hsub s hs, heq⟩

/-- The scheme of an address with a scheme is the one that its text names. -/
theorem scheme_of_split {u : Url} (h : split cs [] = .ok u) : u.scheme = schemeOf cs := by
  rw [(split_eq_ok h).1]
  split
  · rename_i hnone
    exact hnone.symm
  · rfl

theorem isScheme_of_split {u : Url} (h : split cs [] = .ok u) (hu : u.IsAbsolute) :
    IsScheme u.scheme := by
  rw [scheme_of_split h]
  refine (schemeOf_cases cs).resolve_left fun hnone => hu.1 ?_
  rw [scheme_of_split h, hnone]

/-- An address that is put together from a proper scheme and a proper host is absolute. -/
theorem exists_split_write {u : Url} (hscheme : IsScheme u.scheme) (hhost : IsHost u.host)
    (hne : u.host ≠ []) (given : List Char) :
    ∃ v, split u.write given = .ok v ∧ v.IsAbsolute ∧ v.scheme = u.scheme ∧ v.host = u.host := by
  have hscheme' : u.scheme ≠ [] := by
    obtain ⟨c, rest, hcons, -⟩ := hscheme.starts
    simp [hcons]
  obtain ⟨tail, hwrite, htail⟩ := exists_write hscheme' hne
  obtain ⟨path, query, fragment, hsplit⟩ := exists_split hscheme hhost htail given
  rw [hwrite]
  exact ⟨_, hsplit, ⟨hscheme', hne⟩, rfl, rfl⟩

/-- What resolving a reference without a scheme can give: the base for an empty reference; the
reference as it is if references do not resolve under the scheme of the base; and else an absolute
address under that scheme, with the host of the reference or, if it names none, of the base. -/
inductive Resolves (base : List Char) (b : Url) (reference : List Char) : List Char → Prop
  | empty (h : reference = []) : Resolves base b reference base
  | kept (h : reference ≠ []) (hscheme : among resolving b.scheme = false) :
      Resolves base b reference reference
  | resolved {joined : List Char} {u : Url} (h : reference ≠ [])
      (hscheme : among resolving b.scheme = true) (hu : split joined [] = .ok u)
      (habsolute : u.IsAbsolute) (hsame : u.scheme = b.scheme)
      (hhost : u.host = if hostOf reference = [] then b.host else hostOf reference) :
      Resolves base b reference joined

section

variable {base reference : List Char} {b : Url}

/-- A reference that is not empty is read under the scheme of the base. It is resolved if it stays
under that scheme and references resolve there. -/
theorem join_of_split {v : Url} (hb : split base [] = .ok b) (hbase : base ≠ [])
    (href : reference ≠ []) (hv : split reference b.scheme = .ok v) : join base reference =
      .ok (if v.scheme = b.scheme ∧ among resolving b.scheme = true
        then (against b.withParams v.withParams).write else reference) := by
  have hread : read base [] = .ok b.withParams ∧ read reference b.scheme = .ok v.withParams := by
    simp [read, hb, hv, Except.map]
  by_cases hsame : v.scheme = b.scheme <;>
    by_cases hresolving : among resolving b.scheme = true <;>
    simp [join, hbase, href, hread, (parts_withParams b).1, (parts_withParams v).1, hsame,
      hresolving, bind, Except.bind, pure, Except.pure]

/-- A reference that cannot be taken apart is not resolved. -/
theorem join_of_split_error {e : UrlFault} (hb : split base [] = .ok b) (hbase : base ≠ [])
    (href : split reference [] = .error e) : join base reference = .error e := by
  have hne : reference ≠ [] := by
    rintro rfl
    cases href
  have hread : read base [] = .ok b.withParams ∧ read reference b.scheme = .error e := by
    simp [read, hb, split_eq_error href b.scheme, Except.map]
  simp [join, hbase, hne, hread, (parts_withParams b).1, bind, Except.bind]

theorem exists_join {u : Url} (hb : split base [] = .ok b) (hbase : b.IsAbsolute)
    (hscheme : schemeOf reference = []) (hu : split reference [] = .ok u) :
    ∃ joined, join base reference = .ok joined ∧ Resolves base b reference joined := by
  have hne : base ≠ [] := by
    rintro rfl
    exact hbase.1 (scheme_of_split hb)
  by_cases hempty : reference = []
  · refine ⟨base, ?_, .empty hempty⟩
    simp [join, hne, hempty, pure, Except.pure]
  obtain ⟨v, hv⟩ := exists_split_given hu b.scheme
  obtain ⟨hvscheme, hvhost, hvproper⟩ := split_eq_ok hv
  have hsame : v.scheme = b.scheme := by rw [hvscheme, if_pos hscheme]
  refine ⟨_, join_of_split hb hne hempty hv, ?_⟩
  by_cases hresolving : among resolving b.scheme = true
  · rw [if_pos ⟨hsame, hresolving⟩]
    have hunder : (against b.withParams v.withParams).scheme = b.scheme := by
      rw [scheme_against, (parts_withParams v).1, hsame]
    have hhosted : among hosted v.withParams.scheme = true := by
      rw [(parts_withParams v).1, hsame]
      exact among_hosted hresolving
    have hhost : (against b.withParams v.withParams).host =
        if hostOf reference = [] then b.host else hostOf reference := by
      rw [host_against hhosted, (parts_withParams b).2, (parts_withParams v).2, hvhost]
    -- a proper host stands in what is written, so it is read again
    have hproper : IsHost (against b.withParams v.withParams).host ∧
        (against b.withParams v.withParams).host ≠ [] := by
      rw [hhost]
      by_cases hown : hostOf reference = []
      · rw [if_pos hown]
        exact ⟨(split_eq_ok hb).2.2, hbase.2⟩
      · rw [if_neg hown, ← hvhost]
        exact ⟨hvproper, hvhost ▸ hown⟩
    have hproper' : IsScheme (against b.withParams v.withParams).scheme := by
      rw [hunder]
      exact isScheme_of_split hb hbase
    obtain ⟨w, hw, habsolute, hwscheme, hwhost⟩ :=
      exists_split_write hproper' hproper.1 hproper.2 []
    exact .resolved hempty hresolving hw habsolute (hwscheme.trans hunder) (hwhost.trans hhost)
  · rw [if_neg fun hboth => hresolving hboth.2]
    exact .kept hempty (by simpa using hresolving)

end

end QueryBinding.Url
