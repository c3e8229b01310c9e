-- Addresses as values of fields. One transform gives an address that lacks a scheme the scheme
-- of a base, the other resolves references against a base.
import QueryBinding.Proofs.Addresses
import QueryBinding.Proofs.Outcomes

namespace QueryBinding.Transform

open Url

variable {base : String} {t : Transform}

/-! ## What the transforms give for a text -/

theorem absoluteUrl?_eq_ok : absoluteUrl? base = .ok t ↔
    ∃ b, split base.toList [] = .ok b ∧ b.IsAbsolute ∧ t = .absoluteUrl base := by
  unfold absoluteUrl?
  rcases split base.toList [] with e | b
  · simp
  · by_cases hb : b.IsAbsolute
    · simp [hb, eq_comm]
    · simp [hb]

theorem absoluteUrl_of_join (base s : String) : (absoluteUrl base).apply (.text s) =
    match join base.toList (Text.strip s.toList) with
    | .ok joined => pure (.text (String.ofList joined))
    | .error e => throw (.fault (.malformedUrl e)) := by
  rw [apply]
  change ofFault ((resolve base.toList s.toList).map ofChars) = _
  rw [resolve]
  rcases join base.toList (Text.strip s.toList) with e | joined <;> rfl

/-- The scheme that a base gives to an address that lacks one. -/
def givenScheme (base : List Char) : List Char :=
  if startsWith "https".toList base then "https".toList else "http".toList

theorem fixSchemeOf_slashes (base rest : List Char) : fixSchemeOf base ('/' :: '/' :: rest) =
    givenScheme base ++ ':' :: '/' :: '/' :: rest := by
  have hhttp : startsWith "http".toList ('/' :: '/' :: rest) = false := rfl
  have hslashes : startsWith ['/', '/'] ('/' :: '/' :: rest) = true := rfl
  rw [fixSchemeOf, hhttp, hslashes, givenScheme]
  cases startsWith "https".toList base <;> rfl

theorem fixScheme_of_slashes (base : String) (rest : List Char) :
    (fixScheme base).apply (.text (String.ofList ('/' :: '/' :: rest))) =
      pure (.text (String.ofList (givenScheme base.toList ++ ':' :: '/' :: '/' :: rest))) := by
  rw [apply, ofFault_eq_pure]
  change Except.ok (ofChars (fixSchemeOf base.toList
    (String.ofList ('/' :: '/' :: rest)).toList)) = _
  rw [String.toList_ofList, fixSchemeOf_slashes, ofChars]

theorem schemeOf_ne_http {base : List Char} (h : startsWith "https".toList base = true) :
    schemeOf base ≠ "http".toList := by
  intro hscheme
  have hhttps : IsScheme "https".toList :=
    ⟨⟨'h', "ttps".toList, rfl, rfl⟩, List.all_eq_true.1 rfl, rfl⟩
  obtain ⟨more, rfl⟩ := List.isPrefixOf_iff_prefix.1 h
  rw [schemeOf, clean_append hhttps] at hscheme
  rcases takeScheme_cases ("https".toList ++ more.filter (!isBreak ·)) with
    hnone | ⟨before, after, heq, htake, -⟩
  · rw [hnone] at hscheme
    cases hscheme
  · -- the colon would have to stand where the last letter stands
    rw [htake] at hscheme
    have hlength : before.length = 4 := by simpa using congrArg List.length hscheme
    have hcolon : ("https".toList ++ more.filter (!isBreak ·))[4]? = some ':' := by
      rw [heq, List.getElem?_append_right (by omega), hlength]
      rfl
    simp at hcolon

/-- A base gives its own scheme, unless that is the longer of the two and the base does not
literally begin with it. -/
theorem givenScheme_eq_schemeOf_iff {base : List Char}
    (h : schemeOf base ∈ ["http".toList, "https".toList]) :
    givenScheme base = schemeOf base ↔
      (schemeOf base = "https".toList → startsWith "https".toList base = true) := by
  simp only [List.mem_cons, List.not_mem_nil, or_false] at h
  by_cases hstart : startsWith "https".toList base = true
  · have hhttps : schemeOf base = "https".toList := h.resolve_left (schemeOf_ne_http hstart)
    rw [givenScheme, if_pos hstart]
    exact iff_of_true hhttps.symm fun _ => hstart
  · rw [givenScheme, if_neg hstart]
    rcases h with h | h <;> rw [h]
    · exact iff_of_true rfl fun heq => absurd heq (by decide)
    · exact iff_of_false (by decide) fun himp => hstart (himp rfl)

/-! ## Absolute addresses -/

/-- A text is an absolute address under a scheme: one that can serve as a base itself. -/
def IsAbsoluteUnder (scheme : List Char) (s : String) : Prop :=
  absoluteUrl? s = .ok (.absoluteUrl s) ∧ schemeOf s.toList = scheme

theorem isAbsoluteUnder_of_split {cs : List Char} {u : Url} (h : split cs [] = .ok u)
    (hu : u.IsAbsolute) : IsAbsoluteUnder u.scheme (String.ofList cs) := by
  rw [← String.toList_ofList (l := cs)] at h
  exact ⟨absoluteUrl?_eq_ok.2 ⟨u, h, hu, rfl⟩, (scheme_of_split h).symm⟩

/-- What is resolved is absolute, with the host of the reference or, if it names none, of the
base. -/
theorem isAbsoluteUnder_of_resolves {cs reference joined : List Char} {b : Url}
    (h : Resolves cs b reference joined) (hb : split cs [] = .ok b) (habsolute : b.IsAbsolute)
    (hresolves : among resolving b.scheme = true ∨ reference = []) :
    IsAbsoluteUnder b.scheme (String.ofList joined) ∧
      hostOf joined = if hostOf reference = [] then b.host else hostOf reference := by
  cases h with
  | empty h =>
    subst h
    exact ⟨isAbsoluteUnder_of_split hb habsolute, (split_eq_ok hb).2.1.symm⟩
  | kept hne hplain => simp [hne, hplain] at hresolves
  | resolved hne hresolving hu habsolute' hsame hhost =>
    rw [← hsame, ← hhost]
    exact ⟨isAbsoluteUnder_of_split hu habsolute', (split_eq_ok hu).2.1.symm⟩

/-- A reference that cannot be taken apart is refused. -/
theorem apply_of_split_error (hbase : absoluteUrl? base = .ok t) {s : String} {e : UrlFault}
    (h : split (Text.strip s.toList) [] = .error e) :
    t.apply (.text s) = throw (.fault (.malformedUrl e)) := by
  obtain ⟨b, hb, habsolute, rfl⟩ := absoluteUrl?_eq_ok.1 hbase
  have hne : base.toList ≠ [] := by
    intro hempty
    rw [hempty] at hb
    exact habsolute.1 (scheme_of_split hb)
  rw [absoluteUrl_of_join, join_of_split_error hb hne h]

/-- Any other reference without a scheme is resolved. -/
theorem exists_resolved (hbase : absoluteUrl? base = .ok t) {s : String} {u : Url}
    (hs : schemeOf (Text.strip s.toList) = []) (hu : split (Text.strip s.toList) [] = .ok u) :
    ∃ b joined, split base.toList [] = .ok b ∧ b.IsAbsolute ∧
      Resolves base.toList b (Text.strip s.toList) joined ∧
      t.apply (.text s) = pure (.text (String.ofList joined)) := by
  obtain ⟨b, hb, habsolute, rfl⟩ := absoluteUrl?_eq_ok.1 hbase
  obtain ⟨joined, hjoin, hresolves⟩ := exists_join hb habsolute hs hu
  refine ⟨b, joined, hb, habsolute, hresolves, ?_⟩
  rw [absoluteUrl_of_join, hjoin]

/-- A reference without a scheme is refused just when it cannot be taken apart. Else it is made an
absolute address under the scheme of the base, with a host of its own or that of the base. Only a
scheme under which references do not resolve leaves it as it is, without the blanks around it; an
empty reference is the base under every scheme. -/
theorem a_reference_is_made_absolute_under_a_resolving_scheme
    (hbase : absoluteUrl? base = .ok t) (s : String)
    (hs : schemeOf (Text.strip s.toList) = []) :
    (∀ e, split (Text.strip s.toList) [] = .error e →
      t.apply (.text s) = throw (.fault (.malformedUrl e))) ∧
    ∀ u, split (Text.strip s.toList) [] = .ok u → ∃ r, t.apply (.text s) = pure (.text r) ∧
      (among resolving (schemeOf base.toList) = true ∨ Text.strip s.toList = [] →
        IsAbsoluteUnder (schemeOf base.toList) r ∧
          hostOf r.toList = if u.host = [] then hostOf base.toList else u.host) ∧
      (¬ (among resolving (schemeOf base.toList) = true ∨ Text.strip s.toList = []) →
        r = String.ofList (Text.strip s.toList) ∧
          ¬ IsAbsoluteUnder (schemeOf base.toList) r) := by
  refine ⟨fun e => apply_of_split_error hbase, fun u hu => ?_⟩
  obtain ⟨b, joined, hb, habsolute, hresolves, happly⟩ := exists_resolved hbase hs hu
  refine ⟨_, happly, ?_⟩
  rw [← scheme_of_split hb, ← (split_eq_ok hb).2.1, (split_eq_ok hu).2.1, String.toList_ofList]
  refine ⟨isAbsoluteUnder_of_resolves hresolves hb habsolute, fun hcases => ?_⟩
  obtain ⟨hplain, hne⟩ := not_or.1 hcases
  cases hresolves with
  | empty hempty => exact absurd hempty hne
  | kept =>
    -- an absolute address has a scheme, and the reference has none
    refine ⟨rfl, ?_⟩
    rintro ⟨-, hsame⟩
    rw [String.toList_ofList, hs] at hsame
    exact habsolute.1 hsame.symm
  | resolved _ hresolving => exact absurd hresolving hplain

theorem a_path_is_made_absolute_under_https :
    absoluteUrl? "https://example.com/news/" = .ok (absoluteUrl "https://example.com/news/") ∧
    schemeOf (Text.strip " item/1 ".toList) = [] ∧
    ∃ r, (absoluteUrl "https://example.com/news/").apply (.text " item/1 ") = pure (.text r) ∧
      IsAbsoluteUnder "https".toList r ∧ hostOf r.toList = "example.com".toList := by
  have hbase : absoluteUrl? "https://example.com/news/" =
      .ok (absoluteUrl "https://example.com/news/") := rfl
  have hs : schemeOf (Text.strip " item/1 ".toList) = [] := rfl
  have hmade := (a_reference_is_made_absolute_under_a_resolving_scheme hbase " item/1 " hs).2
  obtain ⟨r, hr, hunder, -⟩ := hmade ⟨[], [], "item/1".toList, [], [], []⟩ rfl
  exact ⟨hbase, hs, r, hr, (hunder (.inl rfl)).1, (hunder (.inl rfl)).2⟩

/-- Under a scheme of an application references do not resolve, though the base is absolute. -/
theorem a_path_is_left_relative :
    ¬ ∀ (base : String) (t : Transform) (s : String), absoluteUrl? base = .ok t →
      schemeOf s.toList = [] → (∃ f, t.apply (.text s) = throw (.fault f)) ∨
        ∃ r, t.apply (.text s) = pure (.text r) ∧ IsAbsoluteUnder (schemeOf base.toList) r := by
  intro hall
  have hread : (absoluteUrl "app://example.com/news/").apply (.text "item/1") =
      pure (.text "item/1") := by
    rw [absoluteUrl_of_join]
    rfl
  rcases hall "app://example.com/news/" _ "item/1" rfl rfl with ⟨f, hf⟩ | ⟨r, hr, hunder⟩
  · exact throw_ne_pure (hf.symm.trans hread)
  · cases pure_inj (hr.symm.trans hread)
    exact absurd hunder.2 (by decide)

/-- A text that begins with a slash still does when the blanks around it are cut off. -/
theorem strip_slash (cs : List Char) : ∃ rest, Text.strip ('/' :: cs) = '/' :: rest := by
  have hmem : '/' ∈ Text.strip ('/' :: cs) :=
    Text.mem_trim_of_mem List.mem_cons_self (by decide)
  obtain ⟨tail, htail⟩ : Text.strip ('/' :: cs) <+: '/' :: cs := List.rdropWhile_prefix _ _
  cases hstrip : Text.strip ('/' :: cs) with
  | nil => simp [hstrip] at hmem
  | cons c rest =>
    rw [hstrip] at htail
    exact ⟨rest, by rw [(List.cons.inj htail).1]⟩

/-- An address that lacks a scheme gets the scheme of the base from both transforms. The one that
resolves gives an absolute address under it, and only refuses what cannot be taken apart; the one
that puts a scheme before the address takes that of the base, unless the base is secure and does not
say so in small letters, at its very front. -/
theorem an_address_without_a_scheme_gets_that_of_the_base
    (hbase : absoluteUrl? base = .ok t)
    (hscheme : schemeOf base.toList ∈ ["http".toList, "https".toList]) (rest : List Char) :
    (∀ e, split (Text.strip ('/' :: '/' :: rest)) [] = .error e →
      t.apply (.text (String.ofList ('/' :: '/' :: rest))) =
        throw (.fault (.malformedUrl e))) ∧
    (∀ u, split (Text.strip ('/' :: '/' :: rest)) [] = .ok u →
      ∃ r, t.apply (.text (String.ofList ('/' :: '/' :: rest))) = pure (.text r) ∧
        IsAbsoluteUnder (schemeOf base.toList) r) ∧
    ∃ given, (fixScheme base).apply (.text (String.ofList ('/' :: '/' :: rest))) =
        pure (.text (String.ofList (given ++ ':' :: '/' :: '/' :: rest))) ∧
      (given = schemeOf base.toList ↔
        (schemeOf base.toList = "https".toList →
          startsWith "https".toList base.toList = true)) := by
  have htext : (String.ofList ('/' :: '/' :: rest)).toList = '/' :: '/' :: rest :=
    String.toList_ofList
  refine ⟨fun e he => apply_of_split_error hbase (by rwa [htext]), fun u hu => ?_, _,
    fixScheme_of_slashes base rest, givenScheme_eq_schemeOf_iff hscheme⟩
  rw [← htext] at hu
  obtain ⟨shown, hshown⟩ := strip_slash ('/' :: rest)
  have hs : schemeOf (Text.strip (String.ofList ('/' :: '/' :: rest)).toList) = [] := by
    rw [htext, hshown, schemeOf_slash]
  obtain ⟨b, joined, hb, habsolute, hresolves, happly⟩ := exists_resolved hbase hs hu
  have hresolving : among resolving b.scheme = true := by
    simp only [List.mem_cons, List.not_mem_nil, or_false] at hscheme
    rw [scheme_of_split hb]
    rcases hscheme with h | h <;> rw [h] <;> rfl
  refine ⟨_, happly, ?_⟩
  rw [← scheme_of_split hb]
  exact (isAbsoluteUnder_of_resolves hresolves hb habsolute (.inl hresolving)).1

theorem a_base_in_capitals_gives_its_scheme :
    absoluteUrl? " HTTP://Example.com/" = .ok (absoluteUrl " HTTP://Example.com/") ∧
    schemeOf " HTTP://Example.com/".toList = "http".toList ∧
    (∃ r, (absoluteUrl " HTTP://Example.com/").apply (.text "//cdn.example.com/a.png") =
      pure (.text r) ∧ IsAbsoluteUnder "http".toList r) ∧
    (fixScheme " HTTP://Example.com/").apply (.text "//cdn.example.com/a.png") =
      pure (.text "http://cdn.example.com/a.png") := by
  have hbase : absoluteUrl? " HTTP://Example.com/" = .ok (absoluteUrl " HTTP://Example.com/") := rfl
  have hscheme : schemeOf " HTTP://Example.com/".toList = "http".toList := rfl
  obtain ⟨-, hresolved, given, hgiven, hsame⟩ := an_address_without_a_scheme_gets_that_of_the_base
    hbase (by rw [hscheme]; simp) "cdn.example.com/a.png".toList
  obtain ⟨r, hr, hunder⟩ :=
    hresolved ⟨[], "cdn.example.com".toList, "/a.png".toList, [], [], []⟩ rfl
  refine ⟨hbase, hscheme, ⟨r, hr, hunder⟩, ?_⟩
  have hhttp : given = "http".toList := by
    rw [hsame.2 fun heq => ?_, hscheme]
    rw [hscheme] at heq
    exact absurd heq (by decide)
  rw [hhttp] at hgiven
  exact hgiven

/-- The scheme of a base may be written in capitals, but then it is not found in front. -/
theorem a_secure_base_in_capitals_gives_two_schemes :
    absoluteUrl? "HTTPS://example.com" = .ok (absoluteUrl "HTTPS://example.com") ∧
    schemeOf "HTTPS://example.com".toList = "https".toList ∧
    (absoluteUrl "HTTPS://example.com").apply (.text "//cdn.example.com/a.png") =
      pure (.text "https://cdn.example.com/a.png") ∧
    (fixScheme "HTTPS://example.com").apply (.text "//cdn.example.com/a.png") =
      pure (.text "http://cdn.example.com/a.png") := by
  refine ⟨rfl, rfl, ?_, ?_⟩
  · rw [absoluteUrl_of_join]
    rfl
  · exact fixScheme_of_slashes "HTTPS://example.com" "cdn.example.com/a.png".toList

end QueryBinding.Transform
