-- The words of a text, and the one form in which it has them with single spaces in between.
-- What stands between the words and around them is lost, and nothing else is.
import QueryBinding.Proofs.Blanks
import QueryBinding.Proofs.Outcomes

namespace QueryBinding

namespace Text

variable {c : Char} {cs l r w : List Char} {ws : List (List Char)}

/-! ## What a text is made of -/

/-- A text is made of these words, in order, with any blanks around them and at least one blank
between neighbours. -/
inductive MadeOf : List (List Char) → List Char → Prop
  | nothing : MadeOf [] []
  | blank {c : Char} (hc : isBlank c = true) {ws : List (List Char)} {cs : List Char}
      (h : MadeOf ws cs) : MadeOf ws (c :: cs)
  | word {w : List Char} (hw : IsWord w) {ws : List (List Char)} {cs : List Char}
      (hend : ∀ c ∈ cs.head?, isBlank c = true) (h : MadeOf ws cs) : MadeOf (w :: ws) (w ++ cs)

theorem wordsFrom_append (v cs : List Char) (hw : ∀ c ∈ w, isBlank c = false) :
    wordsFrom v (w ++ cs) = wordsFrom (v ++ w) cs := by
  induction w generalizing v with
  | nil => rw [List.nil_append, List.append_nil]
  | cons c w ih =>
    have hc : isBlank c = false := hw c List.mem_cons_self
    rw [List.cons_append, wordsFrom, hc, if_neg Bool.false_ne_true,
      ih _ fun d hd => hw d (List.mem_cons_of_mem _ hd), List.append_assoc, List.singleton_append]

theorem words_blank (hc : isBlank c = true) (cs : List Char) : words (c :: cs) = words cs := by
  unfold words
  rw [wordsFrom, hc, if_pos rfl]
  rfl

theorem words_word (hw : IsWord w) (hend : ∀ c ∈ cs.head?, isBlank c = true) :
    words (w ++ cs) = w :: words cs := by
  have hne : w.isEmpty = false := by simpa using hw.1
  have hread : words (w ++ cs) = wordsFrom w cs := wordsFrom_append [] cs hw.2
  rw [hread]
  cases cs with
  | nil => rw [wordsFrom, hne]; rfl
  | cons c cs =>
    have hc : isBlank c = true := hend c rfl
    rw [words_blank hc, wordsFrom, hc, if_pos rfl, hne]
    rfl

theorem MadeOf.words_eq (h : MadeOf ws cs) : words cs = ws := by
  induction h with
  | nothing => rfl
  | blank hc _ ih => rw [words_blank hc, ih]
  | word hw hend _ ih => rw [words_word hw hend, ih]

/-- Reading goes on with the letters of an unfinished word in hand: they belong to the text. -/
theorem madeOf_wordsFrom (cs : List Char) (hw : ∀ c ∈ w, isBlank c = false) :
    MadeOf (wordsFrom w cs) (w ++ cs) := by
  induction cs generalizing w with
  | nil =>
    rcases hne : w.isEmpty with _ | _
    · have hword : IsWord w := ⟨by simpa using hne, hw⟩
      rw [wordsFrom, hne]
      exact .word hword (by simp) .nothing
    · rw [List.isEmpty_iff.1 hne]
      exact .nothing
  | cons c cs ih =>
    rcases hc : isBlank c with _ | _
    · have hmore : ∀ d ∈ w ++ [c], isBlank d = false := by
        intro d hd
        rcases List.mem_append.1 hd with hd | hd
        · exact hw d hd
        · rw [List.mem_singleton.1 hd, hc]
      have hrest := ih hmore
      rw [List.append_assoc, List.singleton_append] at hrest
      rwa [wordsFrom, hc]
    · have hrest : MadeOf (wordsFrom [] cs) (c :: cs) := .blank hc (ih (by simp))
      rcases hne : w.isEmpty with _ | _
      · have hword : IsWord w := ⟨by simpa using hne, hw⟩
        rw [wordsFrom, hc, if_pos rfl, hne]
        exact .word hword (by simpa using hc) hrest
      · rw [List.isEmpty_iff.1 hne, wordsFrom, hc]
        exact hrest

/-- The words that are read from a text are those that it is made of. -/
theorem words_eq_iff : words cs = ws ↔ MadeOf ws cs := by
  constructor
  · rintro rfl
    exact madeOf_wordsFrom cs (by simp)
  · exact MadeOf.words_eq

/-! ## Blanks around -/

theorem MadeOf.before (h : MadeOf ws cs) (hl : ∀ c ∈ l, isBlank c = true) :
    MadeOf ws (l ++ cs) := by
  induction l with
  | nil => exact h
  | cons c l ih =>
    exact .blank (hl c List.mem_cons_self) (ih fun d hd => hl d (List.mem_cons_of_mem _ hd))

theorem MadeOf.behind (h : MadeOf ws cs) (hr : ∀ c ∈ r, isBlank c = true) :
    MadeOf ws (cs ++ r) := by
  induction h with
  | nothing => simpa using MadeOf.nothing.before hr
  | blank hc _ ih => exact .blank hc ih
  | @word w hw ws cs hend _ ih =>
    rw [List.append_assoc]
    refine .word hw ?_ ih
    intro c hc
    rw [List.head?_append] at hc
    cases cs with
    | nil => exact hr c (List.mem_of_mem_head? hc)
    | cons d cs => exact hend c hc

theorem words_strip (cs : List Char) : words (strip cs) = words cs := by
  obtain ⟨l, r, hcs, hl, hr⟩ := exists_trim isBlank cs
  have hmade : MadeOf (words (strip cs)) (l ++ strip cs ++ r) :=
    ((words_eq_iff.1 rfl).before hl).behind hr
  rw [strip_eq_trim, ← hcs] at hmade
  exact (words_eq_iff.2 hmade).symm

/-! ## The tidy form -/

/-- A text has no blank at either end, and only single spaces for blanks in between. -/
structure Tidy (cs : List Char) : Prop where
  spaces : ∀ c ∈ cs, isBlank c = true → c = ' '
  single : cs.IsChain fun a b => isBlank a = false ∨ isBlank b = false
  front : ∀ c ∈ cs.head?, isBlank c = false
  back : ∀ c ∈ cs.getLast?, isBlank c = false

theorem IsWord.tidy (hw : IsWord w) : Tidy w where
  spaces := by
    intro c hc hblank
    rw [hw.2 c hc] at hblank
    cases hblank
  single := (List.pairwise_of_forall_mem_list fun a ha _ _ => .inl (hw.2 a ha)).isChain
  front := fun c hc => hw.2 c (List.mem_of_mem_head? hc)
  back := fun c hc => hw.2 c (List.mem_of_getLast? hc)

theorem Tidy.behind_word (ht : Tidy cs) (hne : cs ≠ []) (hw : IsWord w) :
    Tidy (w ++ ' ' :: cs) where
  spaces := by
    intro c hc hblank
    rcases List.mem_append.1 hc with hc | hc
    · rw [hw.2 c hc] at hblank
      cases hblank
    · rcases List.mem_cons.1 hc with rfl | hc
      · rfl
      · exact ht.spaces c hc hblank
  single := by
    refine hw.tidy.single.append ?_ fun a ha _ _ => .inl (hw.tidy.back a ha)
    exact ht.single.cons fun b hb => .inr (ht.front b hb)
  front := by
    intro c hc
    obtain ⟨d, w, rfl⟩ := List.exists_cons_of_ne_nil hw.1
    exact hw.tidy.front c hc
  back := by
    intro c hc
    obtain ⟨d, cs, rfl⟩ := List.exists_cons_of_ne_nil hne
    rw [List.getLast?_append, List.getLast?_cons_cons, List.getLast?_cons] at hc
    refine ht.back c ?_
    rw [List.getLast?_cons]
    exact hc

theorem joinWith_cons (mark w : List Char) (hne : ws ≠ []) :
    joinWith mark (w :: ws) = w ++ mark ++ joinWith mark ws := by
  obtain ⟨v, ws, rfl⟩ := List.exists_cons_of_ne_nil hne
  rfl

theorem joinWith_ne_nil (hne : ws ≠ []) (hws : ∀ w ∈ ws, IsWord w) : joinWith [' '] ws ≠ [] := by
  obtain ⟨w, ws, rfl⟩ := List.exists_cons_of_ne_nil hne
  have hw : w ≠ [] := (hws w List.mem_cons_self).1
  cases ws with
  | nil => exact hw
  | cons v ws => simp [joinWith, hw]

theorem tidy_joinWith (hws : ∀ w ∈ ws, IsWord w) : Tidy (joinWith [' '] ws) := by
  induction ws with
  | nil => exact ⟨by simp [joinWith], .nil, by simp [joinWith], by simp [joinWith]⟩
  | cons w ws ih =>
    have hw : IsWord w := hws w List.mem_cons_self
    have hrest : ∀ v ∈ ws, IsWord v := fun v hv => hws v (List.mem_cons_of_mem _ hv)
    by_cases hne : ws = []
    · subst hne
      exact hw.tidy
    · rw [joinWith_cons _ _ hne, List.append_assoc]
      exact (ih hrest).behind_word (joinWith_ne_nil hne hrest) hw

/-- Words with single spaces in between are a text that is made of them. -/
theorem madeOf_joinWith (hws : ∀ w ∈ ws, IsWord w) : MadeOf ws (joinWith [' '] ws) := by
  induction ws with
  | nil => exact .nothing
  | cons w ws ih =>
    have hw : IsWord w := hws w List.mem_cons_self
    have hrest : MadeOf ws (joinWith [' '] ws) := ih fun v hv => hws v (List.mem_cons_of_mem _ hv)
    by_cases hne : ws = []
    · subst hne
      simpa [joinWith] using MadeOf.word hw (by simp) .nothing
    · rw [joinWith_cons _ _ hne, List.append_assoc]
      exact .word hw (by simpa using isBlank_space) (.blank isBlank_space hrest)

/-- Behind a blank inside a tidy text there is another tidy text. -/
theorem Tidy.of_append_cons (ht : Tidy (w ++ c :: cs)) (hc : isBlank c = true) :
    c = ' ' ∧ cs ≠ [] ∧ Tidy cs := by
  have hne : cs ≠ [] := by
    rintro rfl
    have hback : isBlank c = false := ht.back c (by simp)
    rw [hc] at hback
    cases hback
  obtain ⟨hnext, hsingle⟩ := List.isChain_cons.1 ht.single.right_of_append
  refine ⟨ht.spaces c (by simp) hc, hne, ?_, hsingle, ?_, ?_⟩
  · exact fun d hd => ht.spaces d (by simp [hd])
  · intro d hd
    rcases hnext d hd with hfalse | hd
    · rw [hc] at hfalse
      cases hfalse
    · exact hd
  · intro d hd
    obtain ⟨e, cs, rfl⟩ := List.exists_cons_of_ne_nil hne
    rw [List.getLast?_cons] at hd
    refine ht.back d ?_
    rw [List.getLast?_append, List.getLast?_cons_cons, List.getLast?_cons]
    exact hd

theorem Tidy.dropWhile (ht : Tidy cs) : cs.dropWhile isBlank = cs := by
  cases cs with
  | nil => rfl
  | cons c cs => rw [List.dropWhile_cons, ht.front c rfl, if_neg Bool.false_ne_true]

/-- A tidy text is its words with single spaces in between. Blanks in front are passed over for the
sake of the induction: they come between a word and the next. -/
theorem MadeOf.eq_joinWith (h : MadeOf ws cs) (ht : Tidy (cs.dropWhile isBlank)) :
    cs.dropWhile isBlank = joinWith [' '] ws := by
  induction h with
  | nothing => rfl
  | blank hc _ ih =>
    rw [List.dropWhile_cons, if_pos hc] at ht ⊢
    exact ih ht
  | @word w hw ws cs hend h ih =>
    have hfront : (w ++ cs).dropWhile isBlank = w ++ cs := by
      obtain ⟨d, w, rfl⟩ := List.exists_cons_of_ne_nil hw.1
      rw [List.cons_append, List.dropWhile_cons, hw.2 d List.mem_cons_self,
        if_neg Bool.false_ne_true]
    rw [hfront] at ht ⊢
    cases cs with
    | nil =>
      obtain rfl : [] = ws := h.words_eq
      rw [List.append_nil, joinWith]
    | cons c cs =>
      have hc : isBlank c = true := hend c rfl
      obtain ⟨rfl, hne, htidy⟩ := ht.of_append_cons hc
      have hskip : (' ' :: cs).dropWhile isBlank = cs := by
        rw [List.dropWhile_cons, if_pos hc, htidy.dropWhile]
      rw [hskip] at ih
      have hcs : cs = joinWith [' '] ws := ih htidy
      have hws : ws ≠ [] := by
        rintro rfl
        exact hne hcs
      rw [joinWith_cons _ _ hws, ← hcs, List.append_assoc, List.singleton_append]

/-! ## Normal texts -/

theorem tidy_normalize (cs : List Char) : Tidy (normalize cs) :=
  tidy_joinWith fun _ => isWord_of_mem_words

theorem words_normalize (cs : List Char) : words (normalize cs) = words cs :=
  (madeOf_joinWith fun _ => isWord_of_mem_words).words_eq

/-- The tidy texts are those that are normal already. -/
theorem normalize_eq_self_iff : normalize cs = cs ↔ Tidy cs := by
  constructor
  · intro h
    rw [← h]
    exact tidy_normalize cs
  · intro ht
    have hdrop := ht.dropWhile
    have hjoin := (words_eq_iff.1 rfl).eq_joinWith (hdrop.symm ▸ ht)
    rw [hdrop] at hjoin
    exact hjoin.symm

theorem normalize_eq_iff {ds : List Char} : normalize cs = normalize ds ↔ words cs = words ds := by
  constructor
  · intro h
    rw [← words_normalize cs, h, words_normalize]
  · intro h
    rw [normalize, h, normalize]

theorem Tidy.strip (ht : Tidy cs) : strip cs = cs := by
  have hreverse : cs.reverse.dropWhile isBlank = cs.reverse := by
    rcases hr : cs.reverse with _ | ⟨c, rest⟩
    · rfl
    · have hc : isBlank c = false := ht.back c (by rw [← List.head?_reverse, hr]; rfl)
      rw [List.dropWhile_cons, hc, if_neg Bool.false_ne_true]
  rw [Text.strip, stripLeft, ht.dropWhile, stripRight, stripLeft, hreverse, List.reverse_reverse]

end Text

namespace Transform

open Text

theorem normalizeWhitespace_text (s : String) :
    normalizeWhitespace.apply (.text s) = pure (.text (String.ofList (normalize s.toList))) := by
  rw [apply]
  rfl

theorem strip_text (s : String) :
    strip.apply (.text s) = pure (.text (String.ofList (Text.strip s.toList))) := by
  rw [apply]
  rfl

/-- Normalizing the blanks of a text gives its canonical form: a tidy text of the same words. What
is tidy is left as it is, so normalizing again changes nothing, and stripping makes no difference,
before or after. Two texts have the same canonical form just when they have the same words. -/
theorem a_normal_text_is_told_by_its_words :
    (∀ (s : String) (ws : List (List Char)), words s.toList = ws ↔ MadeOf ws s.toList) ∧
    (∀ s : String, ∃ r : String, normalizeWhitespace.apply (.text s) = pure (.text r) ∧
      Tidy r.toList ∧ words r.toList = words s.toList ∧
      normalizeWhitespace.apply (.text r) = pure (.text r) ∧
      (∃ t : String, strip.apply (.text s) = pure (.text t) ∧
        normalizeWhitespace.apply (.text t) = pure (.text r)) ∧
      strip.apply (.text r) = pure (.text r)) ∧
    (∀ s : String, normalizeWhitespace.apply (.text s) = pure (.text s) ↔ Tidy s.toList) ∧
    ∀ s t : String, normalizeWhitespace.apply (.text s) = normalizeWhitespace.apply (.text t) ↔
      words s.toList = words t.toList := by
  refine ⟨fun s ws => words_eq_iff, fun s => ?_, fun s => ?_, fun s t => ?_⟩
  · have htidy := tidy_normalize s.toList
    refine ⟨_, normalizeWhitespace_text s, ?_⟩
    simp only [normalizeWhitespace_text, strip_text, String.toList_ofList]
    refine ⟨htidy, words_normalize _, ?_, ⟨_, rfl, ?_⟩, ?_⟩
    · rw [normalize_eq_self_iff.2 htidy]
    · rw [String.toList_ofList, normalize_eq_iff.2 (words_strip s.toList)]
    · rw [htidy.strip]
  · rw [normalizeWhitespace_text, ← normalize_eq_self_iff]
    constructor
    · intro h
      have htext : String.ofList (normalize s.toList) = s := Value.text.inj (pure_inj h)
      rw [← String.toList_inj, String.toList_ofList] at htext
      exact htext
    · intro h
      rw [h, String.ofList_toList]
  · rw [normalizeWhitespace_text, normalizeWhitespace_text, ← normalize_eq_iff]
    constructor
    · intro h
      exact String.ofList_injective (Value.text.inj (pure_inj h))
    · intro h
      rw [h]

example : normalize "\t two\u00a0\n words ".toList = "two words".toList := by decide

end Transform

end QueryBinding
