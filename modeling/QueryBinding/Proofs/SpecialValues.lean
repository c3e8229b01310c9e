-- Decimals that are no finite numbers. A text is read as an infinity, or as what is no
-- number, just when it spells it out; all else is read as a finite number or refused.
import QueryBinding.Proofs.Grouping

namespace QueryBinding

open Number Text

namespace Text

theorem map_toLower_of_digits {ds : List Char}
    (h : (∀ c ∈ ds, isDigit c = true) ∨ ∀ c ∈ ds.map Char.toLower, isDigit c = true) :
    ds.map Char.toLower = ds := by
  conv_rhs => rw [← List.map_id ds]
  refine List.map_congr_left fun c hc => toLower_of_isDigit ?_
  exact h.imp (fun h => h c hc) fun h => h _ (List.mem_map_of_mem hc)

/-- What is left of a text when its ends are cut off neither begins nor ends with the kind that is
cut, and so it stays when characters of that kind are taken from inside. -/
theorem trim_filter_trim {p q : Char → Bool} (hq : ∀ c, p c = false → q c = true)
    (cs : List Char) : trim p ((trim p cs).filter q) = (trim p cs).filter q := by
  have hfirst : ((trim p cs).filter q).dropWhile p = (trim p cs).filter q := by
    rcases htrim : trim p cs with _ | ⟨c, rest⟩
    · rfl
    · obtain ⟨tail, htail⟩ : trim p cs <+: cs.dropWhile p := List.rdropWhile_prefix p _
      have hc : p c = false := by
        have hhead := List.head_dropWhile_not p (l := cs) (by simp [← htail, htrim])
        simpa [← htail, htrim] using hhead
      simp [hq c hc, hc]
  have hlast : ((trim p cs).filter q).rdropWhile p = (trim p cs).filter q := by
    rcases List.eq_nil_or_concat' (trim p cs) with htrim | ⟨init, c, htrim⟩
    · rw [htrim]
      rfl
    · have hinit : (cs.dropWhile p).rdropWhile p = init ++ [c] := htrim
      have hc : p c = false := by
        have hend := List.rdropWhile_last_not p (cs.dropWhile p) (by rw [hinit]; simp)
        simpa [hinit] using hend
      simp [htrim, hq c hc, hc]
  rw [trim, hfirst, hlast]

end Text

namespace Number.Decimal

/-! ## Values that are spelled out -/

/-- A text spells out a value that is no finite number: the word for it, in letters of any case,
and digits behind the word for what is no number. -/
inductive Spells (negative : Bool) : List Char → Decimal → Prop
  | infinite {word : List Char}
      (hword : word.map Char.toLower ∈ ["inf".toList, "infinity".toList]) :
      Spells negative word (.infinite negative)
  | undefined {word digits : List Char} (signaling : Bool)
      (hword : word.map Char.toLower = if signaling then "snan".toList else "nan".toList)
      (hdigits : ∀ c ∈ digits, isDigit c = true) :
      Spells negative (word ++ digits)
        (.undefined negative signaling (ofDigits (digitValues digits)))

variable {negative : Bool} {cs body : List Char} {x : Decimal}

theorem readPayload_eq_some {n : Nat} : readPayload cs = some n ↔
    (∀ c ∈ cs, isDigit c = true) ∧ n = ofDigits (digitValues cs) := by
  constructor
  · intro h
    have hdigits : ∀ c ∈ cs, isDigit c = true := by
      unfold readPayload at h
      split at h
      · rename_i ds hds
        exact List.dropWhile_eq_nil_iff.1 (congrArg Prod.snd hds)
      · cases h
    rw [readPayload, digitsOf_of_digits hdigits] at h
    exact ⟨hdigits, (Option.some.inj h).symm⟩
  · rintro ⟨hdigits, rfl⟩
    rw [readPayload, digitsOf_of_digits hdigits]

/-- Behind the word for what is no number any digits may stand. -/
theorem exists_word {start : List Char} {n : Nat} (h : cs.map Char.toLower = start ++ body)
    (hn : readPayload body = some n) : ∃ word digits, cs = word ++ digits ∧
      word.map Char.toLower = start ∧ (∀ c ∈ digits, isDigit c = true) ∧
      n = ofDigits (digitValues digits) := by
  obtain ⟨word, digits, rfl, hword, rfl⟩ := List.map_eq_append_iff.1 h
  obtain ⟨hdigits, rfl⟩ := readPayload_eq_some.1 hn
  have hlower : digits.map Char.toLower = digits := map_toLower_of_digits (.inr hdigits)
  rw [hlower] at hdigits ⊢
  exact ⟨word, digits, rfl, hword, hdigits, rfl⟩

theorem readSpecial_eq_some : readSpecial negative cs = some x ↔ Spells negative cs x := by
  constructor
  · intro h
    unfold readSpecial at h
    split at h
    · rename_i heq
      cases h
      exact .infinite (by simp [heq])
    · rename_i heq
      cases h
      exact .infinite (by simp [heq])
    · rename_i rest heq
      obtain ⟨n, hn, rfl⟩ := Option.map_eq_some_iff.1 h
      have hlower : cs.map Char.toLower = "nan".toList ++ rest := heq
      obtain ⟨word, digits, rfl, hword, hdigits, rfl⟩ := exists_word hlower hn
      exact .undefined false hword hdigits
    · rename_i rest heq
      obtain ⟨n, hn, rfl⟩ := Option.map_eq_some_iff.1 h
      have hlower : cs.map Char.toLower = "snan".toList ++ rest := heq
      obtain ⟨word, digits, rfl, hword, hdigits, rfl⟩ := exists_word hlower hn
      exact .undefined true hword hdigits
    · cases h
  · intro h
    cases h with
    | infinite hword =>
      simp only [List.mem_cons, List.not_mem_nil, or_false] at hword
      rcases hword with hword | hword <;> simp [readSpecial, hword]
    | @undefined word digits signaling hword hdigits =>
      have hpayload : readPayload (digits.map Char.toLower) =
          some (ofDigits (digitValues digits)) := by
        rw [map_toLower_of_digits (.inl hdigits)]
        exact readPayload_eq_some.2 ⟨hdigits, rfl⟩
      cases signaling <;> simp [readSpecial, hword, hpayload]

/-- What is spelled out is a word of the same few letters, and digits. -/
theorem Spells.mem (h : Spells negative body x) {c : Char} (hc : c ∈ body) :
    isDigit c = true ∨ c.toLower ∈ ['i', 'n', 'f', 't', 'y', 's', 'a'] := by
  cases h with
  | infinite hword =>
    right
    have hlower : c.toLower ∈ body.map Char.toLower := List.mem_map_of_mem hc
    simp only [List.mem_cons, List.not_mem_nil, or_false] at hword
    rcases hword with hword | hword <;> rw [hword] at hlower <;> simp at hlower ⊢ <;> tauto
  | @undefined word digits signaling hword hdigits =>
    rcases List.mem_append.1 hc with hc | hc
    · right
      have hlower : c.toLower ∈ word.map Char.toLower := List.mem_map_of_mem hc
      cases signaling <;> rw [hword] at hlower <;> simp at hlower ⊢ <;> tauto
    · exact .inl (hdigits c hc)

/-- What is spelled out begins with a letter, so it is not taken for a number. -/
theorem Spells.exists_head (h : Spells negative body x) : ∃ c rest, body = c :: rest ∧
    c ∈ specialLetters := by
  have hhead : ∀ {word : List Char}, word.map Char.toLower ∈
      ["inf".toList, "infinity".toList, "nan".toList, "snan".toList] →
      ∃ c rest, word = c :: rest ∧ c ∈ specialLetters := by
    intro word hword
    cases word with
    | nil => simp at hword
    | cons c rest =>
      refine ⟨c, rest, rfl, mem_specialLetters_of_toLower ?_⟩
      simp at hword
      tauto
  cases h with
  | infinite hword => exact hhead (by simp at hword ⊢; tauto)
  | @undefined word digits signaling hword hdigits =>
    have hlower : word.map Char.toLower ∈
        ["inf".toList, "infinity".toList, "nan".toList, "snan".toList] := by
      cases signaling <;> simp [hword]
    obtain ⟨c, rest, rfl, hc⟩ := hhead hlower
    exact ⟨c, rest ++ digits, rfl, hc⟩

theorem Spells.isFinite (h : Spells negative body x) : x.isFinite = false := by
  cases h <;> rfl

/-- A decimal that is no finite number is read from a sign and what spells it out. -/
theorem read?_eq_some_and_not_finite : read? cs = some x ∧ x.isFinite = false ↔
    ∃ sign body, (strip cs).filter (· != '_') = sign ++ body ∧ sign ∈ [[], ['+'], ['-']] ∧
      Spells (sign == ['-']) body x := by
  constructor
  · rintro ⟨hx, hinfinite⟩
    obtain ⟨negative, body, hsign, hfinite | hspecial⟩ := exists_of_read? hx
    · obtain ⟨_, _, _, _, _, -, -, -, -, -, rfl⟩ := exists_of_readFinite hfinite
      cases hinfinite
    · have hspells := readSpecial_eq_some.1 hspecial
      rcases eq_of_signOf hsign with ⟨heq, rfl⟩ | ⟨heq, rfl⟩ | ⟨heq, rfl⟩
      · exact ⟨['-'], body, heq, by simp, hspells⟩
      · exact ⟨['+'], body, heq, by simp, hspells⟩
      · exact ⟨[], body, heq, by simp, hspells⟩
  · rintro ⟨sign, body, hcs, hsign, hspells⟩
    obtain ⟨c, rest, rfl, hc⟩ := hspells.exists_head
    have hbody : signOf (sign ++ c :: rest) = (sign == ['-'], c :: rest) ∧
        readFinite (sign == ['-']) (c :: rest) = none := by
      simp only [List.mem_cons, List.not_mem_nil, or_false] at hsign
      simp only [specialLetters, List.mem_cons, List.not_mem_nil, or_false] at hc
      rcases hsign with rfl | rfl | rfl <;> rcases hc with rfl | rfl | rfl | rfl | rfl | rfl <;>
        exact ⟨rfl, rfl⟩
    refine ⟨?_, hspells.isFinite⟩
    rw [read?, hcs, hbody.1]
    simp [hbody.2, readSpecial_eq_some.2 hspells]

end Number.Decimal

namespace Transform

variable {cs : List Char} {x : Decimal}

/-- A text spells out a value that is no finite number, with a sign or without: blanks around it,
and spaces and low lines inside, do not count. -/
def SpellsOut (cs : List Char) (x : Decimal) : Prop :=
  ∃ sign body, (withoutSpacing cs).filter (· != '_') = sign ++ body ∧
    sign ∈ [[], ['+'], ['-']] ∧ Decimal.Spells (sign == ['-']) body x

theorem not_isSeparator_of_spells {sign body : List Char} {negative : Bool}
    (hsign : sign ∈ [[], ['+'], ['-']]) (h : Decimal.Spells negative body x) :
    (sign ++ body).filter isSeparator = [] := by
  rw [List.filter_eq_nil_iff]
  intro c hc hseparator
  rw [isSeparator, Bool.or_eq_true, beq_iff_eq, beq_iff_eq] at hseparator
  rcases List.mem_append.1 hc with hc | hc
  · rcases hseparator with rfl | rfl <;> rcases Decimal.of_mem_sign hsign hc with h | h <;> cases h
  · rcases hseparator with rfl | rfl <;> exact absurd (h.mem hc) (by decide)

/-- A separator in a text becomes a point. -/
theorem point_mem_compactDecimal (h : cs.filter isSeparator ≠ []) : '.' ∈ compactDecimal cs := by
  obtain ⟨mark, hmark⟩ := Option.ne_none_iff_exists'.1 (mt List.getLast?_eq_none_iff.1 h)
  have hleft : mark ∈ (ungroup (withoutSpacing cs)).filter isSeparator := by
    rw [filter_ungroup hmark]
    have hmem := (List.mem_filter.1 (List.mem_of_getLast? hmark)).1
    exact List.mem_filter.2 ⟨hmem, beq_self_eq_true mark⟩
  obtain ⟨hmem, hseparator⟩ := List.mem_filter.1 hleft
  have hpoint : toPoint mark = '.' := by rwa [← beq_iff_eq, toPoint_eq_point]
  rw [compactDecimal_eq, List.mem_map]
  exact ⟨mark, hmem, hpoint⟩

theorem compactDecimal_of_noSeparator (h : cs.filter isSeparator = []) :
    compactDecimal cs = withoutSpacing cs := by
  have hnot : ∀ c ∈ cs, isSeparator c = false := by simpa using h
  have hpoint : '.' ∉ cs := fun hc => absurd (hnot _ hc) (by decide)
  have hcomma : ',' ∉ withoutSpacing cs :=
    fun hc => absurd (hnot _ (mem_of_mem_trim (List.mem_filter.1 hc).1)) (by decide)
  rw [compactDecimal_of_notMem hpoint, map_toPoint_of_notMem hcomma]

/-- Only what is spelled out is read as a decimal that is no finite number. A separator never
helps, as it is not taken away without leaving a point. -/
theorem read?_compactDecimal_eq_some_and_not_finite :
    Decimal.read? (compactDecimal cs) = some x ∧ x.isFinite = false ↔ SpellsOut cs x := by
  rw [Decimal.read?_eq_some_and_not_finite]
  by_cases hcs : cs.filter isSeparator = []
  · have hstrip : Text.strip (withoutSpacing cs) = withoutSpacing cs :=
      trim_filter_trim (fun c hc => by simp [isSpacing_eq_false hc]) cs
    rw [compactDecimal_of_noSeparator hcs, hstrip, SpellsOut]
  · constructor
    · rintro ⟨sign, body, heq, hsign, hspells⟩
      have hpoint : '.' ∈ (Text.strip (compactDecimal cs)).filter (· != '_') :=
        List.mem_filter.2 ⟨mem_trim_of_mem (point_mem_compactDecimal hcs) (by decide), by decide⟩
      rw [heq] at hpoint
      have hmem : '.' ∈ (sign ++ body).filter isSeparator :=
        List.mem_filter.2 ⟨hpoint, by decide⟩
      rw [not_isSeparator_of_spells hsign hspells] at hmem
      cases hmem
    · rintro ⟨sign, body, heq, hsign, hspells⟩
      refine absurd ?_ hcs
      have hkept : ((withoutSpacing cs).filter (· != '_')).filter isSeparator =
          cs.filter isSeparator := by
        rw [← filter_withoutSpacing (fun c => isSeparator_of_isBlank) cs, List.filter_filter]
        refine List.filter_congr fun c _ => ?_
        by_cases hc : c = '_' <;> simp [hc, isSeparator]
      rw [← hkept, heq, not_isSeparator_of_spells hsign hspells]

/-- A text is read as a finite number or refused, unless it spells out an infinity or what is no
number, and then it is read as what it spells out. -/
theorem a_decimal_is_finite_unless_it_is_spelled_out (s : String) :
    (∀ x, SpellsOut s.toList x →
      toDecimal.apply (.text s) = pure (.decimal x) ∧ x.isFinite = false) ∧
    ((∀ x, ¬ SpellsOut s.toList x) →
      toDecimal.apply (.text s) = throw (.fault (.malformedDecimal s)) ∨
        ∃ x, toDecimal.apply (.text s) = pure (.decimal x) ∧ x.isFinite = true) := by
  constructor
  · intro x hx
    obtain ⟨hread, hinfinite⟩ := read?_compactDecimal_eq_some_and_not_finite.2 hx
    exact ⟨toDecimal_eq_pure.2 ⟨x, rfl, hread⟩, hinfinite⟩
  · intro hnone
    rcases hread : Decimal.read? (compactDecimal s.toList) with _ | x
    · left
      rw [toDecimal_of_read?, hread]
    · right
      refine ⟨x, toDecimal_eq_pure.2 ⟨x, rfl, hread⟩, ?_⟩
      by_contra hfinite
      exact hnone x (read?_compactDecimal_eq_some_and_not_finite.1 ⟨hread, by simpa using hfinite⟩)

/-- An infinity may be spelled out with blanks, spaces and low lines. -/
theorem a_spaced_infinity_is_spelled_out :
    toDecimal.apply (.text "\t- In_f\n") = pure (.decimal (.infinite true)) ∧
      Decimal.isFinite (.infinite true) = false := by
  have hspells : SpellsOut "\t- In_f\n".toList (.infinite true) :=
    ⟨['-'], "Inf".toList, rfl, by decide, .infinite (by decide)⟩
  exact (a_decimal_is_finite_unless_it_is_spelled_out _).1 _ hspells

theorem what_is_no_number_is_read :
    ¬ ∀ s : String, (∃ f, toDecimal.apply (.text s) = throw (.fault f)) ∨
      ∃ x, toDecimal.apply (.text s) = pure (.decimal x) ∧ x.isFinite = true := by
  intro hall
  have hread : toDecimal.apply (.text "NaN") = pure (.decimal (.undefined false false 0)) :=
    toDecimal_eq_pure.2 ⟨_, rfl, rfl⟩
  rcases hall "NaN" with ⟨f, hf⟩ | ⟨x, hx, hfinite⟩
  · exact throw_ne_pure (hf.symm.trans hread)
  · cases pure_inj (hx.symm.trans hread)
    cases hfinite

end Transform

end QueryBinding
