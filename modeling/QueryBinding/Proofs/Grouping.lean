-- Grouped numbers. Blanks and commas in an integer only group its digits. In a decimal the
-- separator that occurs last is the point, and the other kind only groups. A text that can be
-- read both ways has one value up to the power of ten that its comma stands for.
import Mathlib
import QueryBinding.Proofs.Numerals
import QueryBinding.Proofs.Outcomes

namespace QueryBinding

open Number Text

namespace Number.Decimal

/-- What a number measures. Infinities, and values that are no number, measure nothing. -/
def value? : Decimal → Option ℚ
  | .finite negative coefficient exponent => some (withSign negative coefficient * 10 ^ exponent)
  | _ => none

end Number.Decimal

namespace Transform

/-! ## Integers -/

theorem isGrouping_of_isDigit {c : Char} (h : isDigit c = true) : isGrouping c = false := by
  rw [isGrouping, Bool.or_eq_false_iff, Bool.or_eq_false_iff, beq_eq_false_iff_ne,
    beq_eq_false_iff_ne, beq_eq_false_iff_ne]
  refine ⟨⟨?_, ?_⟩, ?_⟩ <;> rintro rfl <;> exact absurd h (by decide)

theorem of_mem_writeInteger {n : Int} {c : Char} (h : c ∈ writeInteger n) :
    isDigit c = true ∨ c = '-' := by
  cases n with
  | ofNat n => exact .inl (isDigit_of_mem_writeNat h)
  | negSucc n => exact (List.mem_cons.1 h).symm.imp_left isDigit_of_mem_writeNat

/-- However an integer is grouped, nothing but the integer is left. -/
theorem compactInteger_of_padded {n : Int} {spaced cs : List Char}
    (h : Interspersed isGrouping (writeInteger n) spaced) (hcs : Padded spaced cs) :
    compactInteger cs = writeInteger n := by
  refine filter_strip_of_padded h hcs fun c hc => ?_
  rcases of_mem_writeInteger hc with hdigit | rfl
  · exact ⟨isGrouping_of_isDigit hdigit, isBlank_of_isDigit hdigit⟩
  · decide

/-- An integer is read back from its text with blanks and commas put in anywhere and blanks
around it, as long as it does not have more digits than the reader allows; and what is read from
any text is read again from its own plain text. -/
theorem a_grouped_integer_is_read_back :
    (∀ (n : Int) (spaced : List Char) (s : String), (writeNat n.natAbs).length ≤ digitLimit →
      Interspersed isGrouping (writeInteger n) spaced → Padded spaced s.toList →
      toInt.apply (.text s) = pure (.int n)) ∧
    ∀ (s : String) (v : Value), toInt.apply (.text s) = pure v →
      toInt.apply (.text v.plain) = pure v := by
  have hgrouped : ∀ (n : Int) (spaced : List Char) (s : String),
      (writeNat n.natAbs).length ≤ digitLimit → Interspersed isGrouping (writeInteger n) spaced →
      Padded spaced s.toList → toInt.apply (.text s) = pure (.int n) := by
    intro n spaced s hlength h hs
    rw [toInt_eq_pure, compactInteger_of_padded h hs]
    exact ⟨n, rfl, readInteger_writeInteger hlength⟩
  refine ⟨hgrouped, fun s v h => ?_⟩
  obtain ⟨n, rfl, hn⟩ := toInt_eq_pure.1 h
  have hplain : (Value.int n).plain.toList = writeInteger n := String.toList_ofList
  refine hgrouped n (writeInteger n) _ (length_writeNat_of_readInteger hn) (.refl _ _) ?_
  rw [hplain]
  exact .refl _

theorem a_grouped_year_is_read_back :
    toInt.apply (.text "\u00a0-1 2,04\n") = pure (.int (-1204)) ∧
      toInt.apply (.text (Value.int (-1204)).plain) = pure (.int (-1204)) := by
  have hspaced : Interspersed isGrouping (writeInteger (-1204)) "-1 2,04".toList :=
    .keep '-' (.keep '1' (.put rfl (.keep '2' (.put rfl (.keep '0' (.keep '4' .nil))))))
  have hpadded : Padded "-1 2,04".toList "\u00a0-1 2,04\n".toList :=
    ⟨['\u00a0'], ['\n'], rfl, List.all_eq_true.1 rfl, List.all_eq_true.1 rfl⟩
  have hread := a_grouped_integer_is_read_back.1 (-1204) _ _ (by decide) hspaced hpadded
  exact ⟨hread, a_grouped_integer_is_read_back.2 _ _ hread⟩

/-! ## Separators -/

/-- What a decimal text may be spaced with. -/
def isSpacing (c : Char) : Bool := c == ' ' || c == '\u00a0'

def isSeparator (c : Char) : Bool := c == ',' || c == '.'

/-- The two ways to write a decimal: the mark before its fraction, and the mark that groups. -/
def conventions : List (Char × Char) := [(',', '.'), ('.', ',')]

theorem mem_conventions {mark group : Char} : (mark, group) ∈ conventions ↔
    mark = ',' ∧ group = '.' ∨ mark = '.' ∧ group = ',' := by
  simp only [conventions, List.mem_cons, Prod.mk.injEq, List.not_mem_nil, or_false]

/-- The separator that occurs last in a text. -/
def lastSeparator (cs : List Char) : Option Char := (cs.filter isSeparator).getLast?

def withoutSpacing (cs : List Char) : List Char := (Text.strip cs).filter (!isSpacing ·)

/-- A text with both kinds of separators loses the kind that does not occur last. -/
def ungroup (cs : List Char) : List Char :=
  if cs.contains ',' && cs.contains '.' then
    cs.filter (· != if behindLast '.' cs < behindLast ',' cs then ',' else '.')
  else cs

def toPoint (c : Char) : Char := if c == ',' then '.' else c

theorem compactDecimal_eq (cs : List Char) :
    compactDecimal cs = (ungroup (withoutSpacing cs)).map toPoint := by
  have hspacing : (fun c => c != ' ' && c != '\u00a0') = (!isSpacing ·) := by
    funext c
    rw [isSpacing, Bool.not_or]
    rfl
  rw [compactDecimal, hspacing]
  rfl

variable {mark group : Char} {before behind cs : List Char}

theorem behindLast_append (h : mark ∉ behind) :
    behindLast mark (before ++ mark :: behind) = behind.length := by
  have hall : ∀ c ∈ behind.reverse, (c != mark) = true := by
    intro c hc
    rw [bne_iff_ne]
    rintro rfl
    exact h (List.mem_reverse.1 hc)
  rw [behindLast, List.reverse_append, List.reverse_cons, List.append_assoc,
    List.takeWhile_append_of_pos hall]
  simp

theorem lt_behindLast_append (h : group ∉ behind) (hne : mark ≠ group) :
    behind.length < behindLast group (before ++ mark :: behind) := by
  have hall : ∀ c ∈ behind.reverse ++ [mark], (c != group) = true := by
    intro c hc
    rw [bne_iff_ne]
    rintro rfl
    rcases List.mem_append.1 hc with hc | hc
    · exact h (List.mem_reverse.1 hc)
    · exact hne (List.mem_singleton.1 hc).symm
  rw [behindLast, List.reverse_append, List.reverse_cons, List.takeWhile_append_of_pos hall]
  simp only [List.length_append, List.length_reverse, List.length_singleton]
  omega

/-- Behind the last separator there is none of either kind, so the other kind is taken away. -/
theorem ungroup_append (hmarks : (mark, group) ∈ conventions) (hmark : mark ∉ behind)
    (hgroup : group ∉ behind) :
    ungroup (before ++ mark :: behind) = (before ++ mark :: behind).filter (· != group) := by
  have hne : mark ≠ group := by
    rcases mem_conventions.1 hmarks with ⟨rfl, rfl⟩ | ⟨rfl, rfl⟩ <;> decide
  have hlt : behindLast mark (before ++ mark :: behind) <
      behindLast group (before ++ mark :: behind) := by
    rw [behindLast_append hmark]
    exact lt_behindLast_append hgroup hne
  have hmem : mark ∈ before ++ mark :: behind := by simp
  generalize before ++ mark :: behind = cs at hlt hmem
  -- Without a mark that groups nothing is taken away, and there is nothing to take.
  by_cases hin : group ∈ cs
  · have hboth : (cs.contains ',' && cs.contains '.') = true ∧
        (if behindLast '.' cs < behindLast ',' cs then ',' else '.') = group := by
      rcases mem_conventions.1 hmarks with ⟨rfl, rfl⟩ | ⟨rfl, rfl⟩
      · exact ⟨by simp [hmem, hin], if_neg (by omega)⟩
      · exact ⟨by simp [hmem, hin], if_pos hlt⟩
    rw [ungroup, if_pos hboth.1, hboth.2]
  · have hnot : (cs.contains ',' && cs.contains '.') = false := by
      rcases mem_conventions.1 hmarks with ⟨rfl, rfl⟩ | ⟨rfl, rfl⟩ <;> simp [hin]
    rw [ungroup, hnot, if_neg Bool.false_ne_true]
    refine (List.filter_eq_self.2 fun c hc => ?_).symm
    rw [bne_iff_ne]
    rintro rfl
    exact hin hc

theorem toPoint_of_ne {c : Char} (h : c ≠ ',') : toPoint c = c := if_neg (by simpa using h)

theorem map_toPoint_of_notMem (h : ',' ∉ cs) : cs.map toPoint = cs := by
  conv_rhs => rw [← List.map_id cs]
  exact List.map_congr_left fun c hc => toPoint_of_ne fun heq => h (heq ▸ hc)

/-- What comma and point have in common is not changed. -/
theorem comp_toPoint {q : Char → Bool} (h : q '.' = q ',') (c : Char) : (q ∘ toPoint) c = q c := by
  rcases eq_or_ne c ',' with rfl | hc
  · exact h
  · rw [Function.comp_apply, toPoint_of_ne hc]

theorem toPoint_eq_point (c : Char) : (toPoint c == '.') = isSeparator c := by
  rcases eq_or_ne c ',' with rfl | hc
  · decide
  · rw [toPoint_of_ne hc, isSeparator, beq_eq_false_iff_ne.2 hc, Bool.false_or]

/-- Each separator that is left becomes a point. -/
theorem length_points_map_toPoint (cs : List Char) :
    (Decimal.points (cs.map toPoint)).length = (cs.filter isSeparator).length := by
  rw [Decimal.points, List.filter_map, List.length_map]
  congr 1
  exact List.filter_congr fun c _ => toPoint_eq_point c

theorem isSpacing_eq_false {c : Char} (h : isBlank c = false) : isSpacing c = false := by
  rw [isSpacing, Bool.or_eq_false_iff, beq_eq_false_iff_ne, beq_eq_false_iff_ne]
  refine ⟨?_, ?_⟩ <;> rintro rfl <;> exact absurd h (by decide)

theorem isBlank_of_isSpacing {c : Char} (h : isSpacing c = true) : isBlank c = true := by
  by_contra hblank
  rw [isSpacing_eq_false (Bool.not_eq_true _ ▸ hblank)] at h
  cases h

/-- What is no blank is no matter of spacing. -/
theorem filter_withoutSpacing {q : Char → Bool} (hblank : ∀ c, isBlank c = true → q c = false)
    (cs : List Char) : (withoutSpacing cs).filter q = cs.filter q :=
  filter_filter_strip (fun c hc => hblank c (isBlank_of_isSpacing hc)) hblank cs

theorem isBlank_of_isSeparator {c : Char} (h : isSeparator c = true) : isBlank c = false := by
  rw [isSeparator, Bool.or_eq_true, beq_iff_eq, beq_iff_eq] at h
  rcases h with rfl | rfl <;> decide

theorem isSeparator_of_isBlank {c : Char} (h : isBlank c = true) : isSeparator c = false := by
  by_contra hc
  rw [isBlank_of_isSeparator (by simpa using hc)] at h
  cases h

theorem isSeparator_of_isDigit {c : Char} (h : isDigit c = true) : isSeparator c = false := by
  rw [isSeparator, Bool.or_eq_false_iff, beq_eq_false_iff_ne, beq_eq_false_iff_ne]
  refine ⟨?_, ?_⟩ <;> rintro rfl <;> exact absurd h (by decide)

theorem ne_of_isSeparator {c d : Char} (hc : isSeparator c = false) (hd : isSeparator d = true) :
    c ≠ d := by
  rintro rfl
  rw [hc] at hd
  cases hd

theorem isSeparator_of_conventions (h : (mark, group) ∈ conventions) :
    isSeparator mark = true ∧ isSeparator group = true := by
  rcases mem_conventions.1 h with ⟨rfl, rfl⟩ | ⟨rfl, rfl⟩ <;> decide

/-- Of the separators all but the one that groups are the mark. -/
theorem isSeparator_and_ne (h : (mark, group) ∈ conventions) (c : Char) :
    (isSeparator c && c != group) = (c == mark) := by
  rcases mem_conventions.1 h with ⟨rfl, rfl⟩ | ⟨rfl, rfl⟩
  · rcases eq_or_ne c '.' with rfl | hc
    · decide
    · rw [isSeparator, beq_eq_false_iff_ne.2 hc, Bool.or_false, bne_iff_ne.2 hc, Bool.and_true]
  · rcases eq_or_ne c ',' with rfl | hc
    · decide
    · rw [isSeparator, beq_eq_false_iff_ne.2 hc, Bool.false_or, bne_iff_ne.2 hc, Bool.and_true]

/-- The last separator, with what stands around it. -/
theorem exists_of_lastSeparator (h : lastSeparator cs = some mark) :
    ∃ before behind group, cs = before ++ mark :: behind ∧ (mark, group) ∈ conventions ∧
      mark ∉ behind ∧ group ∉ behind := by
  obtain ⟨firsts, hseparators⟩ := List.getLast?_eq_some_iff.1 h
  obtain ⟨front, back, rfl, -, hback⟩ := List.filter_eq_append_iff.1 hseparators
  obtain ⟨between, behind, rfl, -, hmark, hnone⟩ := List.filter_eq_cons_iff.1 hback
  have hbehind : ∀ c, isSeparator c = true → c ∉ behind := by
    intro c hc hmem
    exact List.filter_eq_nil_iff.1 hnone c hmem hc
  rw [isSeparator, Bool.or_eq_true, beq_iff_eq, beq_iff_eq] at hmark
  rcases hmark with rfl | rfl
  · exact ⟨front ++ between, behind, '.', by rw [List.append_assoc], by decide,
      hbehind _ rfl, hbehind _ rfl⟩
  · exact ⟨front ++ between, behind, ',', by rw [List.append_assoc], by decide,
      hbehind _ rfl, hbehind _ rfl⟩

/-! ## Decimals -/

/-- Of the separators in a text those of the kind that occurs last are left. -/
theorem filter_ungroup (hmark : lastSeparator cs = some mark) :
    (ungroup (withoutSpacing cs)).filter isSeparator = cs.filter (· == mark) := by
  have hseparators : (withoutSpacing cs).filter isSeparator = cs.filter isSeparator :=
    filter_withoutSpacing (fun c => isSeparator_of_isBlank) cs
  have hlast : lastSeparator (withoutSpacing cs) = some mark := by
    rw [lastSeparator, hseparators]
    exact hmark
  obtain ⟨before, behind, group, hcompact, hmarks, hbehind, hbehind'⟩ :=
    exists_of_lastSeparator hlast
  have hungroup : ungroup (withoutSpacing cs) = (withoutSpacing cs).filter (· != group) := by
    rw [hcompact]
    exact ungroup_append hmarks hbehind hbehind'
  rw [hungroup, List.filter_comm, hseparators, List.filter_filter]
  exact List.filter_congr fun c _ => by rw [Bool.and_comm, isSeparator_and_ne hmarks]

/-- In what is read as a decimal the separator that occurs last occurs only once. -/
theorem count_lastSeparator {x : Decimal} (h : Decimal.read? (compactDecimal cs) = some x)
    (hmark : lastSeparator cs = some mark) : cs.count mark ≤ 1 := by
  have hpoints := Decimal.length_points_of_read? h
  rw [compactDecimal_eq, length_points_map_toPoint, filter_ungroup hmark] at hpoints
  rwa [List.count_eq_length_filter]

/-- The marks that group are taken away, the one mark of the other kind is kept. -/
theorem ungroup_grouped {front whole grouped fraction : List Char}
    (hmarks : (mark, group) ∈ conventions) (hfront : ∀ c ∈ front, isSeparator c = false)
    (hwhole : ∀ c ∈ whole, isSeparator c = false)
    (hfraction : ∀ c ∈ fraction, isSeparator c = false)
    (hgrouped : Interspersed (· == group) whole grouped) :
    ungroup (front ++ (grouped ++ mark :: fraction)) = front ++ (whole ++ mark :: fraction) := by
  obtain ⟨hmark, hgroup⟩ := isSeparator_of_conventions hmarks
  have hkept : ∀ {ds : List Char}, (∀ c ∈ ds, isSeparator c = false) →
      ds.filter (· != group) = ds := fun hds =>
    List.filter_eq_self.2 fun c hc => bne_iff_ne.2 (ne_of_isSeparator (hds c hc) hgroup)
  have htaken : grouped.filter (· != group) = whole :=
    hgrouped.filter_eq fun c hc => beq_eq_false_iff_ne.2 (ne_of_isSeparator (hwhole c hc) hgroup)
  have hmark' : (mark != group) = true := by
    have hself := isSeparator_and_ne hmarks mark
    rwa [hmark, Bool.true_and, beq_self_eq_true] at hself
  calc ungroup (front ++ (grouped ++ mark :: fraction))
      = ungroup ((front ++ grouped) ++ mark :: fraction) := by rw [List.append_assoc]
    _ = ((front ++ grouped) ++ mark :: fraction).filter (· != group) :=
        ungroup_append hmarks (fun h => ne_of_isSeparator (hfraction _ h) hmark rfl)
          fun h => ne_of_isSeparator (hfraction _ h) hgroup rfl
    _ = front ++ (whole ++ mark :: fraction) := by
        rw [List.filter_append, List.filter_append, List.filter_cons, if_pos hmark', htaken,
          hkept hfront, hkept hfraction, List.append_assoc]

/-- Digits with one mark, spaced and grouped in any way, are left with a point for the mark. -/
theorem compactDecimal_of_padded {sign whole grouped fraction spaced : List Char}
    (hsign : sign ∈ [[], ['+'], ['-']]) (hmarks : (mark, group) ∈ conventions)
    (hwhole : ∀ c ∈ whole, isDigit c = true) (hfraction : ∀ c ∈ fraction, isDigit c = true)
    (hgrouped : Interspersed (· == group) whole grouped)
    (hspaced : Interspersed isSpacing (sign ++ (grouped ++ mark :: fraction)) spaced)
    (hcs : Padded spaced cs) : compactDecimal cs = sign ++ (whole ++ '.' :: fraction) := by
  obtain ⟨hmark, hgroup⟩ := isSeparator_of_conventions hmarks
  have hsign' : ∀ c ∈ sign, isSeparator c = false ∧ isBlank c = false := by
    intro c hc
    rcases Decimal.of_mem_sign hsign hc with rfl | rfl <;> decide
  have hcore : ∀ c ∈ sign ++ (grouped ++ mark :: fraction), isBlank c = false := by
    intro c hc
    rw [List.mem_append, List.mem_append, List.mem_cons] at hc
    rcases hc with hc | hc | rfl | hc
    · exact (hsign' c hc).2
    · rcases hgrouped.mem hc with hc | hc
      · exact isBlank_of_isDigit (hwhole c hc)
      · exact isBlank_of_isSeparator (beq_iff_eq.1 hc ▸ hgroup)
    · exact isBlank_of_isSeparator hmark
    · exact isBlank_of_isDigit (hfraction c hc)
  have hcompact : withoutSpacing cs = sign ++ (grouped ++ mark :: fraction) :=
    filter_strip_of_padded hspaced hcs fun c hc =>
      ⟨isSpacing_eq_false (hcore c hc), hcore c hc⟩
  have hpoint : toPoint mark = '.' := by
    rw [← beq_iff_eq, toPoint_eq_point]
    exact hmark
  have hkept : ∀ {ds : List Char}, (∀ c ∈ ds, isSeparator c = false) → ds.map toPoint = ds :=
    fun hds => map_toPoint_of_notMem fun h => ne_of_isSeparator (hds _ h) rfl rfl
  have hwhole' := fun c hc => isSeparator_of_isDigit (hwhole c hc)
  have hfraction' := fun c hc => isSeparator_of_isDigit (hfraction c hc)
  have hsign'' := fun c hc => (hsign' c hc).1
  rw [compactDecimal_eq, hcompact, ungroup_grouped hmarks hsign'' hwhole' hfraction' hgrouped,
    List.map_append, List.map_append, List.map_cons, hpoint, hkept hsign'', hkept hwhole',
    hkept hfraction']

/-- A decimal is read exactly from its text, whichever mark stands before its fraction, with the
other mark put in among the digits before it, spaces anywhere, and blanks around; the only limits
are those on the digits that a decimal can hold. And of a text with both kinds of marks that is
read, the kind that occurs last occurs once. -/
theorem a_grouped_decimal_is_read_exactly :
    (∀ (sign whole grouped fraction spaced : List Char) (mark group : Char) (s : String),
      sign ∈ [[], ['+'], ['-']] → (mark, group) ∈ conventions → whole ≠ [] →
      (∀ c ∈ whole ++ fraction, c.isDigit = true) → Interspersed (· == group) whole grouped →
      Interspersed isSpacing (sign ++ (grouped ++ mark :: fraction)) spaced →
      Padded spaced s.toList →
      toDecimal.apply (.text s) =
        if fraction.length ≤ Decimal.maxDigits ∧
            (writeNat (Nat.ofDigitChars 10 (whole ++ fraction) 0)).length ≤ Decimal.maxDigits then
          pure (.decimal (.finite (sign == ['-']) (Nat.ofDigitChars 10 (whole ++ fraction) 0)
            (-fraction.length)))
        else throw (.fault (.malformedDecimal s))) ∧
    ∀ (s : String) (v : Value), ',' ∈ s.toList → '.' ∈ s.toList →
      toDecimal.apply (.text s) = pure v →
      ∃ mark, lastSeparator s.toList = some mark ∧ s.toList.count mark = 1 := by
  constructor
  · intro sign whole grouped fraction spaced mark group s hsign hmarks hne hascii hgrouped hspaced
      hs
    have hwhole : ∀ c ∈ whole, isDigit c = true :=
      fun c hc => isDigit_of_ascii (hascii c (List.mem_append_left _ hc))
    have hfraction : ∀ c ∈ fraction, isDigit c = true :=
      fun c hc => isDigit_of_ascii (hascii c (List.mem_append_right _ hc))
    rw [toDecimal_of_read?, compactDecimal_of_padded hsign hmarks hwhole hfraction hgrouped hspaced
      hs, Decimal.read?_of_digits hsign hwhole hfraction hne, ofDigits_digitValues_of_ascii hascii]
    by_cases hfits : fraction.length ≤ Decimal.maxDigits ∧
      (writeNat (Nat.ofDigitChars 10 (whole ++ fraction) 0)).length ≤ Decimal.maxDigits
    · rw [if_pos hfits, if_pos hfits]
    · rw [if_neg hfits, if_neg hfits]
  · intro s v hcomma hpoint h
    obtain ⟨x, rfl, hx⟩ := toDecimal_eq_pure.1 h
    have hmem : ',' ∈ s.toList.filter isSeparator := List.mem_filter.2 ⟨hcomma, rfl⟩
    obtain ⟨mark, hmark⟩ := Option.ne_none_iff_exists'.1
      (mt List.getLast?_eq_none_iff.1 (List.ne_nil_of_mem hmem))
    have hin : mark ∈ s.toList :=
      (List.mem_filter.1 (List.mem_of_getLast? hmark)).1
    exact ⟨mark, hmark, Nat.le_antisymm (count_lastSeparator hx hmark) (List.count_pos_iff.2 hin)⟩

theorem a_grouped_price_is_read_exactly :
    toDecimal.apply (.text "\t-1.2 34,50\n") = pure (.decimal (.finite true 123450 (-2))) ∧
      ∃ mark, lastSeparator "\t-1.2 34,50\n".toList = some mark ∧
        "\t-1.2 34,50\n".toList.count mark = 1 := by
  have hgrouped : Interspersed (· == '.') "1234".toList "1.234".toList :=
    .keep '1' (.put rfl (.keep '2' (.keep '3' (.keep '4' .nil))))
  have hspaced : Interspersed isSpacing "-1.234,50".toList "-1.2 34,50".toList :=
    .keep '-' (.keep '1' (.keep '.' (.keep '2' (.put rfl (.refl _ "34,50".toList)))))
  have hpadded : Padded "-1.2 34,50".toList "\t-1.2 34,50\n".toList :=
    ⟨['\t'], ['\n'], rfl, List.all_eq_true.1 rfl, List.all_eq_true.1 rfl⟩
  have hread := a_grouped_decimal_is_read_exactly.1 ['-'] "1234".toList "1.234".toList "50".toList _
    ',' '.' _ (by decide) (by decide) (by decide) (List.all_eq_true.1 rfl) hgrouped hspaced hpadded
  have hread' : toDecimal.apply (.text "\t-1.2 34,50\n") =
      pure (.decimal (.finite true 123450 (-2))) := by
    rw [hread]
    rfl
  exact ⟨hread', a_grouped_decimal_is_read_exactly.2 _ _ (by decide) (by decide) hread'⟩

/-! ## Both readings -/

/-- The number of digits that stand behind the first comma: none without a comma. -/
def digitsBehindComma (cs : List Char) : Nat := ((cs.dropWhile (· != ',')).filter isDigit).length

theorem digitsBehindComma_append (h : ',' ∉ before) :
    digitsBehindComma (before ++ ',' :: behind) = (behind.filter isDigit).length := by
  have hall : ∀ c ∈ before, (c != ',') = true := fun c hc => bne_iff_ne.2 fun heq => h (heq ▸ hc)
  rw [digitsBehindComma, List.dropWhile_append_of_pos hall]
  rfl

theorem digitsBehindComma_of_notMem (h : ',' ∉ cs) : digitsBehindComma cs = 0 := by
  have hall : ∀ c ∈ cs, (c != ',') = true := fun c hc => bne_iff_ne.2 fun heq => h (heq ▸ hc)
  rw [digitsBehindComma, List.dropWhile_eq_nil_iff.2 hall]
  rfl

/-- What a text of an integer may be made of. -/
theorem of_mem_of_readInteger {n : Int} (h : readInteger (compactInteger cs) = .ok n) {c : Char}
    (hc : c ∈ cs) : isBlank c = true ∨ isDigit c = true ∨ c ∈ ['+', '-', '_'] ∨ c = ',' := by
  rcases hblank : isBlank c with _ | _
  · right
    rcases hgrouping : isGrouping c with _ | _
    · rcases Number.of_mem_of_readInteger h (mem_filter_strip hc hgrouping hblank) with hb | hd | hm
      · rw [hblank] at hb
        cases hb
      · exact .inl hd
      · exact .inr (.inl hm)
    · change (isSpacing c || c == ',') = true at hgrouping
      rw [isSpacing_eq_false hblank, Bool.false_or, beq_iff_eq] at hgrouping
      exact .inr (.inr hgrouping)
  · exact .inl rfl

theorem point_notMem_of_readInteger {n : Int} (h : readInteger (compactInteger cs) = .ok n) :
    '.' ∉ cs := fun hc => absurd (of_mem_of_readInteger h hc) (by decide)

theorem filter_compactInteger (cs : List Char) :
    (compactInteger cs).filter significant = cs.filter significant := by
  refine filter_filter_strip (fun c hc => ?_) (fun c => significant_of_isBlank) cs
  rw [isGrouping, Bool.or_eq_true, Bool.or_eq_true, beq_iff_eq, beq_iff_eq, beq_iff_eq] at hc
  rcases hc with (rfl | rfl) | rfl <;> decide

/-- Without a point no separator is taken away. -/
theorem compactDecimal_of_notMem (h : '.' ∉ cs) :
    compactDecimal cs = (withoutSpacing cs).map toPoint := by
  have hnot : '.' ∉ withoutSpacing cs := fun hc => h (mem_of_mem_trim (List.mem_filter.1 hc).1)
  rw [compactDecimal_eq, ungroup, if_neg (by simp [hnot])]

theorem filter_numeric_compactDecimal (h : '.' ∉ cs) :
    (compactDecimal cs).filter Decimal.numeric = (cs.map toPoint).filter Decimal.numeric := by
  have hblank : ∀ c, isBlank c = true → (Decimal.numeric ∘ toPoint) c = false := by
    intro c hc
    have hcomma : c ≠ ',' := by
      rintro rfl
      exact absurd hc (by decide)
    rw [Function.comp_apply, toPoint_of_ne hcomma]
    exact Decimal.numeric_of_isBlank hc
  rw [compactDecimal_of_notMem h, List.filter_map, filter_withoutSpacing hblank, List.filter_map]

theorem filter_significant_map_toPoint (cs : List Char) :
    (cs.map toPoint).filter significant = cs.filter significant := by
  have hcomma : ',' ∉ cs.filter significant :=
    fun hc => absurd (List.mem_filter.1 hc).2 (by decide)
  rw [List.filter_map, List.filter_congr fun c _ => comp_toPoint (by decide) c,
    map_toPoint_of_notMem hcomma]

/-- What a text of an integer is made of when it is to be read as a decimal. -/
theorem of_mem_compactDecimal {n : Int} (hn : readInteger (compactInteger cs) = .ok n) {c : Char}
    (hc : c ∈ compactDecimal cs) :
    isBlank c = true ∨ isDigit c = true ∨ c ∈ ['+', '-', '_', '.'] := by
  rw [compactDecimal_of_notMem (point_notMem_of_readInteger hn)] at hc
  obtain ⟨d, hd, rfl⟩ := List.mem_map.1 hc
  have hmem : d ∈ cs := mem_of_mem_trim (List.mem_filter.1 hd).1
  rcases eq_or_ne d ',' with rfl | hne
  · exact .inr (.inr (by decide))
  · rw [toPoint_of_ne hne]
    rcases of_mem_of_readInteger hn hmem with hblank | hdigit | hmark | hcomma
    · exact .inl hblank
    · exact .inr (.inl hdigit)
    · exact .inr (.inr (List.mem_append_left ['.'] hmark))
    · exact absurd hcomma hne

/-- Behind the comma stand the digits of the fraction. -/
theorem digitsBehindComma_eq {front point fraction : List Char} (hcs : '.' ∉ cs)
    (h : (cs.map toPoint).filter Decimal.numeric = front ++ (point ++ fraction))
    (hfront : '.' ∉ front) (hfraction : ∀ c ∈ fraction, isDigit c = true)
    (hpoint : point = ['.'] ∨ point = [] ∧ fraction = []) :
    digitsBehindComma cs = fraction.length := by
  have hcomma : ',' ∈ cs ↔ '.' ∈ front ++ (point ++ fraction) := by
    rw [← h, List.mem_filter, List.mem_map]
    constructor
    · exact fun hc => ⟨⟨',', hc, rfl⟩, by decide⟩
    · rintro ⟨⟨c, hc, heq⟩, -⟩
      by_contra hnot
      rw [toPoint_of_ne fun h' => hnot (h' ▸ hc)] at heq
      exact hcs (heq ▸ hc)
  have hpoint' : '.' ∉ fraction := fun hc => absurd (hfraction _ hc) (by decide)
  rcases hpoint with rfl | ⟨rfl, rfl⟩
  · -- the only point comes from the first comma, so both texts part at the same place
    obtain ⟨before, behind, rfl, hbefore⟩ := List.eq_append_cons_of_mem (hcomma.2 (by simp))
    rw [List.map_append, List.map_cons, List.filter_append,
      List.filter_cons_of_pos (by decide)] at h
    obtain ⟨-, -, hbehind⟩ := (List.append_cons_inj_of_notMem hfront hpoint').1 h.symm
    have hdigits : (behind.map toPoint).filter isDigit = fraction := by
      rw [← List.filter_congr fun c _ => Decimal.isDigit_and_numeric c, ← List.filter_filter,
        ← hbehind, List.filter_eq_self.2 hfraction]
    rw [digitsBehindComma_append hbefore, ← hdigits, List.filter_map, List.length_map,
      List.filter_congr fun c _ => comp_toPoint (by decide) c]
  · rw [List.append_nil, List.append_nil] at hcomma
    exact digitsBehindComma_of_notMem fun hc => hfront (hcomma.1 hc)

/-- Two readings of one text have the same digits, and the same sign. -/
theorem value_of_both {n : Int} {x : Decimal} (hn : readInteger (compactInteger cs) = .ok n)
    (hx : Decimal.read? (compactDecimal cs) = some x) :
    x.value? = some ((n : ℚ) / 10 ^ digitsBehindComma cs) := by
  have hcs := point_notMem_of_readInteger hn
  obtain ⟨negative, whole, point, fraction, hnumeric, hpoint, hwhole, hfraction, rfl⟩ :=
    Decimal.numeric_of_read? hx fun c => of_mem_compactDecimal hn
  obtain ⟨sign, digits, hsignificant, hdigits, rfl, -⟩ := significant_of_readInteger hn
  have hall : ∀ c ∈ whole ++ fraction, isDigit c = true :=
    fun c hc => (List.mem_append.1 hc).elim (hwhole c) (hfraction c)
  have hfront : '.' ∉ Decimal.signText negative ++ whole := by
    intro hc
    rcases List.mem_append.1 hc with hc | hc
    · cases negative <;> exact absurd hc (by decide)
    · exact absurd (hwhole _ hc) (by decide)
  rw [filter_numeric_compactDecimal hcs, ← List.append_assoc] at hnumeric
  have hbehind := digitsBehindComma_eq hcs hnumeric hfront hfraction hpoint
  have hsame : Decimal.signText sign ++ digits =
      Decimal.signText negative ++ (whole ++ fraction) := by
    have hkept : ∀ {ds : List Char}, (∀ c ∈ ds, isDigit c = true) → ds.filter significant = ds :=
      fun hds => List.filter_eq_self.2 fun c hc => by rw [significant, hds c hc, Bool.true_or]
    have hsign : (Decimal.signText negative).filter significant = Decimal.signText negative := by
      cases negative <;> decide
    have hpoint' : point.filter significant = [] := by
      rcases hpoint with rfl | ⟨rfl, -⟩ <;> decide
    calc Decimal.signText sign ++ digits
        = (cs.map toPoint).filter significant := by
          rw [filter_significant_map_toPoint, ← filter_compactInteger, hsignificant]
      _ = ((cs.map toPoint).filter Decimal.numeric).filter significant := by
          rw [List.filter_filter]
          exact List.filter_congr fun c _ => (Decimal.significant_and_numeric c).symm
      _ = Decimal.signText negative ++ (whole ++ fraction) := by
          rw [hnumeric, List.filter_append, List.filter_append, List.filter_append, hsign, hpoint',
            hkept hwhole, hkept hfraction, List.nil_append, List.append_assoc]
  obtain ⟨rfl, rfl⟩ := Decimal.signText_append_inj hdigits hall hsame
  rw [Decimal.value?, hbehind, zpow_neg, zpow_natCast, div_eq_mul_inv]

/-- What is read both ways has no more than one comma. -/
theorem count_comma_of_both {n : Int} {x : Decimal} (hn : readInteger (compactInteger cs) = .ok n)
    (hx : Decimal.read? (compactDecimal cs) = some x) : cs.count ',' ≤ 1 := by
  have hcs := point_notMem_of_readInteger hn
  have hcommas : (withoutSpacing cs).filter isSeparator = cs.filter (· == ',') := by
    rw [filter_withoutSpacing fun c => isSeparator_of_isBlank]
    apply List.filter_congr
    intro c hc
    have hne : c ≠ '.' := fun heq => hcs (heq ▸ hc)
    rw [isSeparator, beq_eq_false_iff_ne.2 hne, Bool.or_false]
  have hpoints := Decimal.length_points_of_read? hx
  rw [compactDecimal_of_notMem hcs, length_points_map_toPoint, hcommas] at hpoints
  rwa [List.count_eq_length_filter]

/-- Without a comma both transforms read the same text. -/
theorem compactDecimal_of_readInteger {n : Int} (hn : readInteger (compactInteger cs) = .ok n)
    (hcomma : ',' ∉ cs) : compactDecimal cs = compactInteger cs := by
  have hnot : ',' ∉ withoutSpacing cs :=
    fun hc => hcomma (mem_of_mem_trim (List.mem_filter.1 hc).1)
  rw [compactDecimal_of_notMem (point_notMem_of_readInteger hn), map_toPoint_of_notMem hnot]
  apply List.filter_congr
  intro c hc
  have hne : c ≠ ',' := fun heq => hcomma (heq ▸ mem_of_mem_trim hc)
  rw [isGrouping, beq_eq_false_iff_ne.2 hne, Bool.or_false]
  rfl

/-- What both transforms accept has at most one comma and no point, and the two values differ by
the power of ten that the comma stands for; and without a comma, whatever is an integer is a
decimal. -/
theorem the_comma_scales_what_is_read (s : String) (v : Value)
    (h : toInt.apply (.text s) = pure v) : ∃ n, v = .int n ∧
    (∀ w, toDecimal.apply (.text s) = pure w → ∃ x, w = .decimal x ∧ s.toList.count ',' ≤ 1 ∧
      '.' ∉ s.toList ∧ x.value? = some ((n : ℚ) / 10 ^ digitsBehindComma s.toList)) ∧
    (',' ∉ s.toList → ∃ x, toDecimal.apply (.text s) = pure (.decimal x) ∧
      x.value? = some (n : ℚ)) := by
  obtain ⟨n, rfl, hn⟩ := toInt_eq_pure.1 h
  refine ⟨n, rfl, fun w hw => ?_, fun hcomma => ?_⟩
  · obtain ⟨x, rfl, hx⟩ := toDecimal_eq_pure.1 hw
    exact ⟨x, rfl, count_comma_of_both hn hx, point_notMem_of_readInteger hn, value_of_both hn hx⟩
  · obtain ⟨x, hx⟩ := Decimal.exists_of_readInteger_eq_ok hn
    rw [← compactDecimal_of_readInteger hn hcomma] at hx
    have hnone : digitsBehindComma s.toList = 0 := digitsBehindComma_of_notMem hcomma
    refine ⟨x, toDecimal_eq_pure.2 ⟨x, rfl, hx⟩, ?_⟩
    rw [value_of_both hn hx, hnone, pow_zero, div_one]

theorem a_comma_before_one_digit_is_a_tenth :
    toInt.apply (.text "1 2,5") = pure (.int 125) ∧
      toDecimal.apply (.text "1 2,5") = pure (.decimal (.finite false 125 (-1))) ∧
      Decimal.value? (.finite false 125 (-1)) = some (125 / 10 ^ 1) := by
  have hint : toInt.apply (.text "1 2,5") = pure (.int 125) := toInt_eq_pure.2 ⟨125, rfl, rfl⟩
  have hdecimal : toDecimal.apply (.text "1 2,5") = pure (.decimal (.finite false 125 (-1))) :=
    toDecimal_eq_pure.2 ⟨_, rfl, rfl⟩
  refine ⟨hint, hdecimal, ?_⟩
  obtain ⟨n, hn, hboth, -⟩ := the_comma_scales_what_is_read _ _ hint
  obtain ⟨x, hx, -, -, hvalue⟩ := hboth _ hdecimal
  cases hn
  cases hx
  exact hvalue

end Transform

end QueryBinding
