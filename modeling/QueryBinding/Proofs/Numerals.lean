-- Integers and decimals as text. What tells the value of a numeral is its digits, a minus
-- and a point; all else that may stand in it is passed over. Reading an integer gives back
-- what was written, and every text that is read as an integer is read as a decimal too.
import QueryBinding.Number.Decimal
import QueryBinding.Proofs.Blanks

namespace QueryBinding

namespace Text

/-! ## Digits -/

theorem digit?_of_ascii {c : Char} (h : c.isDigit = true) : digit? c = some (c.toNat - 48) := by
  have hle : c.toNat ≤ 57 := by
    simp only [Char.isDigit, Bool.and_eq_true, decide_eq_true_eq] at h
    exact h.2
  rw [digit?, if_pos (by omega), asciiDigit?, if_pos h]
  rfl

theorem isDigit_of_ascii {c : Char} (h : c.isDigit = true) : isDigit c = true := by
  rw [isDigit, digit?_of_ascii h]
  rfl

/-- The blanks of other scripts. -/
def foreignBlanks : List Nat :=
  [0x85, 0xA0, 0x1680, 0x2000, 0x2001, 0x2002, 0x2003, 0x2004, 0x2005, 0x2006, 0x2007, 0x2008,
    0x2009, 0x200A, 0x2028, 0x2029, 0x202F, 0x205F, 0x3000]

theorem isDigit_of_isBlank {c : Char} (h : isBlank c = true) : isDigit c = false := by
  by_cases hlt : c.toNat < 128
  · have hle : c.toNat ≤ 32 := by
      simp only [isBlank, Bool.or_eq_true, Bool.and_eq_true, decide_eq_true_eq, beq_iff_eq] at h
      omega
    have hno : c.isDigit = false := by
      rw [Char.isDigit, Bool.and_eq_false_iff]
      left
      rw [decide_eq_false_iff_not]
      intro hge
      have hge' : 48 ≤ c.toNat := hge
      omega
    rw [isDigit, digit?, if_pos hlt, asciiDigit?, hno]
    rfl
  · have hmem : c.toNat ∈ foreignBlanks := by
      simp only [isBlank, Bool.or_eq_true, Bool.and_eq_true, decide_eq_true_eq, beq_iff_eq] at h
      simp only [foreignBlanks, List.mem_cons, List.not_mem_nil, or_false]
      omega
    have hall : ∀ n ∈ foreignBlanks, ∀ z ∈ zeros.toList, ¬ (z ≤ n ∧ n < z + 10) := by decide
    have hfind : zeros.find? (fun z => z ≤ c.toNat && c.toNat < z + 10) = none := by
      rw [Array.find?_eq_none]
      intro z hz
      simpa using hall _ hmem z (Array.mem_toList_iff.2 hz)
    rw [isDigit, digit?, if_neg hlt, hfind]
    rfl

theorem isBlank_of_isDigit {c : Char} (h : isDigit c = true) : isBlank c = false := by
  by_contra hblank
  rw [Bool.not_eq_false] at hblank
  rw [isDigit_of_isBlank hblank] at h
  cases h

theorem isDigit_of_isAlpha {c : Char} (h : c.isAlpha = true) : isDigit c = false := by
  simp only [Char.isAlpha, Char.isUpper, Char.isLower, Bool.or_eq_true, Bool.and_eq_true,
    decide_eq_true_eq, UInt32.le_iff_toNat_le, ge_iff_le] at h
  change 65 ≤ c.toNat ∧ c.toNat ≤ 90 ∨ 97 ≤ c.toNat ∧ c.toNat ≤ 122 at h
  have hdigit : c.isDigit = false := by
    rw [Bool.eq_false_iff, ne_eq, Char.isDigit_iff_toNat]
    change ¬ (48 ≤ c.toNat ∧ c.toNat ≤ 57)
    omega
  rw [isDigit, digit?, if_pos (by omega), asciiDigit?, hdigit]
  rfl

/-- Digits have no other lower case, and are the lower case of nothing else. -/
theorem toLower_of_isDigit {c : Char} (h : isDigit c = true ∨ isDigit c.toLower = true) :
    c.toLower = c := by
  by_cases hupper : c.isUpper = true
  · have hletter : c.isAlpha = true := by simp [Char.isAlpha, hupper]
    simp [isDigit_of_isAlpha hletter, isDigit_of_isAlpha, hletter] at h
  · exact Char.toLower_eq_of_not_isUpper hupper

theorem low_of_isDigit {c : Char} (h : isDigit c = true) : (c != '_') = true := by
  rw [bne_iff_ne]
  rintro rfl
  exact absurd h (by decide)

/-- The values of the digits in a text. -/
def digitValues (cs : List Char) : List Nat := cs.filterMap digit?

theorem digitValues_cons_of_some {c : Char} {d : Nat} (h : digit? c = some d) (cs : List Char) :
    digitValues (c :: cs) = d :: digitValues cs := List.filterMap_cons_some h

theorem digitValues_cons_of_none {c : Char} (h : digit? c = none) (cs : List Char) :
    digitValues (c :: cs) = digitValues cs := List.filterMap_cons_none h

theorem digitValues_append (cs ds : List Char) :
    digitValues (cs ++ ds) = digitValues cs ++ digitValues ds := List.filterMap_append

theorem digitValues_filter (cs : List Char) :
    digitValues (cs.filter isDigit) = digitValues cs := by
  rw [digitValues, List.filterMap_filter]
  apply List.filterMap_congr
  intro c _
  rcases h : digit? c with _ | d
  · simp
  · rw [isDigit, h]
    rfl

theorem length_digitValues {cs : List Char} (h : ∀ c ∈ cs, isDigit c = true) :
    (digitValues cs).length = cs.length := by
  rw [digitValues, List.length_filterMap_eq_countP]
  exact List.countP_eq_length.2 h

theorem digitValues_ne_nil {c : Char} (h : isDigit c = true) (cs : List Char) :
    digitValues (c :: cs) ≠ [] := by
  obtain ⟨d, hd⟩ := Option.isSome_iff_exists.1 h
  rw [digitValues_cons_of_some hd]
  exact List.cons_ne_nil d _

theorem ofDigits_concat (ds : List Nat) (d : Nat) :
    ofDigits (ds ++ [d]) = 10 * ofDigits ds + d := by
  rw [ofDigits, List.foldl_append]
  rfl

theorem ofDigits_lt {ds : List Nat} (h : ∀ d ∈ ds, d < 10) : ofDigits ds < 10 ^ ds.length := by
  induction ds using List.reverseRecOn with
  | nil => decide
  | append_singleton ds d ih =>
    have hd : d < 10 := h d (by simp)
    have hds : ofDigits ds < 10 ^ ds.length := ih fun d hd => h d (by simp [hd])
    rw [ofDigits_concat, List.length_append, List.length_singleton, pow_succ]
    omega

theorem ofDigits_digitValues_lt (cs : List Char) :
    ofDigits (digitValues cs) < 10 ^ (digitValues cs).length := by
  apply ofDigits_lt
  intro d hd
  obtain ⟨c, -, hc⟩ := List.mem_filterMap.1 hd
  exact digit?_lt hc

/-- ASCII digits are read as everywhere else. -/
theorem ofDigits_digitValues_of_ascii {cs : List Char} (h : ∀ c ∈ cs, c.isDigit = true) :
    ofDigits (digitValues cs) = Nat.ofDigitChars 10 cs 0 := by
  have hread : ∀ (start : Nat), (∀ c ∈ cs, c.isDigit = true) →
      (digitValues cs).foldl (fun n d => 10 * n + d) start = Nat.ofDigitChars 10 cs start := by
    induction cs with
    | nil => intro start _; rfl
    | cons c cs ih =>
      have hcs : ∀ d ∈ cs, d.isDigit = true := fun d hd => h d (List.mem_cons_of_mem _ hd)
      intro start _
      rw [digitValues_cons_of_some (digit?_of_ascii (h c List.mem_cons_self)),
        Nat.ofDigitChars_cons]
      exact ih hcs _ hcs
  exact hread 0 h

/-- The digits that are written for a number are the digits of the number. -/
theorem ofDigits_digitValues_toDigits (n : Nat) :
    ofDigits (digitValues (Nat.toDigits 10 n)) = n := by
  rw [ofDigits_digitValues_of_ascii fun c hc =>
    Nat.isDigit_of_mem_toDigits (by decide) (by decide) hc,
    Nat.ofDigitChars_toDigits (by decide) (by decide)]

end Text

namespace Number

open Text

/-! ## Signs -/

theorem eq_of_signOf {cs body : List Char} {negative : Bool} (h : signOf cs = (negative, body)) :
    cs = '-' :: body ∧ negative = true ∨ cs = '+' :: body ∧ negative = false ∨
      cs = body ∧ negative = false := by
  unfold signOf at h
  split at h <;> cases h <;> simp

/-- What has no sign in front is not taken for one. -/
theorem signOf_of_digit {c : Char} (hc : isDigit c = true) (cs : List Char) :
    signOf (c :: cs) = (false, c :: cs) := by
  unfold signOf
  split
  · rename_i h
    cases h
    exact absurd hc (by decide)
  · rename_i h
    cases h
    exact absurd hc (by decide)
  · rfl

/-! ## Integers -/

/-- What of an integer tells its value. -/
def significant (c : Char) : Bool := isDigit c || c == '-'

/-- What a run of digits has read: digits and low lines, and a digit first where one was needed. -/
theorem digitRun_eq_some {needed : Bool} {cs rest : List Char} {ds : List Nat}
    (h : digitRun needed cs = some (ds, rest)) : ∃ run, cs = run ++ rest ∧ ds = digitValues run ∧
      (∀ c ∈ run, isDigit c = true ∨ c = '_') ∧
      (needed = true → ∃ c run', run = c :: run' ∧ isDigit c = true) := by
  induction cs generalizing needed ds with
  | nil =>
    rw [digitRun] at h
    split at h
    · cases h
    · rename_i hneeded
      cases h
      exact ⟨[], rfl, rfl, by simp, fun hn => absurd hn hneeded⟩
  | cons c cs ih =>
    rw [digitRun] at h
    rcases hc : digit? c with _ | d
    · rw [hc] at h
      dsimp only at h
      split at h
      · cases h
      · rename_i hneeded
        split at h
        · rename_i hlow
          obtain ⟨run, rfl, rfl, hall, -⟩ := ih h
          refine ⟨c :: run, rfl, ?_, ?_, fun hn => absurd hn hneeded⟩
          · rw [digitValues_cons_of_none hc]
          · exact List.forall_mem_cons.2 ⟨.inr (by simpa using hlow), hall⟩
        · cases h
          exact ⟨[], rfl, rfl, by simp, fun hn => absurd hn hneeded⟩
    · rw [hc] at h
      obtain ⟨⟨ds', rest'⟩, hrun, heq⟩ := Option.map_eq_some_iff.1 h
      cases heq
      obtain ⟨run, rfl, rfl, hall, -⟩ := ih hrun
      have hdigit : isDigit c = true := by rw [isDigit, hc]; rfl
      refine ⟨c :: run, rfl, ?_, ?_, fun _ => ⟨c, run, rfl, hdigit⟩⟩
      · rw [digitValues_cons_of_some hc]
      · exact List.forall_mem_cons.2 ⟨.inl hdigit, hall⟩

theorem digitRun_of_digits {needed : Bool} {cs : List Char} (h : ∀ c ∈ cs, isDigit c = true)
    (hne : needed = true → cs ≠ []) : digitRun needed cs = some (digitValues cs, []) := by
  induction cs generalizing needed with
  | nil =>
    cases needed with
    | false => rfl
    | true => exact absurd rfl (hne rfl)
  | cons c cs ih =>
    obtain ⟨d, hd⟩ := Option.isSome_iff_exists.1 (h c List.mem_cons_self)
    rw [digitRun, hd]
    dsimp only
    rw [ih (fun e he => h e (List.mem_cons_of_mem _ he)) fun hn => absurd hn Bool.false_ne_true,
      digitValues_cons_of_some hd]
    rfl

/-- The parts of a text that is read as an integer: a sign, and digits, the first of them in front,
with low lines among them. -/
theorem exists_of_readInteger {cs : List Char} {n : Int} (h : readInteger cs = .ok n) :
    ∃ negative first rest, signOf (trim isPadding cs) = (negative, first :: rest) ∧
      isDigit first = true ∧ (∀ c ∈ first :: rest, isDigit c = true ∨ c = '_') ∧
      n = withSign negative (ofDigits (digitValues (first :: rest))) ∧
      (digitValues (first :: rest)).length ≤ digitLimit := by
  rcases hsign : signOf (trim isPadding cs) with ⟨negative, body⟩
  have hsign' : signOf (trimPadding cs) = (negative, body) := hsign
  rw [readInteger, hsign'] at h
  dsimp only at h
  split at h
  · cases h
  · rename_i ds rest hrun
    split at h
    · cases h
    · rename_i hlength
      split at h
      · rename_i hrest
        cases h
        obtain ⟨run, hbody, rfl, hall, hfirst⟩ := digitRun_eq_some hrun
        obtain ⟨first, run', rfl, hdigit⟩ := hfirst rfl
        rw [List.isEmpty_iff.1 hrest, List.append_nil] at hbody
        change body = first :: run' at hbody
        subst hbody
        exact ⟨negative, first, run', rfl, hdigit, hall, rfl, by omega⟩
      · cases h

theorem readInteger_of_digits {cs body : List Char} {negative : Bool}
    (hcs : ∀ c ∈ cs, isPadding c = false) (hsign : signOf cs = (negative, body))
    (hbody : ∀ c ∈ body, isDigit c = true) (hne : body ≠ []) (hlength : body.length ≤ digitLimit) :
    readInteger cs = .ok (withSign negative (ofDigits (digitValues body))) := by
  have htrim : trimPadding cs = cs := trim_eq_self hcs
  unfold readInteger
  rw [htrim, hsign]
  dsimp only
  rw [digitRun_of_digits hbody fun _ => hne]
  dsimp only
  rw [if_neg (by rw [length_digitValues hbody]; omega)]
  rfl

theorem isPadding_of_digit {c : Char} (h : isDigit c = true) : isPadding c = false := by
  rw [isPadding, isBlank_of_isDigit h]
  rfl

theorem isDigit_of_mem_writeNat {n : Nat} {c : Char} (h : c ∈ writeNat n) : isDigit c = true :=
  isDigit_of_ascii (Nat.isDigit_of_mem_toDigits (by decide) (by decide) h)

/-- An integer is read back as it was written, if it does not have too many digits. -/
theorem readInteger_writeInteger {n : Int} (h : (writeNat n.natAbs).length ≤ digitLimit) :
    readInteger (writeInteger n) = .ok n := by
  cases n with
  | ofNat n =>
    obtain ⟨c, cs, hcs⟩ := List.exists_cons_of_ne_nil (Nat.toDigits_ne_nil (n := n) (b := 10))
    have hsign : signOf (writeNat n) = (false, writeNat n) := by
      change writeNat n = c :: cs at hcs
      have hc : isDigit c = true := isDigit_of_mem_writeNat (hcs ▸ List.mem_cons_self)
      rw [hcs, signOf_of_digit hc]
    change readInteger (writeNat n) = _
    rw [readInteger_of_digits (fun c hc => isPadding_of_digit (isDigit_of_mem_writeNat hc)) hsign
      (fun c hc => isDigit_of_mem_writeNat hc) Nat.toDigits_ne_nil h, writeNat,
      ofDigits_digitValues_toDigits]
    rfl
  | negSucc n =>
    have hdigits : ∀ c ∈ writeNat (n + 1), isPadding c = false :=
      fun c hc => isPadding_of_digit (isDigit_of_mem_writeNat hc)
    have hpadding : ∀ c ∈ '-' :: writeNat (n + 1), isPadding c = false :=
      List.forall_mem_cons.2 ⟨by decide, hdigits⟩
    change readInteger ('-' :: writeNat (n + 1)) = _
    rw [readInteger_of_digits hpadding rfl (fun c hc => isDigit_of_mem_writeNat hc)
      Nat.toDigits_ne_nil h, writeNat, ofDigits_digitValues_toDigits]
    rfl

/-- What an integer is written with, between the blanks around it. -/
theorem of_mem_trim_of_readInteger {cs : List Char} {n : Int} (h : readInteger cs = .ok n)
    {c : Char} (hc : c ∈ trim isPadding cs) : isDigit c = true ∨ c ∈ ['+', '-', '_'] := by
  obtain ⟨negative, first, rest, hsign, -, hall, -, -⟩ := exists_of_readInteger h
  have hbody : c ∈ first :: rest → isDigit c = true ∨ c ∈ ['+', '-', '_'] := by
    intro hmem
    refine (hall c hmem).imp_right ?_
    rintro rfl
    decide
  rcases eq_of_signOf hsign with ⟨heq, -⟩ | ⟨heq, -⟩ | ⟨heq, -⟩ <;> rw [heq] at hc
  · rcases List.mem_cons.1 hc with rfl | hmem
    · exact .inr (by decide)
    · exact hbody hmem
  · rcases List.mem_cons.1 hc with rfl | hmem
    · exact .inr (by decide)
    · exact hbody hmem
  · exact hbody hc

theorem of_mem_of_readInteger {cs : List Char} {n : Int} (h : readInteger cs = .ok n) {c : Char}
    (hc : c ∈ cs) : isBlank c = true ∨ isDigit c = true ∨ c ∈ ['+', '-', '_'] := by
  rcases hpadding : isPadding c with _ | _
  · exact .inr (of_mem_trim_of_readInteger h (mem_trim_of_mem hc hpadding))
  · exact .inl (Bool.and_eq_true_iff.1 hpadding).1

/-- All blanks around an integer may be cut off, as none is left inside. -/
theorem strip_of_readInteger {cs : List Char} {n : Int} (h : readInteger cs = .ok n) :
    strip cs = trim isPadding cs := by
  obtain ⟨l, r, hcs, hl, hr⟩ := exists_trim isPadding cs
  have hblank : ∀ {ds : List Char}, (∀ c ∈ ds, isPadding c = true) → ∀ c ∈ ds, isBlank c = true :=
    fun hds c hc => (Bool.and_eq_true_iff.1 (hds c hc)).1
  have hinside : ∀ c ∈ trim isPadding cs, isBlank c = false := by
    intro c hc
    rcases of_mem_trim_of_readInteger h hc with hdigit | hmem
    · exact isBlank_of_isDigit hdigit
    · simp only [List.mem_cons, List.not_mem_nil, or_false] at hmem
      rcases hmem with rfl | rfl | rfl <;> decide
  calc strip cs = trim isBlank (l ++ trim isPadding cs ++ r) := by rw [← hcs, strip_eq_trim]
    _ = trim isBlank (trim isPadding cs) := trim_surrounded (hblank hl) (hblank hr)
    _ = trim isPadding cs := trim_eq_self hinside

theorem significant_of_isBlank {c : Char} (h : isBlank c = true) : significant c = false := by
  rw [significant, isDigit_of_isBlank h, Bool.false_or, beq_eq_false_iff_ne]
  rintro rfl
  exact absurd h (by decide)

/-- The value of an integer is told by its digits and a minus. -/
theorem significant_of_readInteger {cs : List Char} {n : Int} (h : readInteger cs = .ok n) :
    ∃ negative digits, cs.filter significant = Decimal.signText negative ++ digits ∧
      (∀ c ∈ digits, isDigit c = true) ∧ n = withSign negative (ofDigits (digitValues digits)) ∧
      digits.length ≤ digitLimit := by
  obtain ⟨negative, first, rest, hsign, -, hall, hn, hlength⟩ := exists_of_readInteger h
  have hdigits : ∀ c ∈ (first :: rest).filter isDigit, isDigit c = true :=
    fun c hc => (List.mem_filter.1 hc).2
  have hbody : (first :: rest).filter significant = (first :: rest).filter isDigit := by
    apply List.filter_congr
    intro c hc
    rcases hall c hc with hdigit | rfl
    · rw [significant, hdigit, Bool.true_or]
    · decide
  have hpadding : ∀ c ∈ cs, isPadding c = true → significant c = false :=
    fun c _ hc => significant_of_isBlank (Bool.and_eq_true_iff.1 hc).1
  refine ⟨negative, (first :: rest).filter isDigit, ?_, hdigits, ?_, ?_⟩
  · rw [← filter_trim hpadding, ← hbody]
    rcases eq_of_signOf hsign with ⟨heq, rfl⟩ | ⟨heq, rfl⟩ | ⟨heq, rfl⟩ <;> rw [heq] <;> rfl
  · rw [digitValues_filter]
    exact hn
  · rw [← length_digitValues hdigits, digitValues_filter]
    exact hlength

/-- An integer has no more digits than its text. -/
theorem length_writeNat_digitValues (cs : List Char) :
    (writeNat (ofDigits (digitValues cs))).length ≤ max 1 (digitValues cs).length := by
  rcases Nat.eq_zero_or_pos (digitValues cs).length with hzero | hpos
  · rw [List.length_eq_zero_iff.1 hzero]
    decide
  · rw [writeNat, Nat.max_eq_right hpos, Nat.length_toDigits_le_iff (by decide) hpos]
    exact ofDigits_digitValues_lt cs

/-- What is read as an integer can be written and read again. -/
theorem length_writeNat_of_readInteger {cs : List Char} {n : Int} (h : readInteger cs = .ok n) :
    (writeNat n.natAbs).length ≤ digitLimit := by
  obtain ⟨negative, digits, -, hdigits, rfl, hlength⟩ := significant_of_readInteger h
  have habs : (withSign negative (ofDigits (digitValues digits))).natAbs =
      ofDigits (digitValues digits) := by
    cases negative with
    | false => rfl
    | true => exact Int.natAbs_neg _
  rw [habs]
  refine (length_writeNat_digitValues digits).trans (Nat.max_le.2 ⟨by rw [digitLimit]; omega, ?_⟩)
  rwa [length_digitValues hdigits]

/-! ## Decimals -/

namespace Decimal

theorem digitsOf_append {ds rest : List Char} (hds : ∀ c ∈ ds, isDigit c = true)
    (hrest : ∀ c cs, rest = c :: cs → isDigit c = false) :
    digitsOf (ds ++ rest) = (digitValues ds, rest) := by
  have htake : rest.takeWhile isDigit = [] ∧ rest.dropWhile isDigit = rest := by
    cases rest with
    | nil => exact ⟨rfl, rfl⟩
    | cons c cs => simp [hrest c cs rfl]
  rw [digitsOf, List.takeWhile_append_of_pos hds, List.dropWhile_append_of_pos hds, htake.1,
    htake.2, List.append_nil]
  rfl

theorem digitsOf_of_digits {ds : List Char} (h : ∀ c ∈ ds, isDigit c = true) :
    digitsOf ds = (digitValues ds, []) := by
  have hrest : ∀ c cs, [] = c :: cs → isDigit c = false := by simp
  have happend := digitsOf_append h hrest
  rwa [List.append_nil] at happend

/-- What an exponent is written with: nothing, or a letter and no point. -/
theorem of_exponentOf_eq_some {cs : List Char} {e : Int} (h : exponentOf cs = some e) :
    cs = [] ∧ e = 0 ∨ ∃ c rest, cs = c :: rest ∧ (c = 'e' ∨ c = 'E') ∧ '.' ∉ rest := by
  cases cs with
  | nil =>
    cases h
    exact .inl ⟨rfl, rfl⟩
  | cons c cs =>
    right
    rw [exponentOf] at h
    split at h
    · rename_i hc
      rcases hsign : signOf cs with ⟨negative, body⟩
      rw [hsign] at h
      dsimp only at h
      refine ⟨c, cs, rfl, by simpa using hc, ?_⟩
      have hbody : '.' ∉ body := by
        split at h
        · cases h
        · rename_i ds _ hds
          intro hpoint
          have hdrop : body.dropWhile isDigit = [] := congrArg Prod.snd hds
          have hdigit := List.dropWhile_eq_nil_iff.1 hdrop _ hpoint
          exact absurd hdigit (by decide)
        · cases h
      rcases eq_of_signOf hsign with ⟨rfl, -⟩ | ⟨rfl, -⟩ | ⟨rfl, -⟩
      · simpa using hbody
      · simpa using hbody
      · exact hbody
    · cases h

theorem of_fractionOf {cs rest : List Char} {ds : List Nat} (h : fractionOf cs = (ds, rest)) :
    ∃ point fraction, cs = point ++ (fraction ++ rest) ∧
      (point = ['.'] ∨ point = [] ∧ fraction = []) ∧ (∀ c ∈ fraction, isDigit c = true) ∧
      ds = digitValues fraction := by
  unfold fractionOf at h
  split at h
  · rename_i cs
    cases h
    refine ⟨['.'], cs.takeWhile isDigit, ?_, .inl rfl, fun c hc => List.mem_takeWhile_imp hc, rfl⟩
    rw [List.takeWhile_append_dropWhile]
    rfl
  · cases h
    exact ⟨[], [], rfl, .inr ⟨rfl, rfl⟩, by simp, rfl⟩

/-- The parts of a number: digits, perhaps a point with more digits, and perhaps an exponent. -/
theorem exists_of_readFinite {negative : Bool} {cs : List Char} {x : Decimal}
    (h : readFinite negative cs = some x) : ∃ whole point fraction tail e,
      cs = whole ++ (point ++ (fraction ++ tail)) ∧
      (point = ['.'] ∨ point = [] ∧ fraction = []) ∧
      (∀ c ∈ whole, isDigit c = true) ∧ (∀ c ∈ fraction, isDigit c = true) ∧
      exponentOf tail = some e ∧
      x = .finite negative (ofDigits (digitValues (whole ++ fraction))) (e - fraction.length) := by
  rcases hfraction : fractionOf (cs.dropWhile isDigit) with ⟨ds, tail⟩
  obtain ⟨point, fraction, hdrop, hpoint, hall, rfl⟩ := of_fractionOf hfraction
  rw [readFinite, digitsOf] at h
  dsimp only at h
  rw [hfraction] at h
  dsimp only at h
  split at h
  · cases h
  · obtain ⟨e, he, h⟩ := Option.bind_eq_some_iff.1 h
    split at h
    · cases h
      refine ⟨cs.takeWhile isDigit, point, fraction, tail, e, ?_, hpoint,
        fun c hc => List.mem_takeWhile_imp hc, hall, he, ?_⟩
      · rw [← hdrop, List.takeWhile_append_dropWhile]
      · rw [digitValues_append, length_digitValues hall]
        rfl
    · cases h

theorem of_toLower_eq {c d : Char} (h : c.toLower = d) : c = d ∨ c.toNat + 32 = d.toNat := by
  unfold Char.toLower at h
  split at h
  · rename_i hc
    right
    have hle : c.toNat ≤ 90 := hc.2
    rw [← h]
    change c.toNat + 32 = (c.val + 32).toNat
    rw [UInt32.toNat_add]
    change c.toNat + 32 = (c.toNat + 32) % 4294967296
    omega
  · exact .inl h

/-- The letters that what is no number, or no finite one, begins with. -/
def specialLetters : List Char := ['i', 'I', 'n', 'N', 's', 'S']

theorem mem_specialLetters_of_toLower {c : Char}
    (h : c.toLower = 'i' ∨ c.toLower = 'n' ∨ c.toLower = 's') : c ∈ specialLetters := by
  have hupper : ∀ d : Char, c.toNat + 32 = d.toNat + 32 → c = d :=
    fun d hd => Char.toNat_inj.1 (by omega)
  rcases h with h | h | h <;> rcases of_toLower_eq h with rfl | h'
  · decide
  · exact hupper 'I' h' ▸ by decide
  · decide
  · exact hupper 'N' h' ▸ by decide
  · decide
  · exact hupper 'S' h' ▸ by decide

theorem readSpecial_eq_none {negative : Bool} {cs : List Char}
    (h : ∀ c ∈ cs, c ∉ specialLetters) : readSpecial negative cs = none := by
  cases cs with
  | nil => rfl
  | cons c rest =>
    have hc : c ∉ specialLetters := h c List.mem_cons_self
    unfold readSpecial
    split
    · rename_i heq
      exact absurd (mem_specialLetters_of_toLower (.inl (List.cons.inj heq).1)) hc
    · rename_i heq
      exact absurd (mem_specialLetters_of_toLower (.inl (List.cons.inj heq).1)) hc
    · rename_i heq
      exact absurd (mem_specialLetters_of_toLower (.inr (.inl (List.cons.inj heq).1))) hc
    · rename_i heq
      exact absurd (mem_specialLetters_of_toLower (.inr (.inr (List.cons.inj heq).1))) hc
    · rfl

theorem point_notMem_of_readPayload {cs : List Char} {n : Nat} (h : readPayload cs = some n) :
    '.' ∉ cs := by
  unfold readPayload at h
  split at h
  · rename_i ds hds
    have hdrop : cs.dropWhile isDigit = [] := congrArg Prod.snd hds
    intro hpoint
    exact absurd (List.dropWhile_eq_nil_iff.1 hdrop _ hpoint) (by decide)
  · cases h

theorem point_notMem_of_readSpecial {negative : Bool} {cs : List Char} {x : Decimal}
    (h : readSpecial negative cs = some x) : '.' ∉ cs := by
  intro hpoint
  have hlower : '.' ∈ cs.map Char.toLower := List.mem_map_of_mem hpoint
  unfold readSpecial at h
  split at h
  · rename_i heq
    rw [heq] at hlower
    simp at hlower
  · rename_i heq
    rw [heq] at hlower
    simp at hlower
  · rename_i rest heq
    obtain ⟨n, hn, -⟩ := Option.map_eq_some_iff.1 h
    rw [heq] at hlower
    simp [point_notMem_of_readPayload hn] at hlower
  · rename_i rest heq
    obtain ⟨n, hn, -⟩ := Option.map_eq_some_iff.1 h
    rw [heq] at hlower
    simp [point_notMem_of_readPayload hn] at hlower
  · cases h

/-- The points in a text. -/
def points (cs : List Char) : List Char := cs.filter (· == '.')

theorem points_eq_nil {cs : List Char} (h : '.' ∉ cs) : points cs = [] :=
  List.filter_eq_nil_iff.2 fun c hc => by
    rintro heq
    rw [beq_iff_eq] at heq
    exact h (heq ▸ hc)

theorem points_of_digits {cs : List Char} (h : ∀ c ∈ cs, isDigit c = true) : points cs = [] :=
  points_eq_nil fun hpoint => absurd (h _ hpoint) (by decide)

theorem length_points_of_readFinite {negative : Bool} {cs : List Char} {x : Decimal}
    (h : readFinite negative cs = some x) : (points cs).length ≤ 1 := by
  obtain ⟨whole, point, fraction, tail, e, rfl, hpoint, hwhole, hfraction, he, -⟩ :=
    exists_of_readFinite h
  have htail : points tail = [] := by
    rcases of_exponentOf_eq_some he with ⟨rfl, -⟩ | ⟨c, rest, rfl, hc, hrest⟩
    · rfl
    · refine points_eq_nil ?_
      rcases hc with rfl | rfl <;> simpa using hrest
  have hpoints : points (whole ++ (point ++ (fraction ++ tail))) = points point := by
    rw [points, List.filter_append, List.filter_append, List.filter_append]
    change points whole ++ (points point ++ (points fraction ++ points tail)) = _
    rw [points_of_digits hwhole, points_of_digits hfraction, htail]
    simp
  rw [hpoints]
  rcases hpoint with rfl | ⟨rfl, -⟩ <;> decide

/-- A decimal has a sign and a body, which is a number or says that it is none. -/
theorem exists_of_read? {cs : List Char} {x : Decimal} (h : read? cs = some x) :
    ∃ negative body, signOf ((strip cs).filter (· != '_')) = (negative, body) ∧
      (readFinite negative body = some x ∨ readSpecial negative body = some x) := by
  rcases hsign : signOf ((strip cs).filter (· != '_')) with ⟨negative, body⟩
  rw [read?, hsign] at h
  exact ⟨negative, body, rfl, Option.or_eq_some_iff.1 h |>.imp_right And.right⟩

/-- The blanks around a decimal and the low lines in it are no part of it. -/
theorem filter_stripped {q : Char → Bool} (hblank : ∀ c, isBlank c = true → q c = false)
    (hlow : q '_' = false) (cs : List Char) :
    ((strip cs).filter (· != '_')).filter q = cs.filter q :=
  filter_filter_strip (p := (· == '_')) (fun _ hc => beq_iff_eq.1 hc ▸ hlow) hblank cs

/-- A text that is read as a decimal has at most one point. -/
theorem length_points_of_read? {cs : List Char} {x : Decimal} (h : read? cs = some x) :
    (points cs).length ≤ 1 := by
  obtain ⟨negative, body, hsign, hx⟩ := exists_of_read? h
  have hblank : ∀ c, isBlank c = true → (c == '.') = false := by
    intro c hc
    rw [beq_eq_false_iff_ne]
    rintro rfl
    exact absurd hc (by decide)
  have hbody : points body = points cs := by
    rw [points, points, ← filter_stripped hblank rfl cs]
    rcases eq_of_signOf hsign with ⟨heq, -⟩ | ⟨heq, -⟩ | ⟨heq, -⟩ <;> rw [heq] <;> rfl
  rw [← hbody]
  rcases hx with hx | hx
  · exact length_points_of_readFinite hx
  · rw [points_eq_nil (point_notMem_of_readSpecial hx)]
    exact Nat.zero_le 1

/-! ## Numbers without an exponent -/

/-- A number is held when neither its fraction nor its coefficient has too many digits. -/
theorem fits_neg (places coefficient : Nat) : fits places coefficient (-places) =
    decide (places ≤ maxDigits ∧ (writeNat coefficient).length ≤ maxDigits) := by
  have hrange : places ≤ maxDigits → (writeNat coefficient).length ≤ maxDigits →
      inRange coefficient (-places) = true := by
    intro hplaces hlength
    rw [inRange, leadingExponent, minExponent, maxExponent, Bool.and_eq_true, decide_eq_true_eq,
      decide_eq_true_eq]
    rw [maxDigits] at hplaces hlength
    omega
  rw [fits, Bool.eq_iff_iff, Bool.and_eq_true, Bool.and_eq_true, decide_eq_true_eq,
    decide_eq_true_eq, decide_eq_true_eq]
  exact ⟨And.left, fun h => ⟨h, hrange h.1 h.2⟩⟩

theorem readFinite_of_digits (negative : Bool) {whole fraction : List Char}
    (hwhole : ∀ c ∈ whole, isDigit c = true) (hfraction : ∀ c ∈ fraction, isDigit c = true)
    (hne : whole ≠ []) {cs : List Char}
    (hcs : cs = whole ++ '.' :: fraction ∨ cs = whole ∧ fraction = []) :
    readFinite negative cs =
      if fraction.length ≤ maxDigits ∧
          (writeNat (ofDigits (digitValues (whole ++ fraction)))).length ≤ maxDigits then
        some (.finite negative (ofDigits (digitValues (whole ++ fraction))) (-fraction.length))
      else none := by
  have hvalues : (digitValues whole).isEmpty = false := by
    obtain ⟨c, cs, rfl⟩ := List.exists_cons_of_ne_nil hne
    rw [List.isEmpty_eq_false_iff]
    exact digitValues_ne_nil (hwhole c List.mem_cons_self) cs
  have hparts : ∃ rest, digitsOf cs = (digitValues whole, rest) ∧
      fractionOf rest = (digitValues fraction, []) := by
    rcases hcs with rfl | ⟨rfl, rfl⟩
    · refine ⟨'.' :: fraction, digitsOf_append hwhole ?_, ?_⟩
      · intro c cs h
        cases h
        decide
      · exact digitsOf_of_digits hfraction
    · exact ⟨[], digitsOf_of_digits hwhole, rfl⟩
  obtain ⟨rest, hdigits, hrest⟩ := hparts
  have hlength : (0 : Int) - ((digitValues fraction).length : Int) = -fraction.length := by
    rw [length_digitValues hfraction]
    omega
  rw [readFinite, hdigits]
  dsimp only
  rw [hrest]
  dsimp only
  rw [hvalues, exponentOf]
  change (if fits (digitValues fraction).length _ (0 - ((digitValues fraction).length : Int)) = true
    then _ else _) = _
  rw [hlength, length_digitValues hfraction, fits_neg, ← digitValues_append]
  simp only [decide_eq_true_eq]

/-- The marks and digits of a number are no letters. -/
theorem no_letter {c : Char} (h : isBlank c = true ∨ isDigit c = true ∨ c ∈ ['+', '-', '_', '.']) :
    c ∉ 'e' :: 'E' :: specialLetters := by
  intro hc
  simp only [specialLetters, List.mem_cons, List.not_mem_nil, or_false] at hc
  rcases hc with rfl | rfl | rfl | rfl | rfl | rfl | rfl | rfl <;> exact absurd h (by decide)

theorem of_mem_sign {sign : List Char} (h : sign ∈ [[], ['+'], ['-']]) {c : Char} (hc : c ∈ sign) :
    c = '+' ∨ c = '-' := by
  simp only [List.mem_cons, List.not_mem_nil, or_false] at h
  rcases h with rfl | rfl | rfl
  · cases hc
  · exact .inl (List.mem_singleton.1 hc)
  · exact .inr (List.mem_singleton.1 hc)

/-- A decimal that is written with marks and digits alone. -/
theorem read?_of_digits {sign whole fraction : List Char} (hsign : sign ∈ [[], ['+'], ['-']])
    (hwhole : ∀ c ∈ whole, isDigit c = true) (hfraction : ∀ c ∈ fraction, isDigit c = true)
    (hne : whole ≠ []) :
    read? (sign ++ (whole ++ '.' :: fraction)) =
      if fraction.length ≤ maxDigits ∧
          (writeNat (ofDigits (digitValues (whole ++ fraction)))).length ≤ maxDigits then
        some (.finite (sign == ['-']) (ofDigits (digitValues (whole ++ fraction)))
          (-fraction.length))
      else none := by
  have hmem : ∀ c ∈ whole ++ '.' :: fraction, isDigit c = true ∨ c = '.' := by
    intro c hc
    rcases List.mem_append.1 hc with hc | hc
    · exact .inl (hwhole c hc)
    · exact (List.mem_cons.1 hc).symm.imp_left (hfraction c)
  have hplain : ∀ c ∈ sign ++ (whole ++ '.' :: fraction),
      isBlank c = false ∧ (c != '_') = true := by
    intro c hc
    rcases List.mem_append.1 hc with hc | hc
    · rcases of_mem_sign hsign hc with rfl | rfl <;> decide
    · rcases hmem c hc with hdigit | rfl
      · exact ⟨isBlank_of_isDigit hdigit, low_of_isDigit hdigit⟩
      · decide
  have hspecial : readSpecial (sign == ['-']) (whole ++ '.' :: fraction) = none := by
    refine readSpecial_eq_none fun c hc hletter => ?_
    refine no_letter (c := c) (.inr ?_) (List.mem_cons_of_mem _ (List.mem_cons_of_mem _ hletter))
    rcases hmem c hc with hdigit | rfl
    · exact .inl hdigit
    · exact .inr (by decide)
  have hstripped : (strip (sign ++ (whole ++ '.' :: fraction))).filter (· != '_') =
      sign ++ (whole ++ '.' :: fraction) := by
    rw [strip_eq_trim, trim_eq_self fun c hc => (hplain c hc).1]
    exact List.filter_eq_self.2 fun c hc => (hplain c hc).2
  have hbody : signOf (sign ++ (whole ++ '.' :: fraction)) =
      (sign == ['-'], whole ++ '.' :: fraction) := by
    simp only [List.mem_cons, List.not_mem_nil, or_false] at hsign
    rcases hsign with rfl | rfl | rfl
    · obtain ⟨c, cs, rfl⟩ := List.exists_cons_of_ne_nil hne
      exact signOf_of_digit (hwhole c List.mem_cons_self) _
    · rfl
    · rfl
  rw [read?, hstripped, hbody]
  dsimp only
  rw [hspecial, Option.or_none]
  exact readFinite_of_digits _ hwhole hfraction hne (.inl rfl)

/-- Behind a sign the digits are told apart from it. -/
theorem signText_append_inj {a b : Bool} {ds es : List Char} (hds : ∀ c ∈ ds, isDigit c = true)
    (hes : ∀ c ∈ es, isDigit c = true) (h : signText a ++ ds = signText b ++ es) :
    a = b ∧ ds = es := by
  have hminus : ∀ {cs : List Char}, (∀ c ∈ cs, isDigit c = true) → '-' ∉ cs :=
    fun hcs hc => absurd (hcs _ hc) (by decide)
  cases a <;> cases b
  · exact ⟨rfl, h⟩
  · change ds = '-' :: es at h
    exact absurd (h ▸ List.mem_cons_self) (hminus hds)
  · change '-' :: ds = es at h
    exact absurd (h ▸ List.mem_cons_self) (hminus hes)
  · exact ⟨rfl, (List.cons.inj h).2⟩

/-- What of a number without an exponent tells its value. -/
def numeric (c : Char) : Bool := significant c || c == '.'

theorem isDigit_and_numeric (c : Char) : (isDigit c && numeric c) = isDigit c := by
  rw [numeric, significant]
  cases isDigit c <;> rfl

theorem significant_and_numeric (c : Char) : (significant c && numeric c) = significant c := by
  rw [numeric]
  cases significant c <;> rfl

theorem numeric_of_isBlank {c : Char} (h : isBlank c = true) : numeric c = false := by
  rw [numeric, significant_of_isBlank h, Bool.false_or, beq_eq_false_iff_ne]
  rintro rfl
  exact absurd h (by decide)

/-- The value of a number that is written without letters is told by its digits, a minus and a
point. -/
theorem numeric_of_read? {cs : List Char} {x : Decimal} (h : read? cs = some x)
    (hcs : ∀ c ∈ cs, isBlank c = true ∨ isDigit c = true ∨ c ∈ ['+', '-', '_', '.']) :
    ∃ negative whole point fraction,
      cs.filter numeric = signText negative ++ (whole ++ (point ++ fraction)) ∧
      (point = ['.'] ∨ point = [] ∧ fraction = []) ∧
      (∀ c ∈ whole, isDigit c = true) ∧ (∀ c ∈ fraction, isDigit c = true) ∧
      x = .finite negative (ofDigits (digitValues (whole ++ fraction))) (-fraction.length) := by
  obtain ⟨negative, body, hsign, hx⟩ := exists_of_read? h
  have hmem : ∀ c ∈ body, c ∈ cs := by
    intro c hc
    have hstripped : c ∈ (strip cs).filter (· != '_') := by
      rcases eq_of_signOf hsign with ⟨heq, -⟩ | ⟨heq, -⟩ | ⟨heq, -⟩ <;> rw [heq] <;> simp [hc]
    rw [strip_eq_trim] at hstripped
    exact mem_of_mem_trim (List.mem_filter.1 hstripped).1
  have hspecial : readSpecial negative body = none :=
    readSpecial_eq_none fun c hc hletter =>
      no_letter (hcs c (hmem c hc)) (List.mem_cons_of_mem _ (List.mem_cons_of_mem _ hletter))
  rw [hspecial, or_iff_left (by simp)] at hx
  obtain ⟨whole, point, fraction, tail, e, hbody, hpoint, hwhole, hfraction, he, rfl⟩ :=
    exists_of_readFinite hx
  have htail : tail = [] ∧ e = 0 := by
    rcases of_exponentOf_eq_some he with htail | ⟨c, rest, rfl, hc, -⟩
    · exact htail
    · have hmem' : c ∈ body := by
        rw [hbody]
        simp
      refine absurd ?_ (no_letter (hcs c (hmem c hmem')))
      rcases hc with rfl | rfl <;> decide
  obtain ⟨rfl, rfl⟩ := htail
  rw [List.append_nil] at hbody
  refine ⟨negative, whole, point, fraction, ?_, hpoint, hwhole, hfraction, ?_⟩
  · have hnumeric : body.filter numeric = body := by
      have hdigit : ∀ c, isDigit c = true → numeric c = true := by
        intro c hc
        rw [numeric, significant, hc]
        rfl
      rw [hbody, List.filter_append, List.filter_append, List.filter_eq_self.2 fun c hc =>
        hdigit c (hwhole c hc), List.filter_eq_self.2 fun c hc => hdigit c (hfraction c hc)]
      rcases hpoint with rfl | ⟨rfl, -⟩ <;> rfl
    rw [← filter_stripped (fun c => numeric_of_isBlank) (by decide), ← hbody]
    rcases eq_of_signOf hsign with ⟨heq, rfl⟩ | ⟨heq, rfl⟩ | ⟨heq, rfl⟩
    · rw [heq, List.filter_cons_of_pos (by decide), hnumeric]
      rfl
    · rw [heq, List.filter_cons_of_neg (by decide), hnumeric]
      rfl
    · rw [heq, hnumeric]
      rfl
  · rw [zero_sub]

/-- Every text that is read as an integer is read as a decimal too. -/
theorem exists_of_readInteger_eq_ok {cs : List Char} {n : Int} (h : readInteger cs = .ok n) :
    ∃ x, read? cs = some x := by
  obtain ⟨negative, first, rest, hsign, hfirst, hall, -, hlength⟩ := exists_of_readInteger h
  have hfilter : (first :: rest).filter (· != '_') = (first :: rest).filter isDigit := by
    apply List.filter_congr
    intro c hc
    rcases hall c hc with hdigit | rfl
    · rw [hdigit, low_of_isDigit hdigit]
    · decide
  have hbody : signOf ((strip cs).filter (· != '_')) =
      (negative, (first :: rest).filter isDigit) := by
    rw [strip_of_readInteger h, ← hfilter]
    rcases eq_of_signOf hsign with ⟨heq, rfl⟩ | ⟨heq, rfl⟩ | ⟨heq, rfl⟩ <;> rw [heq]
    · rfl
    · rfl
    · rw [hfilter, List.filter_cons_of_pos hfirst, signOf_of_digit hfirst]
  have hdigits : ∀ c ∈ (first :: rest).filter isDigit, isDigit c = true :=
    fun c hc => (List.mem_filter.1 hc).2
  have hne : (first :: rest).filter isDigit ≠ [] := by
    rw [List.filter_cons_of_pos hfirst]
    exact List.cons_ne_nil _ _
  have hfits : (writeNat (ofDigits (digitValues ((first :: rest).filter isDigit ++ [])))).length ≤
      maxDigits := by
    rw [List.append_nil, digitValues_filter]
    refine (length_writeNat_digitValues _).trans (Nat.max_le.2 ⟨?_, hlength.trans ?_⟩)
    · rw [maxDigits]
      omega
    · rw [digitLimit, maxDigits]
      omega
  rw [read?, hbody]
  dsimp only
  rw [readFinite_of_digits negative hdigits (by simp) hne (.inr ⟨rfl, rfl⟩),
    if_pos ⟨Nat.zero_le _, hfits⟩]
  exact ⟨_, rfl⟩

end Decimal

end Number

end QueryBinding
