-- What is put around a text, or in between its characters, and taken away again. Cutting
-- the ends off a text keeps every character that is not of the kind that is cut.
import Mathlib
import QueryBinding.Text.Blank

namespace QueryBinding.Text

/-! ## Both ends -/

/-- A text without the characters of a kind at either end. -/
def trim (p : Char → Bool) (cs : List Char) : List Char := (cs.dropWhile p).rdropWhile p

theorem strip_eq_trim (cs : List Char) : strip cs = trim isBlank cs := rfl

variable {p q : Char → Bool} {cs l r core : List Char}

/-- What is cut off a text is of the kind that is cut. -/
theorem exists_trim (p : Char → Bool) (cs : List Char) :
    ∃ l r, cs = l ++ trim p cs ++ r ∧ (∀ c ∈ l, p c = true) ∧ ∀ c ∈ r, p c = true := by
  refine ⟨cs.takeWhile p, (cs.dropWhile p).rtakeWhile p, ?_, ?_, ?_⟩
  · rw [List.append_assoc, trim, List.rdropWhile, List.rtakeWhile, ← List.reverse_append,
      List.takeWhile_append_dropWhile, List.reverse_reverse, List.takeWhile_append_dropWhile]
  · exact fun c hc => List.mem_takeWhile_imp hc
  · exact fun c hc => List.mem_takeWhile_imp (List.mem_reverse.1 hc)

/-- What stands around a text and is of the kind that is cut makes no difference. -/
theorem trim_surrounded (hl : ∀ c ∈ l, p c = true) (hr : ∀ c ∈ r, p c = true) :
    trim p (l ++ core ++ r) = trim p core := by
  have hback : ∀ cs : List Char, (cs ++ r).rdropWhile p = cs.rdropWhile p := by
    intro cs
    rw [List.rdropWhile, List.reverse_append,
      List.dropWhile_append_of_pos fun c hc => hr c (List.mem_reverse.1 hc)]
    rfl
  rw [trim, trim, List.append_assoc, List.dropWhile_append_of_pos hl, List.dropWhile_append]
  split
  · rename_i hcore
    rw [List.isEmpty_iff.1 hcore]
    have hnil : r.dropWhile p = [] := List.dropWhile_eq_nil_iff.2 hr
    rw [hnil]
  · exact hback _

/-- The characters of other kinds are all kept. -/
theorem filter_trim (h : ∀ c ∈ cs, p c = true → q c = false) :
    (trim p cs).filter q = cs.filter q := by
  obtain ⟨l, r, hcs, hl, hr⟩ := exists_trim p cs
  have hnil : ∀ {ds : List Char}, (∀ c ∈ ds, p c = true) → (∀ c ∈ ds, c ∈ cs) →
      ds.filter q = [] := by
    intro ds hp hmem
    exact List.filter_eq_nil_iff.2 fun c hc => by simp [h c (hmem c hc) (hp c hc)]
  have hl' : l.filter q = [] := hnil hl fun c hc => by rw [hcs]; simp [hc]
  have hr' : r.filter q = [] := hnil hr fun c hc => by rw [hcs]; simp [hc]
  calc (trim p cs).filter q = l.filter q ++ (trim p cs).filter q ++ r.filter q := by
        rw [hl', hr', List.nil_append, List.append_nil]
    _ = (l ++ trim p cs ++ r).filter q := by rw [List.filter_append, List.filter_append]
    _ = cs.filter q := by rw [← hcs]

theorem mem_of_mem_trim {c : Char} (h : c ∈ trim p cs) : c ∈ cs := by
  obtain ⟨l, r, hcs, -, -⟩ := exists_trim p cs
  rw [hcs]
  simp [h]

/-- A character of another kind is not cut off. -/
theorem mem_trim_of_mem {c : Char} (hc : c ∈ cs) (hp : p c = false) : c ∈ trim p cs := by
  obtain ⟨l, r, hcs, hl, hr⟩ := exists_trim p cs
  rw [hcs, List.mem_append, List.mem_append] at hc
  rcases hc with (hc | hc) | hc
  · rw [hl c hc] at hp
    cases hp
  · exact hc
  · rw [hr c hc] at hp
    cases hp

theorem trim_eq_self (h : ∀ c ∈ cs, p c = false) : trim p cs = cs := by
  have hall : cs.filter (!p ·) = cs := List.filter_eq_self.2 fun c hc => by simp [h c hc]
  have htrim : (trim p cs).filter (!p ·) = trim p cs :=
    List.filter_eq_self.2 fun c hc => by simp [h c (mem_of_mem_trim hc)]
  rw [← htrim, filter_trim fun c _ hp => by simp [hp], hall]

/-! ## In between -/

/-- One text is made from another by putting in characters of a kind, anywhere and any number. -/
inductive Interspersed (p : Char → Bool) : List Char → List Char → Prop
  | nil : Interspersed p [] []
  | keep (c : Char) {cs ds : List Char} (h : Interspersed p cs ds) :
      Interspersed p (c :: cs) (c :: ds)
  | put {c : Char} (hc : p c = true) {cs ds : List Char} (h : Interspersed p cs ds) :
      Interspersed p cs (c :: ds)

theorem Interspersed.refl (p : Char → Bool) : ∀ cs, Interspersed p cs cs
  | [] => .nil
  | c :: cs => .keep c (refl p cs)

theorem Interspersed.mem {ds : List Char} (h : Interspersed p cs ds) {c : Char} (hc : c ∈ ds) :
    c ∈ cs ∨ p c = true := by
  induction h with
  | nil => cases hc
  | keep d h ih =>
    rcases List.mem_cons.1 hc with rfl | hc
    · exact .inl List.mem_cons_self
    · exact (ih hc).imp_left (List.mem_cons_of_mem _)
  | put hd h ih =>
    rcases List.mem_cons.1 hc with rfl | hc
    · exact .inr hd
    · exact ih hc

/-- What was put in can be taken away again. -/
theorem Interspersed.filter_eq {ds : List Char} (h : Interspersed p cs ds)
    (hcs : ∀ c ∈ cs, p c = false) : ds.filter (!p ·) = cs := by
  induction h with
  | nil => rfl
  | keep c h ih =>
    rw [List.filter_cons_of_pos (by simp [hcs c List.mem_cons_self]),
      ih fun d hd => hcs d (List.mem_cons_of_mem _ hd)]
  | put hc h ih => rw [List.filter_cons_of_neg (by simp [hc]), ih hcs]

/-- One text is another with blanks around. -/
def Padded (core cs : List Char) : Prop :=
  ∃ l r, cs = l ++ core ++ r ∧ (∀ c ∈ l, isBlank c = true) ∧ ∀ c ∈ r, isBlank c = true

theorem Padded.refl (cs : List Char) : Padded cs cs := ⟨[], [], by simp, by simp, by simp⟩

/-- Blanks around a text, and characters of a kind inside it, are all taken away. -/
theorem filter_strip_of_padded {ds : List Char} (h : Interspersed p core ds) (hcs : Padded ds cs)
    (hcore : ∀ c ∈ core, p c = false ∧ isBlank c = false) : (strip cs).filter (!p ·) = core := by
  obtain ⟨l, r, rfl, hl, hr⟩ := hcs
  rw [strip_eq_trim, trim_surrounded hl hr, filter_trim, h.filter_eq fun c hc => (hcore c hc).1]
  intro c hc hblank
  rcases h.mem hc with hmem | hp
  · rw [(hcore c hmem).2] at hblank
    cases hblank
  · simp [hp]

/-- What is neither a blank nor of the kind that is taken away is kept. -/
theorem filter_filter_strip (hp : ∀ c, p c = true → q c = false)
    (hblank : ∀ c, isBlank c = true → q c = false) (cs : List Char) :
    ((strip cs).filter (!p ·)).filter q = cs.filter q := by
  have hfilter : ((strip cs).filter (!p ·)).filter q = (strip cs).filter q := by
    rw [List.filter_filter]
    apply List.filter_congr
    intro c _
    rcases hc : p c with _ | _
    · rw [Bool.not_false, Bool.and_true]
    · rw [hp c hc]
      rfl
  rw [hfilter, strip_eq_trim, filter_trim fun c _ => hblank c]

theorem mem_filter_strip {c : Char} (hc : c ∈ cs) (hp : p c = false) (hblank : isBlank c = false) :
    c ∈ (strip cs).filter (!p ·) := by
  rw [List.mem_filter, strip_eq_trim]
  exact ⟨mem_trim_of_mem hc hblank, by rw [hp]; rfl⟩

end QueryBinding.Text
