-- Blanks, and what is done with them: cutting them off the ends of a text,
-- and taking the text apart into words. The laws say that joining the words
-- with single spaces is a normal form.

namespace QueryBinding.Text

/-! ## The pure model -/

/-- The characters that separate words: the blanks of every script, and the
control characters that break a line or a record. -/
def isBlank (c : Char) : Bool :=
  let n := c.toNat
  (9 ≤ n && n ≤ 13) || (28 ≤ n && n ≤ 32) || n == 0x85 || n == 0xA0 || n == 0x1680 ||
    (0x2000 ≤ n && n ≤ 0x200A) || n == 0x2028 || n == 0x2029 || n == 0x202F || n == 0x205F ||
    n == 0x3000

/-- A text without the blanks at its front. -/
def stripLeft (cs : List Char) : List Char := cs.dropWhile isBlank

/-- A text without the blanks at its end. -/
def stripRight (cs : List Char) : List Char := (stripLeft cs.reverse).reverse

/-- A text without the blanks at either end. -/
def strip (cs : List Char) : List Char := stripRight (stripLeft cs)

/-- Reads words from a text, with the letters of an unfinished word in hand. -/
def wordsFrom (w : List Char) : List Char → List (List Char)
  | [] => if w.isEmpty then [] else [w]
  | c :: cs =>
    if isBlank c then
      if w.isEmpty then wordsFrom [] cs else w :: wordsFrom [] cs
    else wordsFrom (w ++ [c]) cs

/-- The longest runs of characters that are no blanks, in order. -/
def words (cs : List Char) : List (List Char) := wordsFrom [] cs

/-- Texts one after the other, with a mark between neighbours. -/
def joinWith (mark : List Char) : List (List Char) → List Char
  | [] => []
  | [w] => w
  | w :: ws => w ++ mark ++ joinWith mark ws

/-- The words of a text with one space between neighbours. -/
def normalize (cs : List Char) : List Char := joinWith [' '] (words cs)

/-! ## On strings -/

def stripString (s : String) : String := String.ofList (strip s.toList)

/-! ## The laws -/

/-- A word is not empty and holds no blank. -/
def IsWord (w : List Char) : Prop := w ≠ [] ∧ ∀ c ∈ w, isBlank c = false

theorem isBlank_space : isBlank ' ' = true := by decide

theorem isWord_of_mem_wordsFrom (cs : List Char) (w : List Char)
    (hw : ∀ c ∈ w, isBlank c = false) : ∀ x ∈ wordsFrom w cs, IsWord x := by
  induction cs generalizing w with
  | nil =>
    intro x hx
    simp only [wordsFrom] at hx
    split at hx
    · simp at hx
    · rename_i hne
      obtain rfl := List.mem_singleton.1 hx
      exact ⟨by simpa using hne, hw⟩
  | cons c cs ih =>
    intro x hx
    simp only [wordsFrom] at hx
    split at hx
    · split at hx
      · exact ih [] (by simp) x hx
      · rename_i hne
        rcases List.mem_cons.1 hx with rfl | hx
        · exact ⟨by simpa using hne, hw⟩
        · exact ih [] (by simp) x hx
    · rename_i hc
      refine ih (w ++ [c]) ?_ x hx
      intro d hd
      rcases List.mem_append.1 hd with hd | hd
      · exact hw d hd
      · obtain rfl := List.mem_singleton.1 hd
        simp_all

theorem isWord_of_mem_words {cs w : List Char} (h : w ∈ words cs) : IsWord w :=
  isWord_of_mem_wordsFrom cs [] (by simp) w h

end QueryBinding.Text
