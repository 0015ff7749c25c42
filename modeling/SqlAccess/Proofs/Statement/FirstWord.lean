import Mathlib.Data.List.TakeWhile
import SqlAccess.Proofs.Text.Words
import SqlAccess.Statement.Control

/-!
# The first word of a statement

Whether a statement is an insertion is judged by its first word: blanks may stand
before it, and it reaches up to the next blank or to the end (`IsFirstWord`).  This is
the word that comes first when a text is cut into words
(`head?_wordsOf_eq_some_iff`).
-/

namespace SqlAccess

namespace Text

variable {word chars : List Char}

/-- A word stands in front, with nothing but blanks before it. -/
def IsFirstWord (word chars : List Char) : Prop :=
  ∃ blanks rest, chars = blanks ++ (word ++ rest) ∧ word ≠ [] ∧
    (∀ c ∈ blanks, isBlank c = true) ∧ (∀ c ∈ word, isBlank c = false) ∧
    ∀ c ∈ rest.head?, isBlank c = true

theorem IsFirstWord.head?_wordsOf (h : IsFirstWord word chars) :
    (wordsOf chars).head? = some word := by
  obtain ⟨blanks, rest, rfl, hne, hblanks, hword, hrest⟩ := h
  have hcurrent : word.reverse ++ [] ≠ [] := by simpa using hne
  rw [wordsOf, wordsFrom_append_blanks hblanks, wordsFrom_append_word hword,
    wordsFrom_of_ends hcurrent hrest]
  simp

/-- A text that is not blank has a first word. -/
theorem exists_isFirstWord {c : Char} (hc : c ∈ chars) (hblank : isBlank c = false) :
    ∃ word, IsFirstWord word chars := by
  have hchars := List.takeWhile_append_dropWhile (p := isBlank) (l := chars)
  cases htail : chars.dropWhile isBlank with
  | nil =>
      have hall := List.dropWhile_eq_nil_iff.mp htail c hc
      rw [hblank] at hall
      cases hall
  | cons first tail =>
      have hfirst : isBlank first = false := by
        have hhead := List.head?_dropWhile_not isBlank chars
        simpa [htail] using hhead
      let isInk := fun c => !isBlank c
      refine ⟨(first :: tail).takeWhile isInk, chars.takeWhile isBlank,
        (first :: tail).dropWhile isInk, ?_, ?_, ?_, ?_, ?_⟩
      · rw [List.takeWhile_append_dropWhile, ← htail, hchars]
      · simp [isInk, hfirst]
      · exact fun c hc => List.mem_takeWhile_imp hc
      · exact fun c hc => by simpa [isInk] using List.mem_takeWhile_imp hc
      · intro c hc
        have hhead := List.head?_dropWhile_not isInk (first :: tail)
        rw [Option.mem_def.mp hc] at hhead
        simpa [isInk] using hhead

theorem head?_wordsOf_eq_some_iff : (wordsOf chars).head? = some word ↔ IsFirstWord word chars := by
  refine ⟨fun h => ?_, IsFirstWord.head?_wordsOf⟩
  by_cases hink : ∃ c ∈ chars, isBlank c = false
  · obtain ⟨c, hc, hblank⟩ := hink
    obtain ⟨found, hfound⟩ := exists_isFirstWord hc hblank
    obtain rfl := Option.some.inj (hfound.head?_wordsOf.symm.trans h)
    exact hfound
  · have hblank : ∀ c ∈ chars, isBlank c = true := by simpa using hink
    have hnone : wordsFrom [] (chars ++ []) = [] := wordsFrom_append_blanks hblank
    rw [List.append_nil] at hnone
    rw [wordsOf, hnone] at h
    cases h

end Text

open Text (IsFirstWord capitals)

namespace Statement

/-- The first word of a statement is a keyword, in any letter case. -/
def OpensWith (statement : Statement) (keyword : String) : Prop :=
  ∃ word, IsFirstWord word statement.sql.toList ∧ capitals (String.ofList word) = keyword

theorem isInsertion_iff {statement : Statement} :
    statement.isInsertion = true ↔
      statement.OpensWith "INSERT" ∨ statement.OpensWith "REPLACE" := by
  unfold isInsertion OpensWith
  rw [Text.words]
  simp only [← Text.head?_wordsOf_eq_some_iff]
  cases Text.wordsOf statement.sql.toList with
  | nil => simp
  | cons word words => simp

end Statement

end SqlAccess
