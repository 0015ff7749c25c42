import SqlAccess.Text.Blank
import SqlAccess.Text.Case

/-!
# Words

Cutting a text into words undoes joining: texts with spaces between them have the words of all
of them (`wordsOf_intercalate`).

Letter case does not get in the way of this.  A blank is its own capital form, and that of
another character has no blanks, so the words of a text in capitals are its words, in capitals
(`words_capitals`).  A text may therefore be spelled in other ways: its letters change their
case, and blanks come and go around and between its words (`Respelled`).  Its words in capitals
stay the same (`Respelled.capitalWords_eq`).

Of small letters this holds with one exception.  The Kelvin sign is its own capital form, and
its small form is that of a letter of ASCII (`respelled_smalls`).
-/

namespace SqlAccess.Text

variable {current blanks word rest chars : List Char}

/-! ## Reading words -/

theorem wordsFrom_append_blanks (h : ∀ c ∈ blanks, isBlank c = true) :
    wordsFrom [] (blanks ++ rest) = wordsFrom [] rest := by
  induction blanks with
  | nil => rfl
  | cons c blanks ih =>
      rw [List.forall_mem_cons] at h
      simp [wordsFrom, h.1, ih h.2]

theorem wordsFrom_append_word (h : ∀ c ∈ word, isBlank c = false) :
    wordsFrom current (word ++ rest) = wordsFrom (word.reverse ++ current) rest := by
  induction word generalizing current with
  | nil => rfl
  | cons c word ih =>
      rw [List.forall_mem_cons] at h
      simp [wordsFrom, h.1, ih h.2]

/-- A word that was read ends at a blank and at the end. -/
theorem wordsFrom_of_ends (hcurrent : current ≠ []) (h : ∀ c ∈ rest.head?, isBlank c = true) :
    wordsFrom current rest = current.reverse :: wordsFrom [] rest := by
  cases rest with
  | nil => simp [wordsFrom, hcurrent]
  | cons c rest =>
      have hblank : isBlank c = true := h c rfl
      simp [wordsFrom, hblank, hcurrent]

/-! ## Words of joined texts -/

theorem wordsOf_of_ne_nil (hne : word ≠ []) (h : ∀ c ∈ word, isBlank c = false) :
    wordsOf word = [word] := by
  have hread : wordsFrom [] (word ++ []) = wordsFrom (word.reverse ++ []) [] :=
    wordsFrom_append_word h
  have hends : wordsFrom word.reverse [] = word.reverse.reverse :: wordsFrom [] [] :=
    wordsFrom_of_ends (by simpa using hne) nofun
  rw [List.append_nil, List.append_nil, hends, List.reverse_reverse] at hread
  exact hread

theorem wordsFrom_append_of_blank {c : Char} (hblank : isBlank c = true) :
    wordsFrom current (chars ++ c :: rest) = wordsFrom current chars ++ wordsOf rest := by
  induction chars generalizing current with
  | nil => by_cases hcurrent : current.isEmpty <;> simp [wordsFrom, wordsOf, hblank, hcurrent]
  | cons d chars ih =>
      rw [List.cons_append]
      unfold wordsFrom
      split
      · split
        · exact ih
        · rw [ih, List.cons_append]
      · exact ih

/-- The words of texts with spaces between them are the words of the texts. -/
theorem wordsOf_intercalate (texts : List String) :
    wordsOf (" ".intercalate texts).toList = texts.flatMap fun text => wordsOf text.toList := by
  induction texts with
  | nil => rw [String.intercalate_nil]; rfl
  | cons text texts ih =>
      cases texts with
      | nil => simp
      | cons next texts =>
          rw [String.intercalate_cons_cons, String.append_assoc, String.toList_append,
            String.toList_append, List.flatMap_cons, ← ih]
          exact wordsFrom_append_of_blank (show isBlank ' ' = true by decide)

/-- Words that are joined by spaces are read again. -/
theorem words_intercalate_words (text : String) :
    words (" ".intercalate (words text)) = words text := by
  have hword : ∀ word ∈ wordsOf text.toList, wordsOf (String.ofList word).toList = [word] := by
    intro word hword
    rw [String.toList_ofList]
    exact wordsOf_of_ne_nil (ne_nil_of_mem_wordsOf hword) (not_isBlank_of_mem_wordsOf hword)
  unfold words
  rw [wordsOf_intercalate, List.flatMap_map, List.flatMap_def, List.map_congr_left hword,
    ← List.flatMap_def, List.flatMap_singleton']

/-! ## Letter case -/

/-- The characters beyond ASCII whose capital form consists of ASCII letters. -/
def asciiCapitalCodes : List Nat :=
  [0xDF, 0x131, 0x17F, 0xFB00, 0xFB01, 0xFB02, 0xFB03, 0xFB04, 0xFB05, 0xFB06]

theorem toUpper_eq_self {c : Char} (h : 128 ≤ c.toNat) : c.toUpper = c := by
  refine dif_neg fun hletter => ?_
  have hcode : c.toNat ≤ 122 := hletter.2
  omega

theorem toLower_eq_self {c : Char} (h : 128 ≤ c.toNat) : c.toLower = c := by
  refine dif_neg fun hletter => ?_
  have hcode : c.toNat ≤ 90 := hletter.2
  omega

theorem capital_eq_self {c : Char} (h : 128 ≤ c.toNat) (hcode : c.toNat ∉ asciiCapitalCodes) :
    capital c = [c] := by
  unfold capital
  split
  case h_11 => rw [toUpper_eq_self h]
  all_goals
    rename_i heq
    exact absurd (heq ▸ by decide) hcode

/-- What is to be shown of all characters is shown of those of ASCII and of the few others that
have a capital form there, one by one; the rest are their own capital forms. -/
theorem forall_capital {holds : Char → Prop} (hascii : ∀ code < 128, holds (Char.ofNat code))
    (hlisted : ∀ code ∈ asciiCapitalCodes, holds (Char.ofNat code))
    (hself : ∀ c : Char, 128 ≤ c.toNat → capital c = [c] → holds c) : ∀ c, holds c := by
  intro c
  rcases Nat.lt_or_ge c.toNat 128 with hcode | hcode
  · exact Char.ofNat_toNat c ▸ hascii c.toNat hcode
  · by_cases hmem : c.toNat ∈ asciiCapitalCodes
    · exact Char.ofNat_toNat c ▸ hlisted c.toNat hmem
    · exact hself c hcode (capital_eq_self hcode hmem)

theorem capital_of_isBlank : ∀ c : Char, isBlank c = true → capital c = [c] :=
  forall_capital (by decide +kernel) (by decide) fun _ _ hself _ => hself

theorem all_capital :
    ∀ c : Char, isBlank c = false → ((capital c).all fun d => !isBlank d) = true :=
  forall_capital (by decide +kernel) (by decide) fun _ _ hself hc => by simp [hself, hc]

theorem not_isBlank_capital {c : Char} (h : isBlank c = false) :
    ∀ d ∈ capital c, isBlank d = false := fun d hd => by
  simpa using List.all_eq_true.mp (all_capital c h) d hd

theorem capital_ne_nil : ∀ c : Char, capital c ≠ [] :=
  forall_capital (by decide +kernel) (by decide) fun _ _ hself => by simp [hself]

/-- The Kelvin sign is its own capital form, but its small form is a letter of ASCII. -/
theorem capital_small : ∀ c : Char, c.toNat ≠ 0x212A → capital (small c) = capital c :=
  forall_capital (by decide +kernel) (by decide) fun c hcode _ hkelvin => by
    rw [small, if_neg hkelvin, toLower_eq_self hcode]

/-! ## Words in capitals -/

theorem wordsFrom_flatMap_capital (read chars : List Char) :
    wordsFrom (read.flatMap capital).reverse (chars.flatMap capital) =
      (wordsFrom read.reverse chars).map fun word => word.flatMap capital := by
  induction chars generalizing read with
  | nil =>
      cases read with
      | nil => rfl
      | cons c read => simp [wordsFrom, capital_ne_nil]
  | cons c chars ih =>
      rw [List.flatMap_cons]
      cases hc : isBlank c with
      | false =>
          have hread := ih (read ++ [c])
          rw [wordsFrom_append_word (not_isBlank_capital hc)]
          simpa [wordsFrom, hc] using hread
      | true =>
          have hread := ih []
          cases read with
          | nil => simpa [capital_of_isBlank c hc, wordsFrom, hc] using hread
          | cons d read =>
              simpa [capital_of_isBlank c hc, wordsFrom, hc, capital_ne_nil] using hread

theorem wordsOf_flatMap_capital (chars : List Char) :
    wordsOf (chars.flatMap capital) = (wordsOf chars).map fun word => word.flatMap capital :=
  wordsFrom_flatMap_capital [] chars

theorem capitals_ofList (chars : List Char) :
    capitals (String.ofList chars) = String.ofList (chars.flatMap capital) := by
  rw [capitals, String.toList_ofList]

/-- The words of a text, in capitals. -/
def capitalWords (text : String) : List String :=
  (words text).map capitals

theorem words_capitals (text : String) : words (capitals text) = capitalWords text := by
  unfold capitalWords words capitals
  rw [String.toList_ofList, wordsOf_flatMap_capital, List.map_map, List.map_map]
  exact List.map_congr_left fun word _ => (capitals_ofList word).symm

theorem capitals_intercalate (texts : List String) :
    capitals (" ".intercalate texts) = " ".intercalate (texts.map capitals) := by
  induction texts with
  | nil => rw [String.intercalate_nil]; rfl
  | cons text texts ih =>
      cases texts with
      | nil => simp
      | cons next texts =>
          rw [List.map_cons] at ih ⊢
          rw [List.map_cons, String.intercalate_cons_cons, String.intercalate_cons_cons, ← ih]
          simp [capitals, ← String.toList_inj]
          rfl

theorem flatten_wordsFrom (current chars : List Char)
    (hcurrent : ∀ c ∈ current, isBlank c = false) :
    (wordsFrom current chars).flatten = current.reverse ++ chars.filter fun c => !isBlank c := by
  induction chars generalizing current with
  | nil => cases current <;> simp [wordsFrom]
  | cons c chars ih =>
      cases hc : isBlank c with
      | false =>
          have hread := ih (c :: current) (by simpa [hc] using hcurrent)
          simpa [wordsFrom, hc] using hread
      | true =>
          have hread := ih [] (by simp)
          cases current <;> simpa [wordsFrom, hc] using hread

/-- The words of a text are what it has besides blanks. -/
theorem flatten_wordsOf (chars : List Char) :
    (wordsOf chars).flatten = chars.filter fun c => !isBlank c :=
  flatten_wordsFrom [] chars (by simp)

/-- A character that stays beyond ASCII in capitals. -/
structure IsForeign (c : Char) : Prop where
  beyond : 128 ≤ c.toNat
  ink : isBlank c = false
  capital_eq : capital c = [c]

/-- It is found again in the words of a text in capitals. -/
theorem IsForeign.mem_capitalWords {c : Char} {text : String} (hc : IsForeign c)
    (hmem : c ∈ text.toList) : ∃ word ∈ capitalWords text, c ∈ word.toList := by
  have hink : c ∈ (wordsOf text.toList).flatten := by
    rw [flatten_wordsOf]
    exact List.mem_filter.mpr ⟨hmem, by simp [hc.ink]⟩
  obtain ⟨word, hword, hin⟩ := List.mem_flatten.mp hink
  refine ⟨capitals (String.ofList word), ?_, ?_⟩
  · exact List.mem_map_of_mem (List.mem_map_of_mem hword)
  · rw [capitals_ofList, String.toList_ofList]
    exact List.mem_flatMap.mpr ⟨c, hin, by simp [hc.capital_eq]⟩

/-! ## Respelling -/

theorem wordsOf_append_of_blank_end (h : ∀ c ∈ chars.getLast?, isBlank c = true) :
    wordsOf (chars ++ rest) = wordsOf chars ++ wordsOf rest := by
  rcases List.eq_nil_or_concat chars with rfl | ⟨front, c, rfl⟩
  · rfl
  · have hc : isBlank c = true := h c (by simp)
    have hfront : wordsOf (front.concat c) = wordsOf front := by
      rw [List.concat_eq_append]
      exact (wordsFrom_append_of_blank hc).trans (List.append_nil _)
    calc wordsOf (front.concat c ++ rest)
        = wordsOf (front ++ c :: rest) := by rw [List.concat_append]
      _ = wordsOf front ++ wordsOf rest := wordsFrom_append_of_blank hc
      _ = wordsOf (front.concat c) ++ wordsOf rest := by rw [hfront]

theorem wordsOf_append_of_blank_front (h : ∀ c ∈ rest.head?, isBlank c = true) :
    wordsOf (chars ++ rest) = wordsOf chars ++ wordsOf rest := by
  cases rest with
  | nil => simp [wordsOf, wordsFrom]
  | cons c rest =>
      have hc : isBlank c = true := h c rfl
      have hrest : wordsOf (c :: rest) = wordsOf rest := by simp [wordsOf, wordsFrom, hc]
      calc wordsOf (chars ++ c :: rest)
          = wordsOf chars ++ wordsOf rest := wordsFrom_append_of_blank hc
        _ = wordsOf chars ++ wordsOf (c :: rest) := by rw [hrest]

/-- A text is spelled in another way: letters change their case, which leaves their capital
forms as they are, and blanks come where words begin or end, or where there are blanks. -/
inductive Respelled : List Char → List Char → Prop
  | recased {text other : List Char} (h : text.flatMap capital = other.flatMap capital) :
      Respelled text other
  | spaced {before behind : List Char} {blank : Char} (hblank : isBlank blank = true)
      (hbetween : (∀ c ∈ before.getLast?, isBlank c = true) ∨
        ∀ c ∈ behind.head?, isBlank c = true) :
      Respelled (before ++ behind) (before ++ blank :: behind)
  | symm {text other : List Char} (h : Respelled text other) : Respelled other text
  | trans {text between other : List Char} (h : Respelled text between)
      (h' : Respelled between other) : Respelled text other

theorem Respelled.wordsOf_eq {others : List Char} (h : Respelled chars others) :
    wordsOf (chars.flatMap capital) = wordsOf (others.flatMap capital) := by
  induction h with
  | recased h => rw [h]
  | @spaced before behind blank hblank hbetween =>
      have hwith : wordsOf (before ++ blank :: behind) = wordsOf before ++ wordsOf behind :=
        wordsFrom_append_of_blank hblank
      have hwithout : wordsOf (before ++ behind) = wordsOf before ++ wordsOf behind := by
        rcases hbetween with hend | hfront
        · exact wordsOf_append_of_blank_end hend
        · exact wordsOf_append_of_blank_front hfront
      rw [wordsOf_flatMap_capital, wordsOf_flatMap_capital, hwith, hwithout]
  | symm _ ih => exact ih.symm
  | trans _ _ ih ih' => exact ih.trans ih'

/-- Texts that are spelled in different ways have the same words in capitals. -/
theorem Respelled.capitalWords_eq {text other : String} (h : Respelled text.toList other.toList) :
    capitalWords text = capitalWords other := by
  rw [← words_capitals, ← words_capitals, words, words, capitals, capitals, String.toList_ofList,
    String.toList_ofList, h.wordsOf_eq]

/-- Putting a text in small letters respells it, except for the Kelvin sign. -/
theorem respelled_smalls {text : String} (h : ∀ c ∈ text.toList, c.toNat ≠ 0x212A) :
    Respelled text.toList (smalls text).toList := by
  refine .recased ?_
  rw [smalls, String.toList_ofList, List.flatMap_map, List.flatMap_def, List.flatMap_def]
  refine congrArg List.flatten (List.map_congr_left fun c hc => ?_)
  exact (capital_small c (h c hc)).symm

end SqlAccess.Text
