import SqlAccess.Entity.Finding
import SqlAccess.Proofs.Cursor.First
import SqlAccess.Proofs.Text.Words
import SqlAccess.Workload.World

/-!
# Finding instances

To find an instance one question is asked, which compares a column with a value
(`Entity.comparing`).  The column and the operator are in its text, and the value travels beside
it; the instance is made of the first row of the answer (`findWhere_apply`).  Nothing is asked of
a column that cannot be written.

The operator is given as a text.  It names one of a fixed list if it has the same words, in
capitals (`NamesOperator`), and what gets into the question is the operator of the list and not
the text.  Thus blanks do not matter, and neither does letter case as far as the capitals stay the
same.  A text with a character that stays beyond ASCII in capitals names nothing
(`not_namesOperator_of_isForeign`), even if in small letters it would name an operator.

Main result: texts with the same words in capitals, among them those that differ in their spelling
alone, either all ask the one question with the same operator, whatever the value, or they are all
refused before anything is asked (`findBy_spellings`).
-/

namespace SqlAccess

open SqlAccess.Action
open SqlAccess.Text (words capitals smalls capitalWords words_capitals capitals_intercalate
  words_intercalate_words Respelled IsForeign)

/-! ## Operators -/

/-- A text names a comparison operator. -/
structure NamesOperator (text operator : String) : Prop where
  mem : operator ∈ comparisonOperators
  words_eq : capitalWords text = words operator

theorem intercalate_words_of_mem :
    ∀ operator ∈ comparisonOperators, " ".intercalate (words operator) = operator := by
  decide +kernel

theorem ascii_of_mem : ∀ operator ∈ comparisonOperators,
    ∀ word ∈ words operator, (word.toList.all fun c => c.toNat < 128) = true := by
  decide +kernel

theorem operator?_eq_some_iff {text operator : String} :
    operator? text = some operator ↔ NamesOperator text operator := by
  -- the words that are compared are those of the text, whichever way they are put in capitals
  have hspelled : words (capitals (" ".intercalate (words text))) = capitalWords text := by
    calc words (capitals (" ".intercalate (words text)))
        = (words (" ".intercalate (words text))).map capitals := words_capitals _
      _ = (words text).map capitals := by rw [words_intercalate_words]
  dsimp only [operator?]
  rw [Option.ite_none_right_eq_some, List.contains_iff_mem, Option.some_inj]
  constructor
  · rintro ⟨hmem, rfl⟩
    exact ⟨hmem, hspelled.symm⟩
  · rintro ⟨hmem, hwords⟩
    have hoperator : capitals (" ".intercalate (words text)) = operator := by
      calc capitals (" ".intercalate (words text))
          = " ".intercalate (capitalWords text) := capitals_intercalate _
        _ = " ".intercalate (words operator) := by rw [hwords]
        _ = operator := intercalate_words_of_mem operator hmem
    exact ⟨hoperator ▸ hmem, hoperator⟩

theorem NamesOperator.unique {text operator other : String} (h : NamesOperator text operator)
    (h' : NamesOperator text other) : operator = other :=
  Option.some.inj ((operator?_eq_some_iff.mpr h).symm.trans (operator?_eq_some_iff.mpr h'))

theorem NamesOperator.of_capitalWords_eq {text other operator : String}
    (h : NamesOperator text operator) (hwords : capitalWords other = capitalWords text) :
    NamesOperator other operator :=
  ⟨h.mem, hwords.trans h.words_eq⟩

theorem not_namesOperator_of_isForeign {text operator : String} {c : Char} (hc : IsForeign c)
    (hmem : c ∈ text.toList) : ¬ NamesOperator text operator := by
  intro h
  obtain ⟨word, hword, hin⟩ := hc.mem_capitalWords hmem
  rw [h.words_eq] at hword
  have hascii : c.toNat < 128 :=
    of_decide_eq_true (List.all_eq_true.mp (ascii_of_mem operator h.mem word hword) c hin)
  exact absurd hc.beyond (Nat.not_le_of_lt hascii)

/-- What is named is named in small letters, too: the Kelvin sign is in no operator. -/
theorem NamesOperator.respelled_smalls {text operator : String} (h : NamesOperator text operator) :
    Respelled text.toList (smalls text).toList := by
  refine Text.respelled_smalls fun c hmem hcode => ?_
  have hforeign : IsForeign c := by
    rw [← Char.ofNat_toNat c, hcode]
    exact ⟨by decide, by decide, by decide⟩
  exact not_namesOperator_of_isForeign hforeign hmem h

/-! ## The question -/

theorem Query.pageClauses_single {query : Query} (hpage : query.page = none) :
    query.single.pageClauses = .ok ["LIMIT 1"] := by
  have hoffset : query.single.offset = none := by
    unfold single offset
    rw [hpage]
  unfold pageClauses
  rw [mapM_numeral_single, hoffset]
  rfl

namespace Entity

/-- The question for the first row whose column compares with a value. -/
def comparing (entity : Entity) (column operator : String) (value : Value) : Statement :=
  ⟨s!"SELECT * FROM {entity.table} WHERE {column} {operator} ? LIMIT 1", [value]⟩

/-- What the answer to the question gives. -/
def given (entity : Entity) (found : Except Fault (List Outcome)) :
    Except Fault (Option Instance) := do
  let outcomes ← found
  let instances ← (outcomes.headD {}).rows.mapM entity.instantiate
  return instances.head?

theorem isBlankText_of_placeholder {text : String} (h : '?' ∈ text.toList) :
    Text.isBlankText text = false :=
  List.all_eq_false.mpr ⟨'?', h, by decide⟩

/-- A comparison is never blank. -/
theorem clauses_comparison (keyword column operator : String) (value : Value) :
    Condition.clauses keyword (comparison column operator value).filter =
      [s!"{keyword} {column} {operator} ?"] := by
  let text := s!"{column} {operator} ?"
  have hblank : Text.isBlankText text = false := by
    refine isBlankText_of_placeholder ?_
    rw [String.toList_append]
    exact List.mem_append_right _ (by decide)
  change (if Text.isBlankText text then [] else [s!"{keyword} {text}"]) = _
  rw [hblank, if_neg Bool.false_ne_true]
  simp [text, ← String.toList_inj, toString]

theorem select_comparing (entity : Entity) (column operator : String) (value : Value) :
    Statement.select entity.table (comparison column operator value).single =
      .ok (entity.comparing column operator value) := by
  have hparts : Query.parts entity.table (comparison column operator value).single =
      ["SELECT", "*", s!"FROM {entity.table}"] ++
        Condition.clauses "WHERE" (comparison column operator value).filter := by
    unfold Query.parts
    simp [Query.single, comparison, Query.resultColumns, Query.groupingClauses,
      Query.orderClauses, Selection.text, Condition.clauses]
  unfold Statement.select
  rw [Query.pageClauses_single rfl, hparts, clauses_comparison]
  refine congrArg Except.ok (congrArg₂ Statement.mk ?_ rfl)
  simp [String.intercalate_cons_cons, ← String.toList_inj, toString]

variable {ω : Type} [Engine ω] {entity : Entity} {database : Database}

theorem findWhere_eq (hbound : entity.bound = .ok database) (column operator : String)
    (value : Value) :
    (entity.findWhere column operator value : Action ω (Option Instance)) = (do
      let rows ← database.rows (entity.comparing column operator value)
      let instances ← (rows.mapM entity.instantiate : Except Fault (List Instance))
      return instances.head?) := by
  let cursor : Cursor Instance :=
    { database := database, table := entity.table,
      query := comparison column operator value, form := entity.instantiate }
  have hcursor : entity.cursor (comparison column operator value) = .ok cursor := by
    rw [Entity.cursor, hbound]
    rfl
  have hstatement : cursor.forFirst.statement = .ok (entity.comparing column operator value) :=
    select_comparing entity column operator value
  have hget : (cursor.forFirst.get : Action ω (List Instance)) = (do
      let rows ← database.rows (entity.comparing column operator value)
      (rows.mapM entity.instantiate : Except Fault (List Instance))) := by
    unfold Cursor.get
    rw [hstatement]
    rfl
  unfold findWhere
  rw [hcursor, lift_ok_bind]
  unfold Cursor.first
  rw [hget]
  exact bind_assoc _ _ _

/-- To find an instance, one question is asked in a batch of its own. -/
theorem findWhere_apply (hbound : entity.bound = .ok database) (column operator : String)
    (value : Value) (session : Session ω) :
    entity.findWhere column operator value session =
      (entity.given (runBatch database.name [entity.comparing column operator value] session).1,
        (runBatch database.name [entity.comparing column operator value] session).2) := by
  rw [findWhere_eq hbound]
  unfold Database.rows Database.execute Database.executeAll
  simp only [bind_apply]
  rcases runBatch database.name [entity.comparing column operator value] session with
    ⟨fault | outcomes, after⟩
  · rfl
  · simp only [after_ok, pure_apply]
    change ((liftM ((outcomes.headD {}).rows.mapM entity.instantiate) >>= fun instances =>
      pure instances.head? : Action ω (Option Instance)) after) =
        ((outcomes.headD {}).rows.mapM entity.instantiate >>= fun instances =>
          pure instances.head?, after)
    cases (outcomes.headD {}).rows.mapM entity.instantiate <;> rfl

/-! ## Operators that are given as texts -/

/-- By a text the one question is asked, with an operator in its place, whatever the value; but
nothing is asked of a column that cannot be written. -/
def AsksWith (ω : Type) [Engine ω] (entity : Entity) (database : Database) (column : Value)
    (text operator : String) : Prop :=
  ∀ (value : Value) (session : Session ω), entity.findBy column (.text text) value session =
    if column.isWritable then
      (entity.given
          (runBatch database.name [entity.comparing column.display operator value] session).1,
        (runBatch database.name [entity.comparing column.display operator value] session).2)
    else (.error (.misfit .longInteger), session)

/-- A text is refused before anything is asked, whatever the value. -/
def Refuses (ω : Type) [Engine ω] (entity : Entity) (column : Value) (text : String) : Prop :=
  ∀ (value : Value) (session : Session ω), entity.findBy column (.text text) value session =
    (.error (.unsupportedOperator (.text text)), session)

theorem asksWith_of_namesOperator (hbound : entity.bound = .ok database) {text operator : String}
    (h : NamesOperator text operator) (column : Value) :
    entity.AsksWith ω database column text operator := by
  intro value session
  have hoperator : (Value.text text).operator = .ok operator := by
    simp only [Value.operator, operator?_eq_some_iff.mpr h]
  unfold findBy Value.checkWritable
  rw [hoperator, lift_ok_bind, hbound, lift_ok_bind]
  split
  · exact findWhere_apply hbound column.display operator value session
  · rfl

theorem refuses_of_not_namesOperator {text : String} (h : ∀ operator, ¬ NamesOperator text operator)
    (entity : Entity) (column : Value) : entity.Refuses ω column text := by
  intro value session
  have hnone : operator? text = none :=
    Option.eq_none_iff_forall_ne_some.mpr fun operator hsome =>
      h operator (operator?_eq_some_iff.mp hsome)
  have hoperator : (Value.text text).operator = .error (.unsupportedOperator (.text text)) := by
    simp only [Value.operator, hnone]
  unfold findBy
  rw [hoperator]
  rfl

/-- A text that names an operator asks the question with it, and so does every text with the
same words in capitals: every one that is spelled in another way, and the one in small letters.
Another text is refused, with all that have its words in capitals, and so is every text with a
character that stays beyond ASCII in capitals. -/
theorem findBy_spellings (hbound : entity.bound = .ok database) (column : Value) (text : String) :
    ((∃ operator, NamesOperator text operator ∧
        (∀ other, NamesOperator text other → other = operator) ∧
        (∀ other, capitalWords other = capitalWords text →
          entity.AsksWith ω database column other operator) ∧
        (∀ other, Respelled text.toList other.toList →
          entity.AsksWith ω database column other operator) ∧
        entity.AsksWith ω database column (smalls text) operator) ∨
      ((∀ operator, ¬ NamesOperator text operator) ∧
        (∀ other, capitalWords other = capitalWords text → entity.Refuses ω column other) ∧
        ∀ other, Respelled text.toList other.toList → entity.Refuses ω column other)) ∧
    ((∃ c ∈ text.toList, IsForeign c) → entity.Refuses ω column text) := by
  refine ⟨?_, ?_⟩
  · by_cases hnames : ∃ operator, NamesOperator text operator
    · obtain ⟨operator, h⟩ := hnames
      have hasks : ∀ other, capitalWords other = capitalWords text →
          entity.AsksWith ω database column other operator := fun other hwords =>
        asksWith_of_namesOperator hbound (h.of_capitalWords_eq hwords) column
      exact .inl ⟨operator, h, fun other h' => h'.unique h, hasks,
        fun other hspelling => hasks other hspelling.capitalWords_eq.symm,
        hasks _ h.respelled_smalls.capitalWords_eq.symm⟩
    · have hnone : ∀ operator, ¬ NamesOperator text operator := not_exists.mp hnames
      have hrefuses : ∀ other, capitalWords other = capitalWords text →
          entity.Refuses ω column other := fun other hwords =>
        refuses_of_not_namesOperator
          (fun operator h => hnone operator (h.of_capitalWords_eq hwords.symm)) entity column
      exact .inr ⟨hnone, hrefuses, fun other hspelling =>
        hrefuses other hspelling.capitalWords_eq.symm⟩
  · rintro ⟨c, hmem, hc⟩
    exact refuses_of_not_namesOperator (fun _ => not_namesOperator_of_isForeign hc hmem) entity
      column

/-- The table of animals. -/
def animals : Entity where
  name := "Animal"
  table := "animals"
  database := some ⟨"zoo.db"⟩

/-- A text with a letter beyond ASCII that is a letter of ASCII in capitals, and with blanks
around and between its words. -/
theorem findBy_spellings_isNot :
    let database : Database := ⟨"zoo.db"⟩
    let text := " iſ\tnOt "
    animals.bound = .ok database ∧ NamesOperator text "IS NOT" ∧
    ((∃ operator, NamesOperator text operator ∧
        (∀ other, NamesOperator text other → other = operator) ∧
        (∀ other, capitalWords other = capitalWords text →
          animals.AsksWith Workload.World database (.text "color") other operator) ∧
        (∀ other, Respelled text.toList other.toList →
          animals.AsksWith Workload.World database (.text "color") other operator) ∧
        animals.AsksWith Workload.World database (.text "color") (smalls text) operator) ∨
      ((∀ operator, ¬ NamesOperator text operator) ∧
        (∀ other, capitalWords other = capitalWords text →
          animals.Refuses Workload.World (.text "color") other) ∧
        ∀ other, Respelled text.toList other.toList →
          animals.Refuses Workload.World (.text "color") other)) ∧
    ((∃ c ∈ text.toList, IsForeign c) → animals.Refuses Workload.World (.text "color") text) := by
  have hbound : animals.bound = .ok ⟨"zoo.db"⟩ := rfl
  exact ⟨hbound, ⟨by decide, by decide⟩, findBy_spellings hbound (.text "color") " iſ\tnOt "⟩

/-- The Kelvin sign is no letter of an operator, but in small letters it is one.  So a text with
it is refused, and in small letters the same text asks the question. -/
theorem findBy_kelvin :
    animals.bound = .ok ⟨"zoo.db"⟩ ∧ smalls "li\u212Ae" = "like" ∧
    animals.Refuses Workload.World (.text "color") "li\u212Ae" ∧
    animals.AsksWith Workload.World ⟨"zoo.db"⟩ (.text "color") "like" "LIKE" := by
  have hbound : animals.bound = .ok ⟨"zoo.db"⟩ := rfl
  have hforeign : IsForeign '\u212A' := ⟨by decide, by decide, by decide⟩
  refine ⟨hbound, by decide, ?_, ?_⟩
  · exact refuses_of_not_namesOperator
      (fun _ => not_namesOperator_of_isForeign hforeign (by decide)) animals (.text "color")
  · exact asksWith_of_namesOperator hbound ⟨by decide, by decide⟩ (.text "color")

end Entity

end SqlAccess
