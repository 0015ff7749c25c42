import SqlAccess.Proofs.Schema.CopiedColumns
import SqlAccess.Proofs.Text.Token

/-!
# Defaults of a copy

The engine tells of a default by the text of its expression, without the parentheses that
were around it.  But behind `DEFAULT` an expression needs them, unless it is a literal, a
signed number or a single word (`IsOperand`).  A copy has the text there as it is.

What is said of a column besides its name and its type is read as a list of constraints
(`Reads`).  Where one operand ends is not a matter of choice (`IsOperand.eq_of_append_eq`):
it is followed by another constraint or by nothing.  So the definition of a column says what
was told of it exactly if the text of its default is an operand, and it says nothing at all
if something else comes behind the operand that the text begins with (`duplicate_defaults`).
This is what becomes of calls (`duplicate_stampedColumn`).
-/

namespace SqlAccess

open SqlAccess.Text (Enclosure IsNested Token tokens trimEnd)

/-! ## Constraints of a column -/

/-- A word that is spelled like a keyword, in whatever case. -/
def Text.Token.IsKeyword (keyword : String) : Token → Prop
  | .word spelling => asciiSmalls spelling = keyword
  | .number _ | .enclosed .. | .mark _ => False

instance (keyword : String) : (token : Token) → Decidable (token.IsKeyword keyword)
  | .word _ => inferInstanceAs (Decidable (_ = _))
  | .number _ | .enclosed .. | .mark _ => inferInstanceAs (Decidable False)

theorem Text.Token.IsKeyword.unique {keyword other : String} {token : Token}
    (h : token.IsKeyword keyword) (hother : token.IsKeyword other) : keyword = other := by
  cases token with
  | word spelling => exact Eq.trans (Eq.symm h) hother
  | _ => exact h.elim

/-- The keywords that open constraints of other kinds. -/
def otherOpenings : List String :=
  ["constraint", "null", "unique", "check", "references", "collate", "generated", "as"]

/-- A token opens some constraint. -/
def Text.Token.OpensConstraint (token : Token) : Prop :=
  ∃ keyword ∈ ["not", "default", "primary"] ++ otherOpenings, token.IsKeyword keyword

instance (token : Token) : Decidable token.OpensConstraint :=
  inferInstanceAs (Decidable (∃ keyword ∈ _, _))

/-- The tokens that may stand behind `DEFAULT`. -/
inductive IsOperand : List Token → Prop where
  | word (spelling : String) : IsOperand [.word spelling]
  | number (spelling : String) : IsOperand [.number spelling]
  | literal (enclosure : Enclosure) (content : String) : IsOperand [.enclosed enclosure content]
  | signed {sign : Char} (spelling : String) :
      sign = '+' ∨ sign = '-' → IsOperand [.mark sign, .number spelling]
  | group {expression : List Token} :
      expression ≠ [] → IsNested expression →
      IsOperand (.mark '(' :: (expression ++ [.mark ')']))

/-- An operand denotes an expression: it is this expression, or has it in parentheses. -/
inductive Denotes (expression : List Token) : List Token → Prop where
  | bare : Denotes expression expression
  | group : Denotes expression (.mark '(' :: (expression ++ [.mark ')']))

/-- What the definition of a column may say of it besides its name and its type. -/
inductive Constraint where
  | notNull
  | default (operand : List Token)
  | primaryKey
  | other (found : List Token)

/-- Tokens are a list of constraints, one behind the other.  Of the other kinds it is only
known how they are opened. -/
inductive Reads : List Token → List Constraint → Prop where
  | nil : Reads [] []
  | notNull {first second : Token} {rest : List Token} {constraints : List Constraint} :
      first.IsKeyword "not" → second.IsKeyword "null" → Reads rest constraints →
      Reads (first :: second :: rest) (.notNull :: constraints)
  | default {first : Token} {found operand rest : List Token} {constraints : List Constraint} :
      first.IsKeyword "default" → IsOperand operand → found = operand ++ rest →
      Reads rest constraints → Reads (first :: found) (.default operand :: constraints)
  | primaryKey {first second : Token} {rest : List Token} {constraints : List Constraint} :
      first.IsKeyword "primary" → second.IsKeyword "key" → Reads rest constraints →
      Reads (first :: second :: rest) (.primaryKey :: constraints)
  | other {keyword : String} {first : Token} {found others rest : List Token}
      {constraints : List Constraint} :
      keyword ∈ otherOpenings → first.IsKeyword keyword → found = others ++ rest →
      Reads rest constraints → Reads (first :: found) (.other (first :: others) :: constraints)

/-- A text says constraints. -/
def Says (text : String) (constraints : List Constraint) : Prop :=
  ∃ found ∈ tokens text, Reads found constraints

section

variable {operand operand' rest rest' found : List Token} {constraints : List Constraint}

/-- An operand ends where it ends, whatever comes behind it. -/
theorem IsOperand.eq_of_append_eq (h : IsOperand operand) (h' : IsOperand operand')
    (heq : operand ++ rest = operand' ++ rest') : operand = operand' ∧ rest = rest' := by
  cases h with
  | group hne hnested =>
      cases h' with
      | group hne' hnested' =>
          simp only [List.cons_append, List.append_assoc, List.nil_append, List.cons.injEq,
            true_and] at heq
          obtain ⟨rfl, rfl⟩ := hnested.eq_of_append_eq hnested' heq
          exact ⟨rfl, rfl⟩
      | signed spelling hsign => rcases hsign with rfl | rfl <;> simp at heq
      | _ => simp at heq
  | signed spelling hsign =>
      cases h' with
      | signed spelling' hsign' => simpa [and_assoc] using heq
      | group hne' hnested' => rcases hsign with rfl | rfl <;> simp at heq
      | _ => simp at heq
  | _ => cases h' <;> simp_all

theorem Reads.opensConstraint {token : Token} (h : Reads (token :: rest) constraints) :
    token.OpensConstraint := by
  cases h with
  | notNull hfirst _ _ => exact ⟨"not", by decide, hfirst⟩
  | default hfirst _ _ _ => exact ⟨"default", by decide, hfirst⟩
  | primaryKey hfirst _ _ => exact ⟨"primary", by decide, hfirst⟩
  | other hkeyword hfirst _ _ => exact ⟨_, List.mem_append_right _ hkeyword, hfirst⟩

/-- What `DEFAULT` opens begins with an operand. -/
theorem Reads.exists_of_default {first : Token} (h : Reads (first :: found) constraints)
    (hfirst : first.IsKeyword "default") :
    ∃ operand rest others, IsOperand operand ∧ found = operand ++ rest ∧ Reads rest others ∧
      constraints = .default operand :: others := by
  cases h with
  | notNull hnot _ _ => exact absurd (hnot.unique hfirst) (by decide)
  | default _ hoperand hsplit hrest => exact ⟨_, _, _, hoperand, hsplit, hrest, rfl⟩
  | primaryKey hprimary _ _ => exact absurd (hprimary.unique hfirst) (by decide)
  | other hkeyword hother _ _ => exact absurd (hother.unique hfirst ▸ hkeyword) (by decide)

theorem Reads.exists_of_not {first second : Token}
    (h : Reads (first :: second :: found) constraints) (hfirst : first.IsKeyword "not") :
    ∃ others, Reads found others ∧ constraints = .notNull :: others := by
  cases h with
  | notNull _ _ hrest => exact ⟨_, hrest, rfl⟩
  | default hdefault _ _ _ => exact absurd (hdefault.unique hfirst) (by decide)
  | primaryKey hprimary _ _ => exact absurd (hprimary.unique hfirst) (by decide)
  | other hkeyword hother _ _ => exact absurd (hother.unique hfirst ▸ hkeyword) (by decide)

end

namespace ColumnInfo

variable {keys : List ColumnInfo} {column : ColumnInfo} {text : String}
  {expression operand : List Token} {constraints : List Constraint}

/-! ## What is said of a column -/

/-- What is said of a column behind its name and its type. -/
def clauses (keys : List ColumnInfo) (column : ColumnInfo) : String :=
  " ".intercalate (column.constraints keys)

/-- What was told of a column whose default has an operand. -/
def toldConstraints (keys : List ColumnInfo) (column : ColumnInfo) (operand : List Token) :
    List Constraint :=
  (if column.nullable then [] else [.notNull]) ++ .default operand ::
    if keys = [column] then [.primaryKey] else []

/-- The tokens in front of the default of a column. -/
def tokensBefore (column : ColumnInfo) : List Token :=
  if column.nullable then [] else [.word "NOT", .word "NULL"]

/-- The tokens behind it. -/
def tokensBehind (keys : List ColumnInfo) (column : ColumnInfo) : List Token :=
  if keys = [column] then [.word "PRIMARY", .word "KEY"] else []

/-- The text of the default of a column stands in its definition as it is. -/
structure HasDefault (keys : List ColumnInfo) (column : ColumnInfo) (text definition : String) :
    Prop where
  definition_eq : definition = trimEnd column.heading ++ " " ++ column.clauses keys
  says_iff : (∃ expression ∈ tokens text, ∃ operand, Denotes expression operand ∧
      Says (column.clauses keys) (column.toldConstraints keys operand)) ↔
    ∃ expression ∈ tokens text, IsOperand expression
  says_nothing : ∀ operand token rest, tokens text = some (operand ++ token :: rest) →
    IsOperand operand → ¬ token.OpensConstraint →
      ∀ constraints, ¬ Says (column.clauses keys) constraints

theorem tokens_append_key (text : String) :
    tokens (text ++ " PRIMARY KEY") =
      (tokens text).map fun found => found ++ [.word "PRIMARY", .word "KEY"] := by
  have hkey : tokens "PRIMARY KEY" = some [.word "PRIMARY", .word "KEY"] := by decide +kernel
  have hall : " PRIMARY KEY".toList.all (Text.IsSilent ·) := by decide +kernel
  have hsilent : ∀ c ∈ " PRIMARY KEY".toList, Text.IsSilent c := fun c hc =>
    of_decide_eq_true (List.all_eq_true.mp hall c hc)
  cases hfound : tokens text with
  -- what has not ended takes up the keywords too, and they do not close it
  | none => exact Text.tokens_append_eq_none hfound hsilent
  | some found =>
      have hsplit : text ++ " PRIMARY KEY" = text ++ " " ++ "PRIMARY KEY" := by
        rw [String.append_assoc]
        rfl
      rw [hsplit, Text.tokens_append_blank hfound, hkey]
      rfl

theorem tokens_clauses (htext : column.default = some text) :
    tokens (column.clauses keys) = (tokens text).map fun found =>
      column.tokensBefore ++ .word "DEFAULT" :: (found ++ column.tokensBehind keys) := by
  have hnull : tokens "NOT NULL" = some [.word "NOT", .word "NULL"] := by decide +kernel
  have hword : tokens "DEFAULT" = some [.word "DEFAULT"] := by decide +kernel
  have hdefault : tokens ("DEFAULT " ++ text ++
      if keys = [column] then " PRIMARY KEY" else "") =
        (tokens text).map fun found => .word "DEFAULT" :: (found ++ column.tokensBehind keys) := by
    have hsplit : "DEFAULT " ++ text = "DEFAULT" ++ " " ++ text := rfl
    rw [hsplit, String.append_assoc, Text.tokens_append_blank hword, tokensBehind]
    split
    · rw [tokens_append_key, Option.map_map]
      rfl
    · rw [String.append_empty]
      simp
  have hclauses : column.clauses keys = (if column.nullable then "" else "NOT NULL ") ++
      ("DEFAULT " ++ text ++ if keys = [column] then " PRIMARY KEY" else "") := by
    unfold clauses constraints
    rw [htext]
    cases column.nullable <;> by_cases hsingle : keys = [column] <;>
      simp [hsingle, String.intercalate_cons_cons, ← String.toList_inj]
  rw [hclauses, tokensBefore]
  cases column.nullable with
  | true => exact (congrArg tokens (String.empty_append ..)).trans hdefault
  | false =>
      have hsplit : "NOT NULL " = "NOT NULL" ++ " " := rfl
      rw [if_neg Bool.false_ne_true, hsplit, Text.tokens_append_blank hnull, hdefault,
        Option.map_map]
      rfl

/-- What stands in front of a default is read without regard to it. -/
theorem exists_of_reads_tokensBefore {found : List Token}
    (h : Reads (column.tokensBefore ++ found) constraints) :
    ∃ others, Reads found others ∧
      constraints = (if column.nullable then [] else [.notNull]) ++ others := by
  unfold tokensBefore at h
  split at h
  · rename_i hnullable
    rw [if_pos hnullable]
    exact ⟨_, h, rfl⟩
  · rename_i hnullable
    rw [if_neg hnullable]
    exact h.exists_of_not (by decide)

theorem reads_tokensBefore_append {found : List Token} (h : Reads found constraints) :
    Reads (column.tokensBefore ++ found)
      ((if column.nullable then [] else [.notNull]) ++ constraints) := by
  unfold tokensBefore
  split
  · exact h
  · exact .notNull (by decide) (by decide) h

theorem reads_tokensBehind :
    Reads (column.tokensBehind keys) (if keys = [column] then [.primaryKey] else []) := by
  unfold tokensBehind
  split
  · exact .primaryKey (by decide) (by decide) .nil
  · exact .nil

theorem length_eq_of_reads {found : List Token}
    (h : Reads found (if keys = [column] then [.primaryKey] else [])) :
    found.length = (column.tokensBehind keys).length := by
  unfold tokensBehind
  split at h
  · rename_i hkeys
    cases h with
    | primaryKey _ _ hrest =>
        cases hrest
        rw [if_pos hkeys]
        rfl
  · rename_i hkeys
    cases h
    rw [if_neg hkeys]

/-- If just what was told of the column is read, the whole expression is the operand. -/
theorem reads_toldConstraints_iff :
    Reads (column.tokensBefore ++ .word "DEFAULT" :: (expression ++ column.tokensBehind keys))
      (column.toldConstraints keys operand) ↔ operand = expression ∧ IsOperand expression := by
  constructor
  · intro h
    obtain ⟨others, hothers, hconstraints⟩ := exists_of_reads_tokensBefore h
    rw [toldConstraints, List.append_cancel_left_eq] at hconstraints
    subst hconstraints
    obtain ⟨_, rest, _, hoperand, hsplit, hrest, hdefault⟩ := hothers.exists_of_default (by decide)
    obtain ⟨hsame, rfl⟩ := List.cons.inj hdefault
    obtain rfl := Constraint.default.inj hsame
    -- behind the operand only the key is left, so the operand is the rest
    obtain ⟨rfl, -⟩ := List.append_inj' hsplit (length_eq_of_reads hrest).symm
    exact ⟨rfl, hoperand⟩
  · rintro ⟨rfl, hoperand⟩
    exact reads_tokensBefore_append (.default (by decide) hoperand rfl reads_tokensBehind)

/-- Behind an operand nothing is read that opens no constraint. -/
theorem not_reads_of_not_opensConstraint {token : Token} {rest : List Token}
    (hoperand : IsOperand operand) (htoken : ¬ token.OpensConstraint) :
    ¬ Reads (column.tokensBefore ++ .word "DEFAULT" :: (operand ++ token :: rest)) constraints := by
  intro h
  obtain ⟨others, hothers, -⟩ := exists_of_reads_tokensBefore h
  obtain ⟨_, _, _, hoperand', hsplit, hrest, -⟩ := hothers.exists_of_default (by decide)
  obtain ⟨-, rfl⟩ := hoperand.eq_of_append_eq hoperand' hsplit
  exact htoken hrest.opensConstraint

theorem clauses_of_ne_nil (hne : column.constraints keys ≠ []) :
    " ".intercalate (trimEnd column.heading :: column.constraints keys) =
      trimEnd column.heading ++ " " ++ column.clauses keys := by
  unfold clauses
  cases hconstraints : column.constraints keys with
  | nil => exact absurd hconstraints hne
  | cons first others => rw [String.intercalate_cons_cons]

theorem hasDefault_of_isDefinedBy {definition : String}
    (hdefinition : IsDefinedBy keys column definition) (htext : column.default = some text) :
    HasDefault keys column text definition where
  definition_eq := by
    rw [hdefinition.definition_eq, clauses_of_ne_nil (by simp [constraints, htext])]
  says_iff := by
    unfold Says
    rw [tokens_clauses htext]
    cases tokens text with
    | none => simp
    | some found =>
        simp only [Option.map_some, Option.mem_def, Option.some.injEq, exists_eq_left',
          reads_toldConstraints_iff]
        constructor
        · rintro ⟨operand, -, -, hoperand⟩
          exact hoperand
        · exact fun hoperand => ⟨found, .bare, rfl, hoperand⟩
  says_nothing := by
    rintro operand token rest hfound hoperand htoken constraints ⟨_, hclauses, hreads⟩
    rw [tokens_clauses htext, hfound] at hclauses
    obtain rfl := Option.some.inj hclauses
    dsimp only at hreads
    rw [List.append_assoc, List.cons_append] at hreads
    exact not_reads_of_not_opensConstraint hoperand htoken hreads

end ColumnInfo

namespace Database

open ColumnInfo Telling

/-- A copy has the default of each column as it was told, behind the name and the type of this
column.  The definition then says what was told of the column exactly if the text of the
default is an operand. -/
theorem duplicate_defaults {ω : Type} [Engine ω] {database : Database} {source : String}
    (target : String) {session last : Session ω} {survey : Survey}
    (hsurveys : database.Surveys source session survey last) :
    ∃ (keys : List ColumnInfo) (definitions tableKey : List String),
      KeyPlacement keys tableKey ∧
      List.Forall₂ (fun column definition =>
        ∀ text ∈ column.default, HasDefault keys column text definition)
        survey.columns definitions ∧
      database.Copies source target session survey.indexes
        (definitions ++ tableKey ++ ForeignKeyInfo.copyDefinitions survey.foreignKeys) last := by
  obtain ⟨definitions, tableKey, hplacement, hdefinitions, heq⟩ :=
    exists_copyDefinitions_eq survey.columns
  refine ⟨_, definitions, tableKey, hplacement, ?_, ?_⟩
  · exact hdefinitions.imp fun _ _ hdefinition text htext =>
      hasDefault_of_isDefinedBy hdefinition htext
  · rw [← heq]
    exact copies_of_surveys hsurveys

/-- The columns of a table of stays, with a default of each kind that can be copied. -/
def stayColumns : List ColumnInfo :=
  [⟨"id", "INTEGER", false, some "-1", 1⟩, ⟨"guest", "TEXT", true, some "'it''s'", 0⟩,
    ⟨"since", "TEXT", false, some "CURRENT_TIMESTAMP", 0⟩,
    ⟨"nights", "INTEGER", true, some "(1 + 2)", 0⟩]

theorem isOperand_of_mem_stayColumns : ∀ column ∈ stayColumns, ∀ text ∈ column.default,
    ∃ expression ∈ tokens text, IsOperand expression := by
  have hnumber : tokens "-1" = some [.mark '-', .number "1"] := by decide +kernel
  have hliteral : tokens "'it''s'" = some [.enclosed .text "it's"] := by decide +kernel
  have hword : tokens "CURRENT_TIMESTAMP" = some [.word "CURRENT_TIMESTAMP"] := by
    decide +kernel
  have hgroup : tokens "(1 + 2)" =
      some (.mark '(' :: ([.number "1", .mark '+', .number "2"] ++ [.mark ')'])) := by
    decide +kernel
  unfold stayColumns
  simp only [List.forall_mem_cons, Option.mem_def, Option.some.injEq, forall_eq']
  exact ⟨⟨_, hnumber, .signed "1" (.inr rfl)⟩, ⟨_, hliteral, .literal .text "it's"⟩,
    ⟨_, hword, .word "CURRENT_TIMESTAMP"⟩, ⟨_, hgroup, .group (by simp) (by decide)⟩,
    List.forall_mem_nil _⟩

/-- The definitions of the stays say what was told of them. -/
theorem duplicate_defaults_stays :
    ∃ (session last : Session (Script Unit)) (keys : List ColumnInfo)
      (definitions tableKey : List String),
      Surveys ⟨"app.db"⟩ "stays" session ⟨stayColumns, [], []⟩ last ∧
      KeyPlacement keys tableKey ∧
      List.Forall₂ (fun column definition => ∀ text ∈ column.default, ∃ clauses,
        definition = trimEnd column.heading ++ " " ++ clauses ∧
        ∃ expression ∈ tokens text, ∃ operand, Denotes expression operand ∧
          Says clauses (column.toldConstraints keys operand)) stayColumns definitions ∧
      Copies ⟨"app.db"⟩ "stays" "copy" session []
        (definitions ++ tableKey ++ ForeignKeyInfo.copyDefinitions []) last := by
  obtain ⟨journal, hsurveys⟩ := surveys_telling "stays" stayColumns [] []
  obtain ⟨keys, definitions, tableKey, hplacement, hdefaults, hcopies⟩ :=
    duplicate_defaults "copy" hsurveys
  refine ⟨_, _, keys, definitions, tableKey, hsurveys, hplacement, ?_, hcopies⟩
  rw [List.forall₂_iff_zip] at hdefaults ⊢
  refine ⟨hdefaults.1, fun {column definition} hmem text htext => ?_⟩
  have hdefault := hdefaults.2 hmem text htext
  have hoperand := isOperand_of_mem_stayColumns column (List.of_mem_zip hmem).1 text htext
  exact ⟨_, hdefault.definition_eq, hdefault.says_iff.mpr hoperand⟩

/-- A column whose default is a call. -/
def stampedColumn : ColumnInfo where
  name := "made"
  type := "TEXT"
  default := some "datetime('now')"

/-- The call needs parentheses, and the copy does not have them. -/
theorem duplicate_stampedColumn :
    (∃ journal, duplicate ⟨"app.db"⟩ "t" "copy"
        (telling (tableReplies [stampedColumn] [] (answering {})) []) =
      (.ok (), telling [] (journal ++
        asked (copyCreation "copy" ["made TEXT DEFAULT datetime('now')"]) {}))) ∧
    (∀ constraints, ¬ Says "DEFAULT datetime('now')" constraints) ∧
    ∃ expression ∈ tokens "datetime('now')", ∃ operand, Denotes expression operand ∧
      Says "DEFAULT (datetime('now'))" (stampedColumn.toldConstraints [] operand) := by
  have hdefinitions : copyDefinitions [stampedColumn] ++ ForeignKeyInfo.copyDefinitions [] =
      ["made TEXT DEFAULT datetime('now')"] := by decide +kernel
  have hcall : tokens "datetime('now')" = some ([.word "datetime"] ++
      .mark '(' :: [.enclosed .text "now", .mark ')']) := by decide +kernel
  have hclauses : tokens "DEFAULT datetime('now')" = some (stampedColumn.tokensBefore ++
      .word "DEFAULT" :: ([.word "datetime"] ++
        .mark '(' :: [.enclosed .text "now", .mark ')'])) := by decide +kernel
  have hgroup : tokens "DEFAULT (datetime('now'))" = some (stampedColumn.tokensBefore ++
      .word "DEFAULT" :: (.mark '(' :: ([.word "datetime", .mark '(', .enclosed .text "now",
        .mark ')'] ++ [.mark ')']) ++ stampedColumn.tokensBehind [])) := by decide +kernel
  refine ⟨?_, ?_, ?_⟩
  · rw [← hdefinitions]
    exact duplicate_telling "t" "copy" [stampedColumn] []
  · rintro constraints ⟨_, hfound, hreads⟩
    rw [hclauses] at hfound
    obtain rfl := Option.some.inj hfound
    exact not_reads_of_not_opensConstraint (.word "datetime") (by decide) hreads
  · refine ⟨_, hcall, _, .group, _, hgroup, reads_toldConstraints_iff.mpr ⟨rfl, ?_⟩⟩
    exact .group (by simp) (by decide)

end Database

end SqlAccess
