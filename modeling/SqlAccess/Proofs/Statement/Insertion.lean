import SqlAccess.Proofs.Statement.Wording

/-!
# Insertions of one row and of many

Many rows are inserted by one statement, which has a group of placeholders for each row,
and the values of all rows one after the other.  Nothing is inserted if there are no fields,
no rows, or a row that does not have a value for each field; of several such rows the first
one is told (`InsertsMany`).

The insertion of a single row is that of the record that gives the fields their values.
A record may be given by names or as a sequence of pairs, and either way it has the same
entries in the same order (`Record.Gives`).
-/

namespace SqlAccess

open SqlAccess.Text (listing)

/-! ## Sequences -/

theorem Value.truth_eq_of_items? {value : Value} {items : List Value}
    (h : value.items? = some items) : value.truth = !items.isEmpty := by
  cases value with
  | null | bool _ | int _ | real _ => cases h
  | text content =>
      cases h
      rw [Value.truth, List.isEmpty_map, Bool.eq_iff_iff, bne_iff_ne, Bool.not_eq_true',
        List.isEmpty_eq_false_iff, ne_eq, ne_eq, String.toList_eq_nil_iff]
  | blob bytes =>
      cases h
      cases bytes <;> rfl
  | list items =>
      cases h
      rfl
  | object entries =>
      cases h
      cases entries <;> rfl

theorem Value.sized_of_items? {value : Value} {items : List Value}
    (h : value.items? = some items) : value.sized = .ok items := by
  rw [sized, h]

theorem Value.sequence_of_items? {value : Value} {items : List Value}
    (h : value.items? = some items) : value.sequence = .ok items := by
  rw [sequence, h]

theorem Value.listedFrom_map_text (position : Nat) (names : List String) :
    listedFrom position (names.map .text) = .ok names := by
  induction names generalizing position with
  | nil => rfl
  | cons name names ih =>
      rw [List.map_cons, listedFrom, ih]
      rfl

/-- A value is a sequence of names. -/
def Value.ListsNames (value : Value) (names : List String) : Prop :=
  value.items? = some (names.map .text)

/-- A value is a sequence of rows, each of which is a sequence of cells. -/
def Value.ListsRows (value : Value) (rows : List (List Value)) : Prop :=
  ∃ items, value.items? = some items ∧
    List.Forall₂ (fun item row => item.items? = some row) items rows

/-! ## Rows -/

namespace Statement

variable {table : String} {fields listed : Value} {names : List String}
  {rows more : List (List Value)}

/-- What comes of the insertion of rows. -/
inductive InsertsMany (table : String) (names : List String) (rows : List (List Value)) :
    Except Fault Statement → Prop where
  | noFields : names = [] → InsertsMany table names rows (.error (.emptyFields table))
  | noRows : names ≠ [] → rows = [] → InsertsMany table names rows (.error (.emptyRows table))
  /-- The first row that does not fit is told. -/
  | misfit {before after : List (List Value)} {row : List Value} :
      names ≠ [] → rows = before ++ row :: after →
        (∀ earlier ∈ before, earlier.length = names.length) → row.length ≠ names.length →
        InsertsMany table names rows
          (.error (.rowLength before.length row.length names.length))
  | inserted :
      names ≠ [] → rows ≠ [] → (∀ row ∈ rows, row.length = names.length) →
        InsertsMany table names rows
          (.ok ⟨"INSERT INTO " ++ table ++ " (" ++ listing names ++ ") VALUES "
              ++ listing (List.replicate rows.length
                ("(" ++ listing (List.replicate names.length "?") ++ ")")) ++ ";",
            rows.flatten⟩)

/-- The rows fit, or there is a first one that does not. -/
theorem rowsFrom_cases {items : List Value} (hfields : fields.ListsNames names)
    (hrows : List.Forall₂ (fun item row => item.items? = some row) items rows) (position : Nat) :
    (∀ row ∈ rows, row.length = names.length) ∧ rowsFrom fields position items = .ok rows ∨
      ∃ before row after, rows = before ++ row :: after ∧
        (∀ earlier ∈ before, earlier.length = names.length) ∧ row.length ≠ names.length ∧
        rowsFrom fields position items =
          .error (.rowLength (position + before.length) row.length names.length) := by
  have hnames : fields.sized = .ok (names.map .text) := Value.sized_of_items? hfields
  -- the rows behind a misfit are not looked at, so it is told whatever they are
  induction hrows generalizing position with
  | nil => exact .inl ⟨nofun, rfl⟩
  | @cons item row items rows hitem hrest ih =>
      have hrow : item.sized = .ok row := Value.sized_of_items? hitem
      rw [rowsFrom, hrow, hnames]
      by_cases hlength : row.length = names.length
      · rcases ih (position + 1) with ⟨hfit, hok⟩ | ⟨before, bad, after, rfl, hfit, hbad, herror⟩
        · refine .inl ⟨List.forall_mem_cons.mpr ⟨hlength, hfit⟩, ?_⟩
          simp [hlength, hok, bind, Except.bind, pure, Except.pure]
        · refine .inr ⟨row :: before, bad, after, rfl, List.forall_mem_cons.mpr ⟨hlength, hfit⟩,
            hbad, ?_⟩
          have hposition : position + 1 + before.length = position + (row :: before).length := by
            rw [List.length_cons]
            omega
          simp [hlength, herror, hposition, bind, Except.bind]
      · refine .inr ⟨[], row, rows, rfl, nofun, hlength, ?_⟩
        simp [hlength, bind, Except.bind, throw, throwThe, MonadExceptOf.throw]

theorem insertMany_of_ne_nil (table : String) (hfields : fields.ListsNames names)
    (hnames : names ≠ []) {items : List Value} (hlisted : listed.items? = some items)
    (hitems : items ≠ []) :
    insertMany table fields listed = insertion table names <$> rowsFrom fields 0 items := by
  have hfieldsTruth : fields.truth = true := by
    rw [Value.truth_eq_of_items? hfields]
    simpa using hnames
  have hlistedTruth : listed.truth = true := by
    rw [Value.truth_eq_of_items? hlisted]
    simpa using hitems
  have hcolumns : fields.sequence = .ok (names.map .text) := Value.sequence_of_items? hfields
  unfold insertMany
  rw [hfieldsTruth, hlistedTruth, Value.sequence_of_items? hlisted, hcolumns]
  change (rowsFrom fields 0 items >>= fun cells =>
    Value.listedFrom 0 (names.map .text) >>= fun columns =>
      pure (insertion table columns cells)) = _
  rw [Value.listedFrom_map_text]
  cases rowsFrom fields 0 items <;> rfl

theorem insertion_eq (table : String) (names : List String) (rows : List (List Value)) :
    insertion table names rows =
      ⟨"INSERT INTO " ++ table ++ " (" ++ listing names ++ ") VALUES "
          ++ listing (List.replicate rows.length
            ("(" ++ listing (List.replicate names.length "?") ++ ")")) ++ ";",
        rows.flatten⟩ := by
  rw [← List.map_const']
  rfl

theorem insertMany_cases (table : String) (hfields : fields.ListsNames names)
    (hlisted : listed.ListsRows rows) :
    InsertsMany table names rows (insertMany table fields listed) := by
  obtain ⟨items, hitems, hrows⟩ := hlisted
  have hnames : fields.truth = !(names.map Value.text).isEmpty := Value.truth_eq_of_items? hfields
  rcases eq_or_ne names [] with rfl | hne
  · rw [insertMany, hnames]
    exact .noFields rfl
  cases hrows with
  | nil =>
      have hsome : (names.map Value.text).isEmpty = false := by simpa using hne
      rw [insertMany, hnames, hsome, Value.truth_eq_of_items? hitems]
      exact .noRows hne rfl
  | @cons item row items rows hitem hrest =>
      rw [insertMany_of_ne_nil table hfields hne hitems (List.cons_ne_nil _ _)]
      rcases rowsFrom_cases hfields (.cons hitem hrest) 0 with
        ⟨hfit, hok⟩ | ⟨before, bad, after, hsplit, hfit, hbad, herror⟩
      · rw [hok]
        change InsertsMany table names _ (.ok (insertion table names (row :: rows)))
        rw [insertion_eq]
        exact .inserted hne (List.cons_ne_nil row rows) hfit
      · rw [Nat.zero_add] at herror
        rw [herror]
        exact .misfit hne hsplit hfit hbad

theorem insertMany_eq_ok (table : String) (hfields : fields.ListsNames names)
    (hlisted : listed.ListsRows rows) (hnames : names ≠ []) (hrows : rows ≠ [])
    (hfit : ∀ row ∈ rows, row.length = names.length) :
    insertMany table fields listed = .ok (insertion table names rows) := by
  have hcases := insertMany_cases table hfields hlisted
  generalize insertMany table fields listed = result at hcases ⊢
  cases hcases with
  | noFields hempty => exact absurd hempty hnames
  | noRows _ hempty => exact absurd hempty hrows
  | misfit _ hsplit _ hbad =>
      refine absurd (hfit _ ?_) hbad
      rw [hsplit]
      exact List.mem_append_right _ List.mem_cons_self
  | inserted _ _ _ => rw [insertion_eq]

theorem insertMany_eq_ok_iff (table : String) (hfields : fields.ListsNames names)
    (hlisted : listed.ListsRows rows) {statement : Statement} :
    insertMany table fields listed = .ok statement ↔
      (names ≠ [] ∧ rows ≠ [] ∧ ∀ row ∈ rows, row.length = names.length) ∧
        statement = insertion table names rows := by
  constructor
  · intro h
    have hcases := insertMany_cases table hfields hlisted
    rw [h] at hcases
    cases hcases with
    | inserted hnames hrows hfit => exact ⟨⟨hnames, hrows, hfit⟩, (insertion_eq _ _ _).symm⟩
  · rintro ⟨⟨hnames, hrows, hfit⟩, rfl⟩
    exact insertMany_eq_ok table hfields hlisted hnames hrows hfit

end Statement

/-! ## Records -/

/-- A record gives columns their values: by names, or as a sequence of pairs. -/
inductive Record.Gives (entries : List (String × Value)) : Record → Prop where
  | row : Gives entries (.row ⟨entries⟩)
  | object : Gives entries (.pairs (.object entries))
  | pairs : Gives entries (.pairs (.list (entries.map fun entry => .list [.text entry.1, entry.2])))

theorem Record.Gives.items_eq {entries : List (String × Value)} {record : Record}
    (h : record.Gives entries) : record.items = .ok entries := by
  cases h with
  | row => rfl
  | object => rfl
  | pairs =>
      refine mapM_eq_ok_iff.mpr (List.forall₂_map_left_iff.mpr (List.forall₂_same.mpr ?_))
      exact fun _ _ => rfl

namespace Statement

variable {table : String} {fields listed : Value} {names : List String}
  {rows : List (List Value)} {record other : Record} {entries : List (String × Value)}

/-- The requests for a record depend on its entries alone. -/
theorem requests_eq_of_items_eq (table : String) (h : record.items = other.items) :
    insert table record = insert table other ∧
      ∀ clause args, update table record clause args = update table other clause args := by
  unfold insert update
  rw [h]
  exact ⟨rfl, fun _ _ => rfl⟩

theorem insert_eq_insertion (table : String) {row : List Value} (hnames : names ≠ [])
    (hlength : row.length = names.length) (hitems : record.items = .ok (names.zip row)) :
    insert table record = .ok (insertion table names [row]) := by
  have hne : (names.zip row).isEmpty = false := by
    rw [List.isEmpty_eq_false_iff, ← List.length_pos_iff, List.length_zip, hlength, Nat.min_self]
    exact List.length_pos_iff.mpr hnames
  unfold insert
  rw [hitems]
  change (if (names.zip row).isEmpty then _ else
    Except.ok (insertion table ((names.zip row).map Prod.fst) [(names.zip row).map Prod.snd])) = _
  rw [hne, List.map_fst_zip (Nat.le_of_eq hlength.symm), List.map_snd_zip (Nat.le_of_eq hlength)]
  rfl

/-- The insertion of rows says which of its arguments do not fit, or has the values of all
rows in their order.  It agrees with the insertion of a record, of a single row, and with
itself, of more rows; and how a record is given does not matter. -/
theorem insertMany_agrees (table : String) (hfields : fields.ListsNames names)
    (hlisted : listed.ListsRows rows) :
    InsertsMany table names rows (insertMany table fields listed) ∧
    (∀ position size count, (Fault.rowLength position size count).category = .compilation ∧
      (Fault.rowLength position size count).message =
        s!"Row {position} has {size} values but {count} fields were given.") ∧
    ((∃ statement, insertMany table fields listed = .ok statement) ↔
      names ≠ [] ∧ rows ≠ [] ∧ ∀ row ∈ rows, row.length = names.length) ∧
    (∀ {row record}, rows = [row] → names ≠ [] → row.length = names.length →
      record.Gives (names.zip row) →
      insertMany table fields listed = insert table record) ∧
    (∀ {others both more first second}, others.ListsRows more →
      both.ListsRows (rows ++ more) →
      insertMany table fields listed = .ok first → insertMany table fields others = .ok second →
      ∃ whole, insertMany table fields both = .ok whole ∧
        whole.params = first.params ++ second.params) ∧
    (∀ {entries record other}, record.Gives entries → other.Gives entries →
      insert table record = insert table other ∧
        ∀ clause args, update table record clause args = update table other clause args) := by
  refine ⟨insertMany_cases table hfields hlisted, fun _ _ _ => ⟨rfl, rfl⟩, ?_, ?_, ?_, ?_⟩
  · simp only [insertMany_eq_ok_iff table hfields hlisted, exists_and_left, exists_eq, and_true]
  · rintro row record rfl hnames hlength hrecord
    rw [insert_eq_insertion table hnames hlength hrecord.items_eq]
    exact insertMany_eq_ok table hfields hlisted hnames (List.cons_ne_nil _ _)
      (List.forall_mem_singleton.mpr hlength)
  · intro others both more first second hothers hboth hfirst hsecond
    obtain ⟨⟨hnames, hrows, hfit⟩, rfl⟩ :=
      (insertMany_eq_ok_iff table hfields hlisted).mp hfirst
    obtain ⟨⟨-, -, hfitMore⟩, rfl⟩ := (insertMany_eq_ok_iff table hfields hothers).mp hsecond
    refine ⟨_, insertMany_eq_ok table hfields hboth hnames
      (List.append_ne_nil_of_left_ne_nil hrows _)
      (List.forall_mem_append.mpr ⟨hfit, hfitMore⟩), ?_⟩
    exact List.flatten_append
  · intro entries record other hrecord hother
    exact requests_eq_of_items_eq table (hrecord.items_eq.trans hother.items_eq.symm)

/-- Fields may be given as a text, and rows as lists, texts or bytes.  Two rows and a third one
are inserted alone and together. -/
theorem insertMany_agrees_kinds :
    let fields : Value := .text "ab"
    let rows : List Value := [.list [.int 1, .null], .text "xy"]
    let row : Value := .blob [7, 8]
    fields.ListsNames ["a", "b"] ∧
      (Value.list rows).ListsRows [[.int 1, .null], [.text "x", .text "y"]] ∧
      (Value.list [row]).ListsRows [[.int 7, .int 8]] ∧
      InsertsMany "t" ["a", "b"] [[.int 1, .null], [.text "x", .text "y"]]
        (insertMany "t" fields (.list rows)) ∧
      insertMany "t" fields (.list [row]) = insert "t" (.row ⟨[("a", .int 7), ("b", .int 8)]⟩) ∧
      ∃ whole, insertMany "t" fields (.list (rows ++ [row])) = .ok whole ∧
        whole.params = [.int 1, .null, .text "x", .text "y"] ++ [.int 7, .int 8] := by
  intro fields rows row
  have hfields : fields.ListsNames ["a", "b"] := rfl
  have hrows : (Value.list rows).ListsRows [[.int 1, .null], [.text "x", .text "y"]] :=
    ⟨_, rfl, .cons rfl (.cons rfl .nil)⟩
  have hrow : (Value.list [row]).ListsRows [[.int 7, .int 8]] := ⟨_, rfl, .cons rfl .nil⟩
  have hboth : (Value.list (rows ++ [row])).ListsRows
      ([[.int 1, .null], [.text "x", .text "y"]] ++ [[.int 7, .int 8]]) :=
    ⟨_, rfl, .cons rfl (.cons rfl (.cons rfl .nil))⟩
  obtain ⟨hcases, -, -, -, htogether, -⟩ := insertMany_agrees "t" hfields hrows
  obtain ⟨-, -, -, hsingle, -⟩ := insertMany_agrees "t" hfields hrow
  exact ⟨hfields, hrows, hrow, hcases, hsingle rfl (List.cons_ne_nil _ _) rfl .row,
    htogether hrow hboth rfl rfl⟩

end Statement

end SqlAccess
