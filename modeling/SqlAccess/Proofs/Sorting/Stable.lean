import SqlAccess.Proofs.Sorting.Merging
import SqlAccess.Sorting.Comparing

/-!
# Sorting by a comparison of keys

A comparison that compares keys sorts a list by the keys, and entries of equal keys keep
their order (`sortedWith_eq`).

What is kept on the way is said of each key on its own (`IsSortOf`): the entries of a key are
those of the list, in their order there.  Parts of a list that are sorted so are sorted
together by merging them (`IsSortOf.append`), and in the end there is one list in ascending
order that keeps it (`IsSortOf.eq_sortedBy`).  So it does not matter which runs are merged
first, and the depth of their boundaries does not occur here (`Cut`).
-/

namespace SqlAccess.Sorting

variable {α κ ε : Type} [LinearOrder κ] {key : α → κ} {known : α → Prop}
  {items front run xs ys : List α}

/-! ## Stable orders -/

@[simp] theorem entriesOf_nil (value : κ) : entriesOf key [] value = [] :=
  rfl

@[simp] theorem entriesOf_append (xs ys : List α) (value : κ) :
    entriesOf key (xs ++ ys) value = entriesOf key xs value ++ entriesOf key ys value :=
  List.filter_append ..

theorem entriesOf_cons (x : α) (xs : List α) (value : κ) :
    entriesOf key (x :: xs) value = entriesOf key [x] value ++ entriesOf key xs value :=
  entriesOf_append [x] xs value

/-- A list in ascending order with the entries of each key in the order of another list. -/
structure IsSortOf (key : α → κ) (items run : List α) : Prop where
  pairwise : run.Pairwise fun x y => key x ≤ key y
  entriesOf_eq : ∀ value, entriesOf key run value = entriesOf key items value

theorem IsSortOf.mem_iff (h : IsSortOf key items run) {entry : α} :
    entry ∈ run ↔ entry ∈ items := by
  have hsame := congrArg (entry ∈ ·) (h.entriesOf_eq (key entry))
  simpa using hsame

theorem IsSortOf.isRun (h : IsSortOf key items run) (hknown : ∀ item ∈ items, known item) :
    IsRun key known run where
  known entry hentry := hknown entry (h.mem_iff.mp hentry)
  pairwise := h.pairwise

/-- There is only one stable order. -/
theorem IsSortOf.unique (h : IsSortOf key items xs) (h' : IsSortOf key items ys) : xs = ys := by
  have hascending := pairwise_dedup_map h.pairwise
  have hxs := flatMap_entriesOf h.pairwise hascending fun entry hentry =>
    List.mem_dedup.mpr (List.mem_map_of_mem hentry)
  have hys := flatMap_entriesOf h'.pairwise hascending fun entry hentry =>
    List.mem_dedup.mpr (List.mem_map_of_mem (h.mem_iff.mpr (h'.mem_iff.mp hentry)))
  rw [← hxs, ← hys]
  exact List.flatMap_congr fun value _ => (h.entriesOf_eq value).trans (h'.entriesOf_eq value).symm

section

-- an order of lists is decided in another way than their linear order says
variable [DecidableLT κ]

theorem isSortOf_sortedBy (key : α → κ) (items : List α) :
    IsSortOf key items (sortedBy key items) where
  pairwise := (orders_le key).pairwise_sortedBy items
  entriesOf_eq value := by
    have hsub : (entriesOf key items value).Sublist (sortedBy key items) := by
      refine List.sublist_mergeSort (orders_le key).not_below_trans
        (orders_le key).not_below_total ?_ List.filter_sublist
      refine List.pairwise_of_forall_mem_list fun x hx y hy => ?_
      simp [(mem_entriesOf.mp hx).2, (mem_entriesOf.mp hy).2]
    have hkept : entriesOf key (entriesOf key items value) value = entriesOf key items value :=
      List.filter_eq_self.mpr fun entry hentry => by simpa using (mem_entriesOf.mp hentry).2
    have hentries : (entriesOf key items value).Sublist
        (entriesOf key (sortedBy key items) value) :=
      hkept ▸ hsub.filter _
    exact (hentries.eq_of_length ((sortedBy_perm key items).filter _).length_eq.symm).symm

theorem IsSortOf.eq_sortedBy (h : IsSortOf key items run) : run = sortedBy key items :=
  h.unique (isSortOf_sortedBy key items)

theorem sortedBy_congr {other : α → κ} (h : ∀ item ∈ items, key item = other item) :
    sortedBy key items = sortedBy other items := by
  have hsame : ∀ value, ∀ list : List α, (∀ entry ∈ list, entry ∈ items) →
      entriesOf key list value = entriesOf other list value := fun value list hlist =>
    List.filter_congr fun entry hentry => by rw [h entry (hlist entry hentry)]
  have hsort := isSortOf_sortedBy other items
  refine (IsSortOf.eq_sortedBy ⟨hsort.pairwise.imp_of_mem fun {x y} hx hy hle => ?_,
    fun value => ?_⟩).symm
  · rwa [h x (mem_sortedBy.mp hx), h y (mem_sortedBy.mp hy)]
  · rw [hsame value _ fun entry => mem_sortedBy.mp, hsort.entriesOf_eq,
      hsame value items fun entry => id]

/-- The order in which entries come does not show exactly if those of one key are the same. -/
theorem sortedBy_determined_iff (key : α → κ) (items : List α) :
    (∀ others : List α, others.Perm items → sortedBy key others = sortedBy key items) ↔
      ∀ x ∈ items, ∀ y ∈ items, key x = key y → x = y := by
  constructor
  · intro h x hx y hy hkey
    -- each entry is the first one of its key in some order
    have hfirst : ∀ entry ∈ items,
        (entriesOf key (sortedBy key items) (key entry)).head? = some entry := by
      intro entry hentry
      obtain ⟨before, after, hitems⟩ := List.append_of_mem hentry
      have hperm : (entry :: (before ++ after)).Perm items := hitems ▸ List.perm_middle.symm
      rw [← h _ hperm, (isSortOf_sortedBy key _).entriesOf_eq, entriesOf_cons]
      simp [entriesOf]
    have hsame := hfirst x hx
    rw [hkey, hfirst y hy, Option.some.injEq] at hsame
    exact hsame.symm
  · intro h others hperm
    exact (orders_le key).sortedBy_eq_of_perm
      (fun x hx y hy hxy hyx => h x hx y hy (le_antisymm hxy hyx)) hperm

theorem map_sortedBy_of_perm {others : List α} (h : others.Perm items) :
    (sortedBy key others).map key = (sortedBy key items).map key := by
  have hkeys := (orders_le (id : κ → κ)).sortedBy_eq_of_perm
    (fun _ _ _ _ => le_antisymm) (h.map key)
  rwa [sortedBy_map, sortedBy_map] at hkeys

end

theorem isSortOf_self (h : xs.Pairwise fun x y => key x ≤ key y) : IsSortOf key xs xs :=
  ⟨h, fun _ => rfl⟩

/-- A list that descends strictly has no two entries of one key, and is sorted backwards. -/
theorem isSortOf_reverse (h : xs.Pairwise fun x y => key y < key x) :
    IsSortOf key xs xs.reverse where
  pairwise := List.pairwise_reverse.mpr (h.imp le_of_lt)
  entriesOf_eq value := by
    have hstrict : (entriesOf key xs value).Pairwise fun x y => key y < key x := h.filter _
    have hreverse : entriesOf key xs.reverse value = (entriesOf key xs value).reverse :=
      List.filter_reverse ..
    rw [hreverse]
    match hentries : entriesOf key xs value with
    | [] => rfl
    | [entry] => rfl
    | x :: y :: rest =>
        have hsame : ∀ entry ∈ x :: y :: rest, key entry = value := fun entry hentry =>
          (mem_entriesOf.mp (hentries ▸ hentry)).2
        rw [hentries] at hstrict
        have hlt : key y < key x := List.rel_of_pairwise_cons hstrict List.mem_cons_self
        rw [hsame x (by simp), hsame y (by simp)] at hlt
        exact absurd hlt (lt_irrefl value)

/-! ## Merged runs -/

theorem pairwise_mergedBy (hxs : xs.Pairwise fun x y => key x ≤ key y)
    (hys : ys.Pairwise fun x y => key x ≤ key y) :
    (mergedBy key xs ys).Pairwise fun x y => key x ≤ key y := by
  have hmerged : (mergedBy key xs ys).Pairwise fun x y => !decide (key y < key x) := by
    refine List.pairwise_merge (orders_le key).not_below_trans
      (orders_le key).not_below_total xs ys ?_ ?_
    · exact hxs.imp fun h => by simpa using h
    · exact hys.imp fun h => by simpa using h
  exact hmerged.imp fun h => by simpa using h

theorem entriesOf_mergedBy (hxs : xs.Pairwise fun x y => key x ≤ key y) (value : κ) :
    entriesOf key (mergedBy key xs ys) value =
      entriesOf key xs value ++ entriesOf key ys value := by
  induction xs generalizing ys with
  | nil => simp
  | cons x xs ih =>
      induction ys with
      | nil => simp
      | cons y ys ihys =>
          by_cases hlt : key y < key x
          · rw [mergedBy_cons_of_lt hlt, entriesOf_cons, ihys, entriesOf_cons y ys]
            by_cases hy : key y = value
            · -- the entries of this key are all in the second list
              have hnone : entriesOf key (x :: xs) value = [] := by
                refine entriesOf_eq_nil (List.forall_mem_cons.mpr ⟨hy ▸ hlt.ne', ?_⟩)
                exact fun item hitem =>
                  hy ▸ (hlt.trans_le (List.rel_of_pairwise_cons hxs hitem)).ne'
              rw [hnone, List.nil_append, List.nil_append]
            · have hnone : entriesOf key [y] value = [] := entriesOf_eq_nil (by simpa using hy)
              rw [hnone, List.nil_append, List.nil_append]
          · rw [mergedBy_cons_of_not_lt hlt, entriesOf_cons, ih (List.pairwise_cons.mp hxs).2,
              entriesOf_cons x xs, List.append_assoc]

/-- Parts of a list that are sorted are sorted together by merging them. -/
theorem IsSortOf.append {others : List α} (hxs : IsSortOf key items xs)
    (hys : IsSortOf key others ys) : IsSortOf key (items ++ others) (mergedBy key xs ys) where
  pairwise := pairwise_mergedBy hxs.pairwise hys.pairwise
  entriesOf_eq value := by
    rw [entriesOf_mergedBy hxs.pairwise, entriesOf_append, hxs.entriesOf_eq, hys.entriesOf_eq]

/-! ## Runs -/

omit [LinearOrder κ] in
theorem pairwise_of_isChain (precedes : κ → κ → Prop) [Trans precedes precedes precedes]
    (h : xs.IsChain fun x y => precedes (key x) (key y)) :
    xs.Pairwise fun x y => precedes (key x) (key y) :=
  List.pairwise_map.mp ((List.isChain_map key).mpr h).pairwise

section

variable {below : α → α → Except ε Bool} (hbelow : Compares below key known)

include hbelow

/-- What comes off behind an item goes on in the direction that is asked for. -/
theorem exists_runAfter_eq (descending : Bool) {last : α} (hlast : known last)
    (hitems : ∀ item ∈ items, known item) :
    ∃ run others, runAfter below descending last items = .ok (run, others) ∧
      items = run ++ others ∧
      (last :: run).IsChain fun x y => decide (key y < key x) = descending := by
  induction items generalizing last with
  | nil => exact ⟨[], [], rfl, rfl, by simp⟩
  | cons item items ih =>
      obtain ⟨hitem, hitems⟩ := List.forall_mem_cons.mp hitems
      rw [runAfter, hbelow item last hitem hlast]
      by_cases hgoes : decide (key item < key last) = descending
      · obtain ⟨run, others, hrun, rfl, hchain⟩ := ih hitem hitems
        refine ⟨item :: run, others, ?_, rfl, .cons_cons hgoes hchain⟩
        change (if decide (key item < key last) == descending then _ else _) = _
        rw [if_pos (by simpa using hgoes), hrun]
        rfl
      · refine ⟨[], item :: items, ?_, rfl, by simp⟩
        change (if decide (key item < key last) == descending then _ else _) = _
        rw [if_neg (by simpa using hgoes)]
        rfl

/-- The run that comes off at the start is what was there, sorted. -/
theorem exists_firstRun_eq (hitems : ∀ item ∈ items, known item) :
    ∃ run front others, firstRun below items = .ok (run, others) ∧ items = front ++ others ∧
      IsSortOf key front run ∧ (items ≠ [] → front ≠ []) := by
  match items with
  | [] => exact ⟨[], [], [], rfl, rfl, isSortOf_self .nil, id⟩
  | [item] => exact ⟨[item], [item], [], rfl, rfl, isSortOf_self (by simp), fun _ => by simp⟩
  | first :: second :: items =>
      obtain ⟨hfirst, hrest⟩ := List.forall_mem_cons.mp hitems
      obtain ⟨hsecond, hrest⟩ := List.forall_mem_cons.mp hrest
      obtain ⟨run, others, hrun, rfl, hchain⟩ :=
        exists_runAfter_eq hbelow (decide (key second < key first)) hsecond hrest
      have hwhole : (first :: second :: run).IsChain fun x y =>
          decide (key y < key x) = decide (key second < key first) := .cons_cons rfl hchain
      refine ⟨if decide (key second < key first) then (first :: second :: run).reverse
        else first :: second :: run, first :: second :: run, others, ?_, rfl, ?_, by simp⟩
      · rw [firstRun, hbelow second first hsecond hfirst]
        change (runAfter _ _ _ _ >>= _) = _
        rw [hrun]
        rfl
      · by_cases hlt : key second < key first
        · rw [decide_eq_true hlt] at hwhole ⊢
          rw [if_pos rfl]
          exact isSortOf_reverse (pairwise_of_isChain (· > ·)
            (hwhole.imp fun x y h => of_decide_eq_true h))
        · rw [decide_eq_false hlt] at hwhole ⊢
          rw [if_neg Bool.false_ne_true]
          exact isSortOf_self (pairwise_of_isChain (· ≤ ·)
            (hwhole.imp fun x y h => not_lt.mp (of_decide_eq_false h)))

/-- An item is put into a run where merging it would put it. -/
theorem insertSorted_eq {item : α} (hitem : known item) (hrun : IsRun key known run) :
    insertSorted below item run = .ok (mergedBy key run [item]) := by
  fun_induction insertSorted below item run with
  | case1 run hdrop =>
      have hnil : run = [] := by
        have := List.drop_eq_nil_iff.mp hdrop
        exact List.length_eq_zero_iff.mp (by omega)
      rw [hnil, nil_mergedBy]
  | case2 run middle after hdrop before ihbefore ihafter =>
      have hsplit : run = before ++ middle :: after := by
        rw [← hdrop]
        exact (List.take_append_drop _ _).symm
      rw [hsplit] at hrun ⊢
      have hbehind := hrun.of_append_right
      simp only [hbelow item middle hitem (hbehind.known middle List.mem_cons_self)]
      by_cases hlt : key item < key middle
      · rw [append_mergedBy_of_lt before _ [item] fun y hy x hx =>
          List.mem_singleton.mp hy ▸ hlt.trans_le (hbehind.head_le x hx)]
        rw [decide_eq_true hlt]
        change (insertSorted below item before >>= _) = _
        rw [ihbefore hrun.of_append_left]
        rfl
      · have hkept : ∀ x ∈ before ++ [middle], ∀ y ∈ [item], ¬ key y < key x := by
          rw [List.append_cons] at hrun
          intro x hx y hy hbefore
          rw [List.mem_singleton.mp hy] at hbefore
          exact hlt (hbefore.trans_le (hrun.of_append_left.le_last x hx))
        rw [List.append_cons, append_mergedBy (before ++ [middle]) after [item] hkept,
          List.append_assoc, decide_eq_false hlt]
        change (insertSorted below item after >>= _) = _
        rw [ihafter hbehind.of_cons]
        rfl

theorem exists_foldlM_insertSorted_eq (taken : List α) (hsort : IsSortOf key front run)
    (hknown : ∀ item ∈ front ++ taken, known item) :
    ∃ longer, taken.foldlM (fun run item => insertSorted below item run) run = .ok longer ∧
      IsSortOf key (front ++ taken) longer := by
  induction taken generalizing front run with
  | nil => exact ⟨run, rfl, by rwa [List.append_nil]⟩
  | cons item taken ih =>
      rw [List.append_cons] at hknown ⊢
      have hinsert := insertSorted_eq hbelow (hknown item (by simp))
        (hsort.isRun fun x hx => hknown x (by simp [hx]))
      obtain ⟨longer, hlonger, hlongerSort⟩ := ih (hsort.append (isSortOf_self (by simp))) hknown
      refine ⟨longer, ?_, hlongerSort⟩
      rw [List.foldlM_cons, hinsert]
      exact hlonger

/-- A run that takes up the items after it is these items, sorted. -/
theorem exists_longRun_eq (least : Nat) (hitems : ∀ item ∈ items, known item) :
    ∃ run front others, longRun below least items = .ok (run, others) ∧ items = front ++ others ∧
      IsSortOf key front run ∧ (items ≠ [] → front ≠ []) := by
  obtain ⟨run, front, others, hrun, rfl, hsort, hne⟩ := exists_firstRun_eq hbelow hitems
  let taken := others.take (least - run.length)
  let kept := others.drop (least - run.length)
  have hsplit : front ++ others = (front ++ taken) ++ kept := by
    rw [List.append_assoc, List.take_append_drop]
  obtain ⟨longer, hlonger, hlongerSort⟩ := exists_foldlM_insertSorted_eq hbelow taken hsort
    fun item hitem => hitems item (hsplit ▸ List.mem_append_left _ hitem)
  refine ⟨longer, front ++ taken, kept, ?_, hsplit, hlongerSort, fun h =>
    List.append_ne_nil_of_left_ne_nil (hne h) _⟩
  rw [longRun, hrun]
  change (taken.foldlM (fun run item => insertSorted below item run) run >>= _) = _
  rw [hlonger]
  rfl

end

/-! ## Pieces -/

/-- Runs, the last one first, that hold the items of a list in their order. -/
structure Cut (key : α → κ) (known : α → Prop) (items : List α) (runs : List (List α)) : Prop where
  isRun : ∀ run ∈ runs, IsRun key known run
  entriesOf_eq : ∀ value, entriesOf key runs.reverse.flatten value = entriesOf key items value
  length_le : runs.length ≤ items.length

theorem cut_nil : Cut key known [] [] where
  isRun := by simp
  entriesOf_eq _ := rfl
  length_le := le_rfl

theorem Cut.push {runs : List (List α)} (h : Cut key known items runs)
    (hsort : IsSortOf key front run) (hrun : IsRun key known run) (hne : front ≠ []) :
    Cut key known (items ++ front) (run :: runs) where
  isRun := List.forall_mem_cons.mpr ⟨hrun, h.isRun⟩
  entriesOf_eq value := by
    rw [List.reverse_cons, List.flatten_concat, entriesOf_append, entriesOf_append, h.entriesOf_eq,
      hsort.entriesOf_eq]
  length_le := by
    have hlength := h.length_le
    have hpos := List.length_pos_of_ne_nil hne
    rw [List.length_cons, List.length_append]
    omega

/-- Merging two runs that follow each other keeps what the runs hold. -/
theorem Cut.merge (later : List (List α)) {earlier : List (List α)}
    (h : Cut key known items (later ++ ys :: xs :: earlier)) :
    Cut key known items (later ++ mergedBy key xs ys :: earlier) := by
  have hxs := h.isRun xs (by simp)
  have hys := h.isRun ys (by simp)
  refine ⟨fun run hrun => ?_, fun value => ?_, ?_⟩
  · rcases List.mem_append.mp hrun with hrun | hrun
    · exact h.isRun run (List.mem_append_left _ hrun)
    rcases List.mem_cons.mp hrun with rfl | hrun
    · refine ((isSortOf_self hxs.pairwise).append (isSortOf_self hys.pairwise)).isRun ?_
      exact fun x hx => (List.mem_append.mp hx).elim (hxs.known x) (hys.known x)
    · exact h.isRun run (by simp [hrun])
  · rw [← h.entriesOf_eq value]
    simp [entriesOf_mergedBy hxs.pairwise]
  · have hlength := h.length_le
    simp only [List.length_append, List.length_cons] at hlength ⊢
    omega

/-- Once there is at most one run, it is the list sorted. -/
theorem Cut.isSortOf {runs : List (List α)} (h : Cut key known items runs)
    (hone : runs.length ≤ 1) : IsSortOf key items runs.reverse.flatten where
  pairwise := by
    match runs, hone with
    | [], _ => exact .nil
    | [run], _ => simpa using (h.isRun run (by simp)).pairwise
  entriesOf_eq := h.entriesOf_eq

section

variable {below : α → α → Except ε Bool} (hbelow : Compares below key known)
  {pieces : List (Piece α)}

include hbelow

theorem exists_mergeLast_eq {second first : Piece α} (patience : Nat)
    (hfirst : IsRun key known first.run) (hsecond : IsRun key known second.run) :
    ∃ patience', mergeLast below (second :: first :: pieces, patience) =
      .ok ({ first with run := mergedBy key first.run second.run } :: pieces, patience') := by
  obtain ⟨patience', hmerge⟩ := merges_mergeRuns hbelow hfirst hsecond patience
  refine ⟨patience', ?_⟩
  rw [mergeLast, hmerge]
  rfl

theorem exists_mergeDeeper_eq (limit fuel patience : Nat)
    (h : Cut key known items (pieces.map Piece.run)) :
    ∃ pieces' patience',
      mergeDeeper below limit fuel (pieces, patience) = .ok (pieces', patience') ∧
      Cut key known items (pieces'.map Piece.run) := by
  induction fuel generalizing pieces patience with
  | zero => exact ⟨pieces, patience, by unfold mergeDeeper; rfl, h⟩
  | succ fuel ih =>
      match pieces with
      | [] => exact ⟨[], patience, by unfold mergeDeeper; rfl, h⟩
      | [piece] => exact ⟨[piece], patience, by unfold mergeDeeper; rfl, h⟩
      | second :: first :: pieces =>
          rw [mergeDeeper]
          split
          · obtain ⟨patience', hlast⟩ := exists_mergeLast_eq hbelow patience
              (h.isRun first.run (by simp)) (h.isRun second.run (by simp))
            rw [hlast]
            exact ih patience' (h.merge [])
          · exact ⟨_, patience, rfl, h⟩

theorem exists_addRun_eq (size start patience : Nat)
    (h : Cut key known items (pieces.map Piece.run)) (hsort : IsSortOf key front run)
    (hrun : IsRun key known run) (hne : front ≠ []) :
    ∃ pieces' patience', addRun below size start run (pieces, patience) = .ok (pieces', patience') ∧
      Cut key known (items ++ front) (pieces'.map Piece.run) := by
  match pieces with
  | [] => exact ⟨_, patience, rfl, h.push hsort hrun hne⟩
  | last :: pieces =>
      obtain ⟨pieces', patience', hdeeper, hkept⟩ :=
        exists_mergeDeeper_eq hbelow (depth size run.length last) size patience h
      rw [addRun, hdeeper]
      match pieces' with
      | [] => exact ⟨_, patience', rfl, hkept.push hsort hrun hne⟩
      | last :: pieces' => exact ⟨_, patience', rfl, hkept.push hsort hrun hne⟩

theorem exists_collect_eq (size least fuel patience : Nat) {done : List α}
    (h : Cut key known done (pieces.map Piece.run)) (hitems : ∀ item ∈ items, known item)
    (hfuel : items.length ≤ fuel) :
    ∃ pieces' patience',
      collect below size least fuel items (pieces, patience) = .ok (pieces', patience') ∧
        Cut key known (done ++ items) (pieces'.map Piece.run) := by
  induction fuel generalizing items done pieces patience with
  | zero =>
      obtain rfl := List.length_eq_zero_iff.mp (Nat.le_zero.mp hfuel)
      exact ⟨pieces, patience, by unfold collect; rfl, by rwa [List.append_nil]⟩
  | succ fuel ih =>
      match items with
      | [] => exact ⟨pieces, patience, by unfold collect; rfl, by rwa [List.append_nil]⟩
      | item :: items =>
          obtain ⟨run, front, others, hlong, hsplit, hsort, hne⟩ :=
            exists_longRun_eq hbelow least hitems
          have hfront := hne (List.cons_ne_nil item items)
          rw [hsplit] at hitems
          have hrun := hsort.isRun fun x hx => hitems x (List.mem_append_left _ hx)
          obtain ⟨pieces', patience', hadd, hkept⟩ := exists_addRun_eq hbelow size
            (size - items.length - 1) patience h hsort hrun hfront
          have hlength := congrArg List.length hsplit
          have hpos := List.length_pos_of_ne_nil hfront
          rw [List.length_append] at hlength
          rw [collect, hlong]
          change ∃ _ _, (addRun _ _ _ _ _ >>= _) = _ ∧ _
          rw [hadd, hsplit, ← List.append_assoc]
          exact ih patience' hkept (fun x hx => hitems x (List.mem_append_right _ hx)) (by omega)

/-- Each merge leaves one piece less, so the fuel is enough for as many pieces. -/
theorem exists_mergeAll_eq (fuel patience : Nat) (h : Cut key known items (pieces.map Piece.run))
    (hfuel : pieces.length ≤ fuel + 1) :
    ∃ run, mergeAll below fuel (pieces, patience) = .ok run ∧ IsSortOf key items run := by
  have hend : ∀ pieces : List (Piece α), Cut key known items (pieces.map Piece.run) →
      pieces.length ≤ 1 → IsSortOf key items (pieces.reverse.flatMap Piece.run) := by
    intro pieces h hone
    rw [List.flatMap_def, List.map_reverse]
    exact h.isSortOf (by rwa [List.length_map])
  induction fuel generalizing pieces patience with
  | zero => exact ⟨_, by unfold mergeAll; rfl, hend pieces h hfuel⟩
  | succ fuel ih =>
      match pieces with
      | [] => exact ⟨_, by unfold mergeAll; rfl, hend [] h (by simp)⟩
      | [piece] => exact ⟨_, by unfold mergeAll; rfl, hend [piece] h (by simp)⟩
      | [second, first] =>
          obtain ⟨patience', hlast⟩ := exists_mergeLast_eq hbelow patience
            (h.isRun first.run (by simp)) (h.isRun second.run (by simp))
          unfold mergeAll
          change ∃ _, (mergeLast _ _ >>= _) = _ ∧ _
          rw [hlast]
          exact ih patience' (h.merge []) (by simp)
      | third :: second :: first :: pieces =>
          have hfirst := h.isRun first.run (by simp)
          have hsecond := h.isRun second.run (by simp)
          have hthird := h.isRun third.run (by simp)
          simp only [List.length_cons] at hfuel
          rw [mergeAll]
          split
          · obtain ⟨patience', hlast⟩ := exists_mergeLast_eq hbelow patience hfirst hsecond
            rw [hlast]
            exact ih patience' (h.merge [third.run]) (by simp only [List.length_cons]; omega)
          · obtain ⟨patience', hlast⟩ := exists_mergeLast_eq hbelow patience hsecond hthird
            rw [hlast]
            exact ih patience' (h.merge []) (by simp only [List.length_cons]; omega)

/-- A comparison that compares keys sorts by the keys. -/
theorem sortedWith_eq (hitems : ∀ item ∈ items, known item) :
    sortedWith below items = .ok (sortedBy key items) := by
  have hstart : Cut key known [] (([] : List (Piece α)).map Piece.run) := cut_nil
  obtain ⟨pieces, patience, hcollect, hcut⟩ := exists_collect_eq hbelow items.length
    (leastRun 0 items.length) items.length initialPatience hstart hitems le_rfl
  rw [List.nil_append] at hcut
  have hlength := hcut.length_le
  rw [List.length_map] at hlength
  obtain ⟨run, hmerge, hsort⟩ :=
    exists_mergeAll_eq hbelow items.length patience hcut (by omega)
  unfold sortedWith
  dsimp only
  rw [hcollect, ← hsort.eq_sortedBy]
  exact hmerge

end

end SqlAccess.Sorting
