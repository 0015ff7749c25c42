import Mathlib.Data.List.Induction
import SqlAccess.Proofs.Engine.Exchange

/-!
# Open connections

A journal tells which connections are open: those whose request succeeded and that
were not closed since (`IsOpen`).  For each kind of entry there is one lemma that
says what becomes of the open connections when it is added.

A journal is disciplined if everything that was asked of a connection was asked while
it was open (`Disciplined`).  In such a journal no connection is closed twice
(`Disciplined.closings_le_one`), and one that never came about was never used
(`Disciplined.uses_eq_nil`).
-/

namespace SqlAccess

variable {ν : Type}

/-- The reply to a request for a connection. -/
def Event.joining? : Event ν → Option Reply
  | .call (.connect _ _) reply => some reply
  | _ => none

/-- The replies to the requests for a connection, in order. -/
def joinings (journal : List (Event ν)) : List Reply :=
  journal.filterMap Event.joining?

/-- The connection came about: handles number the requests for a connection, and the
one of this number succeeded. -/
def CameAbout (handle : Handle) (journal : List (Event ν)) : Prop :=
  ∃ index reply, handle.number = index + 1 ∧ (joinings journal)[index]? = some reply ∧
    reply.fault = none

/-- Whether a connection was closed by this. -/
def Use.isClosing : Use → Bool
  | .closing _ => true
  | .exchange _ => false

/-- How often the engine was asked to close a connection. -/
def closings (handle : Handle) (journal : List (Event ν)) : Nat :=
  (uses handle journal).countP Use.isClosing

/-- The connection came about, and was not closed since. -/
def IsOpen (handle : Handle) (journal : List (Event ν)) : Prop :=
  CameAbout handle journal ∧ closings handle journal = 0

/-- Everything that was asked of a connection was asked while it was open. -/
def Disciplined (journal : List (Event ν)) : Prop :=
  ∀ first event last handle, journal = first ++ event :: last →
    event.handle? = some handle → IsOpen handle first

section

variable {journal : List (Event ν)} {handle other : Handle} {reply : Reply}

@[simp] theorem joinings_append (first second : List (Event ν)) :
    joinings (first ++ second) = joinings first ++ joinings second :=
  List.filterMap_append

@[simp] theorem joinings_map_event (handle : Handle) (exchanges : List Exchange) :
    joinings (exchanges.map (Exchange.event handle) : List (Event ν)) = [] :=
  List.filterMap_eq_nil_iff.mpr (List.forall_mem_map.mpr fun _ _ => rfl)

@[simp] theorem joinings_map_note (notes : List ν) :
    joinings (notes.map .note : List (Event ν)) = [] :=
  List.filterMap_eq_nil_iff.mpr (List.forall_mem_map.mpr fun _ _ => rfl)

theorem closings_append (handle : Handle) (first second : List (Event ν)) :
    closings handle (first ++ second) = closings handle first + closings handle second := by
  rw [closings, uses_append, List.countP_append]
  rfl

/-! ## What becomes of the open connections -/

theorem cameAbout_congr {first second : List (Event ν)} (h : joinings second = joinings first) :
    CameAbout handle second ↔ CameAbout handle first := by
  unfold CameAbout
  rw [h]

theorem closings_map_event (exchanges : List Exchange) :
    closings other (exchanges.map (Exchange.event handle) : List (Event ν)) = 0 := by
  refine List.countP_eq_zero.mpr fun use huse => ?_
  by_cases hother : other = handle
  · rw [hother, uses_map_event_self] at huse
    obtain ⟨exchange, -, rfl⟩ := List.mem_map.mp huse
    simp [Use.isClosing]
  · rw [uses_map_event_of_ne hother] at huse
    cases huse

/-- Statements open and close nothing. -/
theorem isOpen_append_exchanges (exchanges : List Exchange) :
    IsOpen other (journal ++ exchanges.map (Exchange.event handle)) ↔ IsOpen other journal := by
  have hjoinings : joinings (journal ++ exchanges.map (Exchange.event handle)) =
      joinings journal := by simp
  rw [IsOpen, cameAbout_congr hjoinings, closings_append, closings_map_event]
  rfl

theorem isOpen_append_notes (notes : List ν) :
    IsOpen handle (journal ++ notes.map .note) ↔ IsOpen handle journal := by
  have hjoinings : joinings (journal ++ notes.map .note) = joinings journal := by simp
  have hclosings : closings handle (notes.map .note : List (Event ν)) = 0 := by
    rw [closings, uses_map_note, List.countP_nil]
  rw [IsOpen, cameAbout_congr hjoinings, closings_append, hclosings]
  rfl

theorem closings_append_close :
    closings other (journal ++ [.call (.close handle) reply]) =
      closings other journal + if handle = other then 1 else 0 := by
  rw [closings_append]
  refine congrArg (closings other journal + ·) ?_
  by_cases hother : handle = other
  · simp [closings, uses, Event.use?, hother, Use.isClosing]
  · simp [closings, uses, Event.use?, hother]

/-- Closing a connection leaves the others open. -/
theorem isOpen_append_close :
    IsOpen other (journal ++ [.call (.close handle) reply]) ↔
      IsOpen other journal ∧ other ≠ handle := by
  have hjoinings : joinings (journal ++ [.call (.close handle) reply]) = joinings journal := by
    simp [joinings, Event.joining?]
  rw [IsOpen, cameAbout_congr hjoinings, closings_append_close, IsOpen]
  by_cases hother : handle = other
  · simp [hother]
  · simp [hother, Ne.symm hother]

section

variable {path : String} {timeout : Floating}

theorem joinings_append_connect :
    joinings (journal ++ [.call (.connect path timeout) reply]) = joinings journal ++ [reply] := by
  rw [joinings_append]
  rfl

theorem closings_append_connect :
    closings other (journal ++ [.call (.connect path timeout) reply]) =
      closings other journal := by
  rw [closings_append]
  rfl

theorem cameAbout_append_connect :
    CameAbout other (journal ++ [.call (.connect path timeout) reply]) ↔
      CameAbout other journal ∨
        other.number = (joinings journal).length + 1 ∧ reply.fault = none := by
  simp only [CameAbout, joinings_append_connect, List.getElem?_append, List.getElem?_singleton]
  constructor
  · rintro ⟨index, found, hnumber, hfound, hfault⟩
    split at hfound
    · exact .inl ⟨index, found, hnumber, hfound, hfault⟩
    · split at hfound
      · obtain rfl := Option.some.inj hfound
        exact .inr ⟨by omega, hfault⟩
      · cases hfound
  · rintro (⟨index, found, hnumber, hfound, hfault⟩ | ⟨hnumber, hfault⟩)
    · have hindex := (List.getElem?_eq_some_iff.mp hfound).1
      exact ⟨index, found, hnumber, by rw [if_pos hindex, hfound], hfault⟩
    · exact ⟨(joinings journal).length, reply, hnumber, by simp, hfault⟩

/-- A request that is refused opens nothing. -/
theorem isOpen_append_refused (hfault : reply.fault.isSome) :
    IsOpen other (journal ++ [.call (.connect path timeout) reply]) ↔ IsOpen other journal := by
  have hsome : reply.fault ≠ none := Option.isSome_iff_ne_none.mp hfault
  rw [IsOpen, cameAbout_append_connect, closings_append_connect, IsOpen]
  simp [hsome]

end

/-! ## Disciplined journals -/

theorem disciplined_nil : Disciplined ([] : List (Event ν)) := by
  intro first event last handle hjournal
  simp at hjournal

/-- An entry more needs the connection that it is about to be open. -/
theorem Disciplined.concat {event : Event ν} (h : Disciplined journal)
    (hopen : ∀ handle, event.handle? = some handle → IsOpen handle journal) :
    Disciplined (journal ++ [event]) := by
  intro first found last handle hjournal hhandle
  -- the entry is the last one, or it was there before
  rcases List.eq_nil_or_concat last with rfl | ⟨last, final, rfl⟩
  · obtain ⟨rfl, hevent⟩ := List.append_inj' hjournal rfl
    obtain rfl := List.singleton_inj.mp hevent
    exact hopen handle hhandle
  · rw [List.concat_eq_append, ← List.cons_append, ← List.append_assoc] at hjournal
    obtain ⟨rfl, -⟩ := List.append_inj' hjournal rfl
    exact h first found last handle rfl hhandle

theorem Disciplined.of_append {first second : List (Event ν)} (h : Disciplined (first ++ second)) :
    Disciplined first := by
  rintro start event last handle rfl hhandle
  exact h start event (last ++ second) handle (by simp) hhandle

theorem Disciplined.append_notes (h : Disciplined journal) (notes : List ν) :
    Disciplined (journal ++ notes.map .note) := by
  induction notes generalizing journal with
  | nil => simpa using h
  | cons entry notes ih =>
      have hnext : Disciplined (journal ++ [.note entry]) := h.concat nofun
      simpa using ih hnext

theorem Disciplined.append_exchanges (h : Disciplined journal) (hopen : IsOpen handle journal)
    (exchanges : List Exchange) :
    Disciplined (journal ++ exchanges.map (Exchange.event handle)) := by
  induction exchanges generalizing journal with
  | nil => simpa using h
  | cons exchange exchanges ih =>
      have hnext : Disciplined (journal ++ [Exchange.event handle exchange]) := by
        refine h.concat fun other hother => ?_
        obtain rfl := Option.some.inj hother
        exact hopen
      have hstill : IsOpen handle (journal ++ [Exchange.event handle exchange]) :=
        (isOpen_append_exchanges [exchange]).mpr hopen
      simpa using ih hnext hstill

theorem Disciplined.append_close (h : Disciplined journal) (hopen : IsOpen handle journal) :
    Disciplined (journal ++ [.call (.close handle) reply]) := by
  refine h.concat fun other hother => ?_
  obtain rfl := Option.some.inj hother
  exact hopen

/-- What was used had come about. -/
theorem Disciplined.uses_eq_nil (h : Disciplined journal) (hnever : ¬ CameAbout handle journal) :
    uses handle journal = [] := by
  refine SqlAccess.uses_eq_nil fun event hevent hhandle => hnever ?_
  obtain ⟨first, last, rfl⟩ := List.append_of_mem hevent
  obtain ⟨⟨index, reply, hnumber, hreply, hfault⟩, -⟩ := h first event last handle rfl hhandle
  refine ⟨index, reply, hnumber, ?_, hfault⟩
  rw [joinings_append, List.getElem?_append_left (List.getElem?_eq_some_iff.mp hreply).1, hreply]

/-- No connection is closed twice. -/
theorem Disciplined.closings_le_one (h : Disciplined journal) (handle : Handle) :
    closings handle journal ≤ 1 := by
  induction journal using List.reverseRecOn with
  | nil => exact Nat.zero_le 1
  | append_singleton journal event ih =>
      have hbefore := ih h.of_append
      have hopen := h journal event [] handle rfl
      match event with
      | .call (.close other) reply =>
          rw [closings_append_close]
          by_cases hother : other = handle
          · have hzero := (hopen (congrArg some hother)).2
            simp [hother, hzero]
          · simpa [hother] using hbefore
      | .call (.execute other statement) reply =>
          have hexchange : closings handle ([.call (.execute other statement) reply] :
              List (Event ν)) = 0 := closings_map_event [⟨statement, reply⟩]
          rw [closings_append, hexchange]
          exact hbefore
      | .call (.connect path timeout) reply =>
          rw [closings_append_connect]
          exact hbefore
      | .note entry =>
          rw [closings_append]
          exact hbefore

/-- A request that succeeds opens the connection of its number. -/
theorem Disciplined.isOpen_append_connect {path : String} {timeout : Floating}
    (h : Disciplined journal) (hfault : reply.fault = none)
    (hnumber : handle.number = (joinings journal).length + 1) :
    IsOpen other (journal ++ [.call (.connect path timeout) reply]) ↔
      IsOpen other journal ∨ other = handle := by
  have hnever : ¬ CameAbout handle journal := by
    rintro ⟨index, found, hindex, hfound, -⟩
    have hlt := (List.getElem?_eq_some_iff.mp hfound).1
    omega
  have hunused : closings handle journal = 0 := by
    rw [closings, h.uses_eq_nil hnever, List.countP_nil]
  have heq : other.number = (joinings journal).length + 1 ↔ other = handle := by
    rw [← hnumber]
    exact ⟨fun hsame => by cases other; cases handle; congr, congrArg Handle.number⟩
  rw [IsOpen, cameAbout_append_connect, closings_append_connect, heq, IsOpen]
  constructor
  · rintro ⟨hcame | ⟨rfl, -⟩, hclosings⟩
    · exact .inl ⟨hcame, hclosings⟩
    · exact .inr rfl
  · rintro (⟨hcame, hclosings⟩ | rfl)
    · exact ⟨.inl hcame, hclosings⟩
    · exact ⟨.inr ⟨rfl, hfault⟩, hunused⟩

end

end SqlAccess
