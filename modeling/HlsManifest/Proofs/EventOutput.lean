import HlsManifest.Proofs.EventReplay
import HlsManifest.Proofs.Capacity

/-!
# Writing events into the caller's output

`Event.decodeOver` writes the events of a manifest into an output the caller owns, through a
store made over that output (`Store.fillOver`). Such a store keeps one invariant: the buffer holds
the items kept so far at its front, and after them what it held before (`Store.Over`). A write
keeps it (`Store.Over.writeOver`), hence so does a whole run (`Store.Over.foldl`). The output
therefore ends as the first events that fit, over the front of what it held, whatever its length;
the count runs on past the room, so a first call with no room sizes a second one that stores every
event (`Event.decodeOver_sized_by_count`).

Main statement: `Event.decodeOver_writes_prefix`.
-/

set_option autoImplicit false

namespace HlsManifest

namespace Store

variable {α : Type}

/-- A store made over `buffer`, with the buffer as written so far: the items kept stand at its
front and the rest is what `buffer` held there. -/
structure Over (buffer : List α) (state : Store α × List α) : Prop where
  capacity : state.1.capacity = buffer.length
  fits : state.1.items.length ≤ state.1.capacity
  written : state.2 = state.1.items ++ buffer.drop state.1.items.length

theorem over_empty (buffer : List α) : Over buffer (empty buffer.length, buffer) :=
  ⟨rfl, Nat.zero_le _, by simp [empty]⟩

/-- Writing at the first free position of a buffer that holds `items` and then the rest of
`buffer` puts the item right after them. -/
theorem set_append_drop {items buffer : List α} (room : items.length < buffer.length) (item : α) :
    (items ++ buffer.drop items.length).set items.length item =
      (items ++ [item]) ++ buffer.drop (items.length + 1) := by
  rw [List.set_append, if_neg (Nat.lt_irrefl _), Nat.sub_self, List.drop_eq_getElem_cons room,
    List.set_cons_zero, List.append_assoc, List.singleton_append]

theorem Over.writeOver {buffer : List α} {state : Store α × List α} (invariant : Over buffer state)
    (item : α) : Over buffer (writeOver state item) := by
  obtain ⟨store, written⟩ := state
  obtain ⟨capacity, fits, writtenEq⟩ := invariant
  dsimp only at capacity fits writtenEq
  by_cases full : store.capacity ≤ store.items.length
  · -- the item is dropped: the store keeps its items and nothing is written
    have dropped : Store.writeOver (store, written) item =
        ({ store with total := store.total + 1 }, written) := by
      simp [Store.writeOver, isFull, full, write_of_full full]
    rw [dropped]
    exact ⟨capacity, fits, writtenEq⟩
  · -- the item is kept and written at the first free position
    have room : store.items.length < store.capacity := Nat.lt_of_not_le full
    have kept : Store.writeOver (store, written) item =
        ({ store with items := store.items ++ [item], total := store.total + 1 },
          written.set store.items.length item) := by
      simp [Store.writeOver, isFull, full, write_of_room room]
    rw [kept]
    refine ⟨capacity, by simp; omega, ?_⟩
    dsimp only
    rw [writtenEq, set_append_drop (by omega), List.length_append, List.length_singleton]

theorem Over.foldl {buffer : List α} {state : Store α × List α} (invariant : Over buffer state)
    (items : List α) : Over buffer (items.foldl Store.writeOver state) := by
  induction items generalizing state with
  | nil => exact invariant
  | cons item rest ih => exact ih (invariant.writeOver item)

theorem foldl_writeOver_fst (items : List α) (state : Store α × List α) :
    (items.foldl writeOver state).1 = state.1.writeAll items := by
  induction items generalizing state with
  | nil => rfl
  | cons item rest ih => rw [List.foldl_cons, ih]; rfl

/-- A store made over a buffer keeps what a store of the buffer's length keeps, and leaves the
buffer as the items kept followed by the rest of what it held. -/
theorem fillOver_eq (buffer items : List α) :
    fillOver buffer items =
      ((empty buffer.length).writeAll items, items.take buffer.length ++ buffer.drop items.length) := by
  have invariant := (over_empty buffer).foldl items
  have store := foldl_writeOver_fst items (empty buffer.length, buffer)
  rw [← fillOver] at invariant store
  have kept : ((empty buffer.length : Store α).writeAll items).items = items.take buffer.length :=
    items_writeAll items buffer.length
  -- past the kept items, dropping more of the buffer drops nothing more of it
  have rest : buffer.drop (items.take buffer.length).length = buffer.drop items.length := by
    rw [List.length_take]
    by_cases fits : items.length ≤ buffer.length
    · rw [Nat.min_eq_right fits]
    · rw [Nat.min_eq_left (by omega), List.drop_eq_nil_of_le (Nat.le_refl _),
        List.drop_eq_nil_of_le (by omega)]
  apply Prod.ext store
  rw [invariant.written, store, kept, rest]

/-- Position by position, a buffer that a store was made over holds the items kept where they were
written, and what it held everywhere else. -/
theorem getElem?_fillOver (buffer items : List α) (index : Nat) :
    (fillOver buffer items).2[index]? =
      if index < min buffer.length items.length then items[index]? else buffer[index]? := by
  rw [fillOver_eq]
  dsimp only
  by_cases kept : index < min buffer.length items.length
  · rw [if_pos kept, List.getElem?_append_left (by rw [List.length_take]; omega),
      List.getElem?_take, if_pos (by omega)]
  · rw [if_neg kept, List.getElem?_append_right (by rw [List.length_take]; omega),
      List.getElem?_drop, List.length_take]
    by_cases fits : items.length ≤ buffer.length
    · congr 1
      omega
    · -- the whole buffer was written over, so both positions lie past its end
      rw [List.getElem?_eq_none (by omega), List.getElem?_eq_none (by omega)]

end Store

theorem openingError?_eq (data : Bytes) :
    openingError? data =
      if data = [] then some .invalidArgument
      else if Record.header data = Directive.header then none else some .malformedHeader := by
  by_cases empty : data = []
  · subst empty
    exact openingError?_nil
  · by_cases header : Record.header data = Directive.header
    · rw [if_neg empty, if_pos header, openingError?_eq_none empty header]
    · rw [if_neg empty, if_neg header, openingError?_of_header_ne empty header]

namespace Event

theorem decodeOver_of_openingError {data : Bytes} {error : ManifestError}
    (failed : openingError? data = some error) (output : List Event) :
    decodeOver data output = ⟨⟨0, [], false⟩, some error, output⟩ := by
  simp [decodeOver, list_of_openingError failed]

/-- Once the events are listed, the call reports them all, keeps the first that fit, and writes
those over the front of the output. -/
theorem decodeOver_of_list {data : Bytes} {events : List Event} (listed : list data = .ok events)
    (output : List Event) :
    decodeOver data output =
      ⟨⟨events.length, events.take output.length,
          decide (0 < output.length ∧ output.length < events.length)⟩,
        none, events.take output.length ++ output.drop events.length⟩ := by
  simp only [decodeOver, listed, Store.fillOver_eq, Store.total_writeAll_empty,
    Store.items_writeAll, Store.truncated_writeAll, Bool.decide_and]

/-- The call on the caller's output reports what the call on the output's length reports. -/
theorem decodeInto_length (data : Bytes) (output : List Event) :
    decodeInto data output.length =
      match (decodeOver data output).error with
      | some error => .error error
      | none => .ok (decodeOver data output).batch := by
  cases opening : openingError? data with
  | some error =>
      rw [decodeOver_of_openingError opening]
      simp [decodeInto, list_of_openingError opening, bind, Except.bind]
  | none =>
      rw [decodeOver_of_list (list_of_opened opening)]
      simp only [decodeInto, list_of_opened opening, bind, Except.bind, pure, Except.pure,
        Store.total_writeAll_empty, Store.items_writeAll, Store.truncated_writeAll, Bool.decide_and]

/-- Writing the events of a manifest into the caller's output, of any length. The call fails
exactly when the buffer is empty, an invalid argument, or its first record is not `#EXTM3U`, a
malformed header; it then reports nothing and leaves the output as it was. Otherwise it reports
every event of the manifest whatever the room, stores the first ones that fit, and says it
truncated only when there was room for some but not all of them; each stored event is written at
its own position and every later position keeps what it held. -/
theorem decodeOver_writes_prefix (data : Bytes) (output : List Event) :
    (decodeOver data output).error =
        (if data = [] then some .invalidArgument
        else if Record.header data = Directive.header then none else some .malformedHeader) ∧
    ((decodeOver data output).error ≠ none →
      (decodeOver data output).batch = ⟨0, [], false⟩ ∧ (decodeOver data output).output = output) ∧
    ((decodeOver data output).error = none → ∃ events, list data = .ok events ∧
      (decodeOver data output).batch.total = events.length ∧
      (decodeOver data output).batch.events = events.take output.length ∧
      (decodeOver data output).batch.events.length = min output.length events.length ∧
      (decodeOver data output).batch.truncated =
        decide (0 < output.length ∧ output.length < events.length) ∧
      (decodeOver data output).output.length = output.length ∧
      (∀ index < (decodeOver data output).batch.events.length,
        (decodeOver data output).output[index]? = events[index]?) ∧
      ∀ index, (decodeOver data output).batch.events.length ≤ index →
        (decodeOver data output).output[index]? = output[index]?) := by
  cases opening : openingError? data with
  | some error =>
      have call := decodeOver_of_openingError opening output
      refine ⟨by rw [call, ← openingError?_eq, opening], fun _ => by rw [call]; exact ⟨rfl, rfl⟩,
        fun opened => by rw [call] at opened; cases opened⟩
  | none =>
      have listed := list_of_opened opening
      have written := Store.getElem?_fillOver output ((Record.body data).map ofRecord)
      rw [Store.fillOver_eq] at written
      rw [decodeOver_of_list listed]
      refine ⟨by rw [← openingError?_eq, opening], fun failed => absurd rfl failed,
        fun _ => ⟨_, listed, rfl, rfl, List.length_take, rfl, ?_, fun index below => ?_,
          fun index past => ?_⟩⟩
      · simp only [List.length_append, List.length_take, List.length_drop]
        omega
      · rw [List.length_take] at below
        rw [written, if_pos below]
      · rw [List.length_take] at past
        rw [written, if_neg (Nat.not_lt.mpr past)]

/-- Two events written into an output with room for three: both are stored in order, the call is
not truncated, and the third place keeps what it held. -/
theorem decodeOver_writes_prefix_room_to_spare :
    let data := Bytes.ofString "#EXTM3U\n#EXTINF:1,\na\n"
    let filler : Event := ⟨.endList, 0, Span.zero, Span.zero, 0, 0⟩
    ∃ events, list data = .ok events ∧
      (decodeOver data [filler, filler, filler]).batch.events = events ∧
      (decodeOver data [filler, filler, filler]).batch.truncated = false ∧
      (decodeOver data [filler, filler, filler]).output[2]? = some filler := by
  intro data filler
  have opened : (decodeOver data [filler, filler, filler]).error = none := by
    decide +kernel
  have computed : list data =
      .ok [⟨.extInf, 2, ⟨16, 1⟩, ⟨18, 0⟩, 1000000, 0⟩, ⟨.uri, 3, ⟨19, 1⟩, ⟨0, 0⟩, 0, 0⟩] := by
    decide +kernel
  have facts := decodeOver_writes_prefix data [filler, filler, filler]
  obtain ⟨events, listed, -, stored, length, truncated, -, -, kept⟩ := facts.2.2 opened
  rw [computed, Except.ok.injEq] at listed
  subst listed
  refine ⟨_, computed, ?_, ?_, ?_⟩
  · rw [stored]
    rfl
  · rw [truncated]
    decide
  · rw [kept 2 (by rw [length]; decide)]
    rfl

/-- A call with no room counts the events; a second call into an output of that length stores
every event, in order, and is not truncated. -/
theorem decodeOver_sized_by_count {data : Bytes} (opened : openingError? data = none)
    {output : List Event} (sized : output.length = (decodeOver data []).batch.total) :
    (decodeOver data output).output = (Record.body data).map ofRecord ∧
      (decodeOver data output).batch =
        ⟨((Record.body data).map ofRecord).length, (Record.body data).map ofRecord, false⟩ := by
  have listed := list_of_opened opened
  rw [decodeOver_of_list listed] at sized ⊢
  dsimp only at sized
  rw [sized, List.take_of_length_le (Nat.le_refl _), List.drop_eq_nil_of_le (Nat.le_of_eq sized),
    List.append_nil]
  simp

end Event

end HlsManifest
