/-!
# Bounded stores

A store keeps at most `capacity` items and counts every item offered to it. An item offered when
the store is full is dropped, but still counted, so `total` is the number of items the whole input
yields whatever the capacity, and the kept items are the first ones offered.

A store may also be made over a buffer of the caller's (`fillOver`): its capacity is the buffer's
length, and each item it keeps is written into the buffer at the next free position.

Main statements: `items_writeAll`, the kept items are the first `capacity` items offered, and
`total_writeAll`, the count is the number offered.
-/

set_option autoImplicit false

namespace HlsManifest

/-- A list with a fixed capacity that counts what it could not keep: it keeps at most `capacity`
items, in the order offered, and `total` counts every item offered. -/
structure Store (α : Type) where
  capacity : Nat
  items : List α
  total : Nat
  deriving DecidableEq, Repr

namespace Store

variable {α : Type}

def empty (capacity : Nat) : Store α :=
  ⟨capacity, [], 0⟩

def isFull (store : Store α) : Bool :=
  store.capacity ≤ store.items.length

/-- Offers an item: it is kept when there is room, and counted either way. -/
def write (store : Store α) (item : α) : Store α :=
  if store.isFull then { store with total := store.total + 1 }
  else { store with items := store.items ++ [item], total := store.total + 1 }

def writeAll (store : Store α) (items : List α) : Store α :=
  items.foldl write store

def truncated (store : Store α) : Bool :=
  store.items.length < store.total

/-- Offers an item to a store made over a buffer: the store counts it and keeps it when there is
room, and a kept item is written into the buffer at the first position after the items kept
before, as appending into the buffer's spare room does. An item dropped writes nothing. -/
def writeOver (state : Store α × List α) (item : α) : Store α × List α :=
  let (store, buffer) := state
  (store.write item, if store.isFull then buffer else buffer.set store.items.length item)

/-- Offers items one after the other to a store made over `buffer`, with room for as many items
as the buffer has positions. -/
def fillOver (buffer items : List α) : Store α × List α :=
  items.foldl writeOver (empty buffer.length, buffer)

/-- What a slice shows after `written` went into its backing array from the front, as appending
into a slice of that array does: each item lands at its position, and one past the slice's end is
out of its view. -/
def overwrite (shown written : List α) : List α :=
  (written ++ shown.drop written.length).take shown.length

theorem length_overwrite (shown written : List α) : (overwrite shown written).length = shown.length := by
  simp only [overwrite, List.length_take, List.length_append, List.length_drop]
  omega

theorem total_write (store : Store α) (item : α) : (store.write item).total = store.total + 1 := by
  unfold write
  split <;> rfl

theorem capacity_write (store : Store α) (item : α) :
    (store.write item).capacity = store.capacity := by
  unfold write
  split <;> rfl

theorem total_writeAll (store : Store α) (items : List α) :
    (store.writeAll items).total = store.total + items.length := by
  induction items generalizing store with
  | nil => rfl
  | cons item rest ih =>
    simp only [writeAll, List.foldl_cons] at ih ⊢
    rw [ih, total_write]
    simp only [List.length_cons]
    omega

theorem write_of_full {store : Store α} (full : store.capacity ≤ store.items.length) (item : α) :
    store.write item = { store with total := store.total + 1 } := by
  unfold write isFull
  simp [full]

theorem write_of_room {store : Store α} (room : store.items.length < store.capacity) (item : α) :
    store.write item = { store with items := store.items ++ [item], total := store.total + 1 } := by
  unfold write isFull
  simp [Nat.not_le.mpr room]

theorem items_writeAll (items : List α) (capacity : Nat) :
    ((empty capacity : Store α).writeAll items).items = items.take capacity := by
  suffices general : ∀ (store : Store α), store.items.length ≤ store.capacity →
      (store.writeAll items).items = store.items ++ items.take (store.capacity - store.items.length) by
    simpa [empty] using general (empty capacity) (by simp [empty])
  induction items with
  | nil => intro store _; simp [writeAll]
  | cons item rest ih =>
    intro store fits
    simp only [writeAll, List.foldl_cons] at ih ⊢
    by_cases full : store.capacity ≤ store.items.length
    · have same : store.capacity - store.items.length = 0 := by omega
      rw [write_of_full full, ih _ (by simpa using fits)]
      simp [same]
    · rw [write_of_room (by omega), ih _ (by simp; omega)]
      have room : store.capacity - store.items.length =
          (store.capacity - (store.items.length + 1)) + 1 := by
        omega
      simp [room]

end Store

end HlsManifest
