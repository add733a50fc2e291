/-!
# Stores

A store keeps cells in the order in which they were made. A cell can be overwritten but is never
given back, so its address stays good.
-/

namespace WalkFilter

/-- Where a cell stands. -/
structure Address (α : Type) where
  /-- The number of cells that were made before. -/
  index : Nat
deriving DecidableEq, Repr

/-- The cells that were made so far. -/
structure Store (α : Type) where
  /-- The cells in order. -/
  cells : List α := []
deriving DecidableEq, Repr

namespace Store

variable {α : Type} {store : Store α} {address other : Address α} {value : α}

/-- There is a cell at the address. -/
def Live (store : Store α) (address : Address α) : Prop := address.index < store.cells.length

instance : Decidable (store.Live address) :=
  inferInstanceAs (Decidable (address.index < store.cells.length))

/-- The address of the cell that is made next. -/
def fresh (store : Store α) : Address α := ⟨store.cells.length⟩

/-- One more cell. -/
def push (store : Store α) (value : α) : Store α := ⟨store.cells ++ [value]⟩

/-- The store with a cell overwritten. -/
def put (store : Store α) (address : Address α) (value : α) : Store α :=
  ⟨store.cells.set address.index value⟩

/-- What the cell at a live address holds. -/
def get [Inhabited α] (store : Store α) (address : Address α) : α :=
  store.cells.getD address.index default

theorem not_live_fresh : ¬store.Live store.fresh := Nat.lt_irrefl _

theorem live_push_fresh : (store.push value).Live store.fresh := by
  simp [Live, push, fresh]

theorem live_push_of_live (live : store.Live address) : (store.push value).Live address := by
  simp only [Live, push, List.length_append, List.length_singleton] at live ⊢
  omega

/-- A cell of a grown store is the new one or an old one. -/
theorem live_push_cases (live : (store.push value).Live address) :
    address = store.fresh ∨ store.Live address := by
  obtain ⟨index⟩ := address
  simp only [Live, push, List.length_append, List.length_singleton] at live
  simp only [Live, fresh, Address.mk.injEq]
  omega

theorem live_put : (store.put address value).Live other ↔ store.Live other := by
  simp [Live, put]

theorem ne_fresh (live : store.Live address) : address ≠ store.fresh := by
  rintro rfl
  exact not_live_fresh live

variable [Inhabited α]

theorem get_push_fresh : (store.push value).get store.fresh = value := by
  simp [get, push, fresh]

theorem get_push_of_live (live : store.Live address) :
    (store.push value).get address = store.get address := by
  have bound : address.index < store.cells.length := live
  simp [get, push, List.getElem?_append_left bound]

theorem get_put_self (live : store.Live address) :
    (store.put address value).get address = value := by
  have bound : address.index < store.cells.length := live
  simp [get, put, bound]

theorem get_put_of_ne (ne : other ≠ address) :
    (store.put address value).get other = store.get other := by
  obtain ⟨index⟩ := address
  obtain ⟨other_index⟩ := other
  have index_ne : index ≠ other_index := fun same => ne (by rw [same])
  simp [get, put, List.getElem?_set_ne index_ne]

/-- Overwriting a cell with what it holds changes nothing. -/
theorem put_get : store.put address (store.get address) = store := by
  obtain ⟨cells⟩ := store
  by_cases bound : address.index < cells.length
  · simp [get, put, bound]
  · simp [put, List.set_eq_of_length_le (Nat.le_of_not_lt bound)]

end Store

end WalkFilter
