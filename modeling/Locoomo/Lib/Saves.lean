import Mathlib.Init

/-! Writing an entity back. The save of an object-relational mapper reads the
row once more and sets only the columns in which the entity differs from that
read; every other column keeps what the row holds by then. -/

namespace Saves

variable {α : Type} [DecidableEq α]

/-- A column after the save of an entity, of its re-read value and of the value
the row holds when the save is executed. -/
def column (entity reread current : α) : α := if entity = reread then current else entity

/-- A column in which the entity agrees with the re-read row is left alone. -/
@[simp] theorem column_unchanged (entity current : α) :
    column entity entity current = current := if_pos rfl

/-- With no write between the re-read and the save, the column is the entity's. -/
@[simp] theorem column_current (entity current : α) : column entity current current = entity := by
  unfold column
  split
  · next h => exact h.symm
  · rfl

/-- After a save a column is the row's or the entity's. -/
theorem column_eq_or (entity reread current : α) :
    column entity reread current = current ∨ column entity reread current = entity := by
  unfold column
  split
  · exact Or.inl rfl
  · exact Or.inr rfl

/-- A save leaves a column alone just when it finds it unmoved, by its re-read
or by what the row holds in the end. -/
theorem column_eq_current {entity reread current : α} :
    column entity reread current = current ↔ entity = reread ∨ entity = current := by
  unfold column
  split
  · next h => simp [h]
  · next h => simp [h]

end Saves
