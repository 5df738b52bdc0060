import Mathlib.Data.List.Basic

/-!
# Histories

What happens in a run is written down as a list, the last item first.  A history is looked at
item by item, each with what was before it.

**Results.**
* `Throughout.of_split`: what is true throughout a history is true of each item in it.
-/

namespace OutboxRelay

/-- Each item of a history has a property, given what was before it. -/
def Throughout {α : Type} (property : α → List α → Prop) : List α → Prop
  | [] => True
  | last :: past => property last past ∧ Throughout property past

namespace Throughout

variable {α : Type} {property : α → List α → Prop} {history : List α}

theorem of_split (throughout : Throughout property history) {later past : List α} {item : α}
    (split : history = later ++ item :: past) :
    property item past := by
  subst split
  induction later with
  | nil => exact throughout.1
  | cons last later ih => exact ih throughout.2

end Throughout

end OutboxRelay
