/-! # Separated fields

Fields that are written one after another with a separator between them hold what
the fields and the separators hold.
-/

namespace SelfIsolation

/-- What stands in separated fields is a separator or stands in a field. -/
theorem mem_of_mem_intercalate {separator c : Char} {fields : List (List Char)}
    (member : c ∈ [separator].intercalate fields) :
    c = separator ∨ ∃ field ∈ fields, c ∈ field := by
  induction fields with
  | nil => cases member
  | cons field fields ih =>
      cases fields with
      | nil =>
          rw [List.intercalate_singleton] at member
          exact .inr ⟨field, List.mem_cons_self, member⟩
      | cons next fields =>
          rw [List.intercalate_cons_cons, List.mem_append, List.mem_append] at member
          rcases member with (here | between) | later
          · exact .inr ⟨field, List.mem_cons_self, here⟩
          · exact .inl (List.mem_singleton.mp between)
          · rcases ih later with same | ⟨other, listed, there⟩
            · exact .inl same
            · exact .inr ⟨other, List.mem_cons_of_mem _ listed, there⟩

/-- Fields of bounded length, with what separates them, are bounded together. -/
theorem length_intercalate_le {separator : Char} {bound : Nat} {fields : List (List Char)}
    (nonempty : fields ≠ []) (short : ∀ field ∈ fields, field.length ≤ bound) :
    ([separator].intercalate fields).length + 1 ≤ (bound + 1) * fields.length := by
  induction fields with
  | nil => exact absurd rfl nonempty
  | cons field fields ih =>
      have here : field.length ≤ bound := short field List.mem_cons_self
      cases fields with
      | nil =>
          rw [List.intercalate_singleton, List.length_singleton]
          omega
      | cons next fields =>
          have there := ih (List.cons_ne_nil _ _)
            fun field member => short field (List.mem_cons_of_mem _ member)
          rw [List.intercalate_cons_cons, List.length_append, List.length_append,
            List.length_singleton, List.length_cons, Nat.mul_succ]
          omega

end SelfIsolation
