import SelfIsolation.Filter.Basic

/-! # Filters that compile

A filter compiles when it leaves a way to exit and each of its names has a number
or is covered by a call that has one. The filter of every profile does
(`SelfIsolation.Filter.compile_ofProfile`).
-/

namespace SelfIsolation

/-- Holds of the names that a filter may hold on this architecture. -/
def CallTable.isCovered (name : String) : Bool :=
  (number? name).isSome || ((equivalent? name).bind number?).isSome

namespace Filter

/-- Names that are covered have numbers. -/
theorem numbers_ok {names : List String}
    (covered : ∀ name ∈ names, CallTable.isCovered name = true) :
    ∃ found, numbers names = .ok found := by
  induction names with
  | nil => exact ⟨[], rfl⟩
  | cons name names ih =>
      have rest := ih fun other member => covered other (List.mem_cons_of_mem _ member)
      obtain ⟨found, rest⟩ := rest
      have here := covered name List.mem_cons_self
      unfold CallTable.isCovered at here
      cases known : CallTable.number? name with
      | some number =>
          refine ⟨FilterProgram.insertNumber number found, ?_⟩
          simp only [numbers, known, rest, Except.map]
      | none =>
          rw [known, Option.isSome_none, Bool.false_or] at here
          refine ⟨found, ?_⟩
          simp only [numbers, known, here, ↓reduceIte, rest]

theorem mem_names {filter : Filter} {name : String} :
    name ∈ filter.names ↔ name ∈ filter.allowed := by
  rw [names, List.mem_mergeSort, List.mem_eraseDups]

/-- A filter that allows the end of all threads is valid. -/
theorem validate_ok {filter : Filter} (exits : filter.allows "exit_group" = true) :
    filter.validate = .ok () := by
  have nonempty : filter.allowed.isEmpty = false := by
    cases listed : filter.allowed with
    | nil =>
        rw [allows, listed] at exits
        cases exits
    | cons name names => rfl
  unfold validate
  rw [nonempty, exits]
  rfl

/-- A valid filter compiles where all its names are covered. -/
theorem compile_ok {filter : Filter} (valid : filter.validate = .ok ())
    (covered : ∀ name ∈ filter.allowed, CallTable.isCovered name = true) :
    ∃ program, filter.compile = .ok program := by
  obtain ⟨found, numbered⟩ := numbers_ok fun name member => covered name (mem_names.mp member)
  refine ⟨⟨found⟩, ?_⟩
  unfold compile
  rw [valid, numbered]
  rfl

/-- The filter of every profile compiles. -/
theorem compile_ofProfile (profile : FilterProfile) :
    ∃ program, (ofProfile profile).compile = .ok program := by
  cases profile with
  | passt => exact compile_ok (validate_ok (by decide +kernel)) (by decide +kernel)
  | pasta => exact compile_ok (validate_ok (by decide +kernel)) (by decide +kernel)
  | vhostUser => exact compile_ok (validate_ok (by decide +kernel)) (by decide +kernel)

end Filter

end SelfIsolation
