import Mathlib.Data.Finset.Card
import SelfIsolation.Host.FilterLoad
import SelfIsolation.Proofs.Filter.Compile

/-! # What filters compile to

Two names of the call table never share a number, so the names of a filter and the
numbers of its program answer each other one for one
(`SelfIsolation.Filter.compile_exact`).
-/

namespace SelfIsolation

namespace CallTable

/-- No two calls have the same number. -/
theorem entries_numbers_nodup : (entries.map Prod.snd).Nodup := by
  decide

/-- A name with a number is in the table. -/
theorem mem_entries_of_number {name : String} {number : Nat}
    (known : number? name = some number) : (name, number) ∈ entries := by
  unfold number? at known
  obtain ⟨entry, found, numbered⟩ := Option.map_eq_some_iff.mp known
  have named := List.find?_some found
  rw [decide_eq_true_eq] at named
  rw [← named, ← numbered]
  exact List.mem_of_find?_eq_some found

/-- Two names of one number are one name. -/
theorem number_injective {left right : String} {number : Nat}
    (first : number? left = some number) (second : number? right = some number) :
    left = right := by
  have same := List.inj_on_of_nodup_map entries_numbers_nodup
    (mem_entries_of_number first) (mem_entries_of_number second) rfl
  exact congrArg Prod.fst same

/-- A name is covered if it has a number, or an equivalent one that does. -/
theorem isCovered_spelled (name : String) :
    isCovered name = true ↔
      (number? name).isSome = true ∨
        ∃ other, equivalent? name = some other ∧ (number? other).isSome = true := by
  rw [isCovered, Bool.or_eq_true]
  cases equivalent? name with
  | none => simp only [Option.bind_none, Option.isSome_none, reduceCtorEq, false_and, exists_false]
  | some other => simp only [Option.bind_some, Option.some_inj, exists_eq_left']

/-- On this architecture what another call covers is itself known. -/
theorem isCovered_iff (name : String) : isCovered name = true ↔ (number? name).isSome = true := by
  unfold isCovered equivalent?
  split
  · decide
  · simp only [Option.bind_none, Option.isSome_none, Bool.or_false]

end CallTable

namespace FilterProgram

variable {number : Nat} {numbers : List Nat}

/-- Inserting adds a number and no other. -/
theorem mem_insertNumber {other : Nat} :
    other ∈ insertNumber number numbers ↔ other = number ∨ other ∈ numbers := by
  induction numbers with
  | nil => simp only [insertNumber, List.mem_cons]
  | cons first rest ih =>
      simp only [insertNumber]
      split
      · simp only [List.mem_cons]
      · split
        case isTrue same =>
          subst same
          simp only [List.mem_cons, or_self_left]
        case isFalse =>
          simp only [List.mem_cons, ih]
          exact or_left_comm

/-- Inserting keeps numbers ascending. -/
theorem insertNumber_ascending (ascending : numbers.Pairwise (· < ·)) :
    (insertNumber number numbers).Pairwise (· < ·) := by
  induction numbers with
  | nil => exact List.pairwise_singleton _ _
  | cons first rest ih =>
      obtain ⟨below, ascending⟩ := List.pairwise_cons.mp ascending
      simp only [insertNumber]
      split
      case isTrue smaller =>
        have above : ∀ other ∈ first :: rest, number < other := by
          intro other member
          cases List.mem_cons.mp member with
          | inl same => rwa [same]
          | inr member => exact Nat.lt_trans smaller (below other member)
        exact List.pairwise_cons.mpr ⟨above, List.pairwise_cons.mpr ⟨below, ascending⟩⟩
      case isFalse larger =>
        split
        case isTrue => exact List.pairwise_cons.mpr ⟨below, ascending⟩
        case isFalse different =>
          apply List.pairwise_cons.mpr ⟨?_, ih ascending⟩
          intro other member
          cases mem_insertNumber.mp member with
          | inl same => omega
          | inr member => exact below other member

end FilterProgram

namespace Filter

section Names

variable {names : List String} {found : List Nat}

/-- The first of several names adds its number, or none if an equivalent one covers it. -/
theorem numbers_cons_ok {name : String} (numbered : numbers (name :: names) = .ok found) :
    (∃ number others, CallTable.number? name = some number ∧ numbers names = .ok others ∧
        found = FilterProgram.insertNumber number others) ∨
      CallTable.number? name = none ∧ CallTable.isCovered name = true ∧
        numbers names = .ok found := by
  unfold numbers at numbered
  split at numbered
  case h_1 number known =>
    cases rest : numbers names with
    | error reason =>
        rw [rest] at numbered
        cases numbered
    | ok others =>
        rw [rest] at numbered
        cases numbered
        exact .inl ⟨number, others, known, rfl, rfl⟩
  case h_2 unknown =>
    split at numbered
    case isTrue covered =>
      refine .inr ⟨unknown, ?_, numbered⟩
      rw [CallTable.isCovered, covered, Bool.or_true]
    case isFalse => cases numbered

/-- Names that have numbers are covered. -/
theorem covered_of_numbers (numbered : numbers names = .ok found) :
    ∀ name ∈ names, CallTable.isCovered name = true := by
  induction names generalizing found with
  | nil =>
      intro name member
      cases member
  | cons first rest ih =>
      intro name member
      obtain ⟨number, others, known, remaining, -⟩ | ⟨-, covered, remaining⟩ :=
        numbers_cons_ok numbered
      · cases List.mem_cons.mp member with
        | inl same => rw [same, CallTable.isCovered, known, Option.isSome_some, Bool.true_or]
        | inr member => exact ih remaining name member
      · cases List.mem_cons.mp member with
        | inl same => rw [same, covered]
        | inr member => exact ih remaining name member

/-- The numbers of names ascend. -/
theorem numbers_ascending (numbered : numbers names = .ok found) : found.Pairwise (· < ·) := by
  induction names generalizing found with
  | nil =>
      cases numbered
      exact List.Pairwise.nil
  | cons first rest ih =>
      obtain ⟨number, others, -, remaining, rfl⟩ | ⟨-, -, remaining⟩ := numbers_cons_ok numbered
      · exact FilterProgram.insertNumber_ascending (ih remaining)
      · exact ih remaining

/-- The numbers of names are those of each of them. -/
theorem mem_numbers (numbered : numbers names = .ok found) {number : Nat} :
    number ∈ found ↔ ∃ name ∈ names, CallTable.number? name = some number := by
  induction names generalizing found with
  | nil =>
      cases numbered
      simp only [List.not_mem_nil, false_and, exists_false]
  | cons first rest ih =>
      rw [List.exists_mem_cons_iff]
      obtain ⟨here, others, known, remaining, rfl⟩ | ⟨unknown, -, remaining⟩ :=
        numbers_cons_ok numbered
      · rw [FilterProgram.mem_insertNumber, ih remaining, known, Option.some_inj, eq_comm]
      · simp only [ih remaining, unknown, reduceCtorEq, false_or]

/-- Names that are listed once have as many numbers. -/
theorem numbers_length (distinct : names.Nodup) (numbered : numbers names = .ok found) :
    found.length = names.length := by
  have known : ∀ name ∈ names, (CallTable.number? name).isSome = true := fun name member =>
    (CallTable.isCovered_iff name).mp (covered_of_numbers numbered name member)
  have separate : (names.filterMap CallTable.number?).Nodup :=
    distinct.filterMap fun _ _ _ first second => CallTable.number_injective first second
  have once : found.Nodup := (numbers_ascending numbered).imp Nat.ne_of_lt
  have same : found.Perm (names.filterMap CallTable.number?) := by
    apply (List.perm_ext_iff_of_nodup once separate).mpr
    intro number
    rw [mem_numbers numbered, List.mem_filterMap]
  rw [same.length_eq]
  exact List.filterMap_length_eq_length.mpr known

end Names

/-- A list without its repetitions has none. -/
theorem eraseDups_nodup {names : List String} : names.eraseDups.Nodup := by
  induction found : names.length using Nat.strongRecOn generalizing names with
  | ind length ih =>
      cases names with
      | nil => exact List.nodup_nil
      | cons first rest =>
          rw [List.eraseDups_cons, List.nodup_cons, List.mem_eraseDups]
          constructor
          · simp only [List.mem_filter, beq_self_eq_true, Bool.not_true, Bool.false_eq_true,
              and_false, not_false_eq_true]
          · apply ih _ _ rfl
            rw [← found, List.length_cons, Nat.lt_succ_iff]
            exact List.length_filter_le _ _

variable {filter : Filter}

theorem names_nodup : filter.names.Nodup :=
  (List.mergeSort_perm _ _).nodup_iff.mpr eraseDups_nodup

/-- A filter counts the calls that it allows once each. -/
theorem count_eq_card : filter.count = filter.allowed.toFinset.card := by
  rw [count, ← List.toFinset_card_of_nodup names_nodup]
  congr 1
  ext name
  rw [List.mem_toFinset, List.mem_toFinset, mem_names]

theorem allows_iff {name : String} : filter.allows name = true ↔ name ∈ filter.allowed := by
  rw [allows, List.contains_iff_mem]

/-- A filter is valid if it allows a process or a thread to end. -/
theorem validate_iff :
    filter.validate = .ok () ↔ filter.allows "exit" = true ∨ filter.allows "exit_group" = true := by
  unfold validate
  split
  case isTrue empty =>
    have nothing : filter.allowed = [] := List.isEmpty_iff.mp empty
    simp only [allows, nothing, List.contains_nil, reduceCtorEq, Bool.false_eq_true, or_self]
  case isFalse =>
    cases filter.allows "exit" <;> cases filter.allows "exit_group" <;> decide

/-- A filter is compiled if it is valid and its names have numbers, and to these numbers. -/
theorem compile_ok_iff {program : FilterProgram} :
    filter.compile = .ok program ↔
      filter.validate = .ok () ∧ numbers filter.names = .ok program.numbers := by
  unfold compile
  cases filter.validate with
  | error reason => simp only [bind, Except.bind, reduceCtorEq, false_and]
  | ok _ =>
      cases numbers filter.names with
      | error reason => simp only [bind, Except.bind, reduceCtorEq, and_false]
      | ok found =>
          cases program
          simp only [bind, Except.bind, pure, Except.pure, Except.ok.injEq,
            FilterProgram.mk.injEq, true_and]

/-- A filter compiles exactly where it leaves a way to exit and holds covered names alone. -/
theorem compiles_iff :
    (∃ program, filter.compile = .ok program) ↔
      (filter.allows "exit" = true ∨ filter.allows "exit_group" = true) ∧
        ∀ name, filter.allows name = true → CallTable.isCovered name = true := by
  constructor
  · rintro ⟨program, compiled⟩
    obtain ⟨valid, numbered⟩ := compile_ok_iff.mp compiled
    refine ⟨validate_iff.mp valid, fun name allowed => ?_⟩
    exact covered_of_numbers numbered name (mem_names.mpr (allows_iff.mp allowed))
  · rintro ⟨exits, covered⟩
    exact compile_ok (validate_iff.mpr exits) fun name member =>
      covered name (allows_iff.mpr member)

section Compiled

variable {program : FilterProgram} (compiled : filter.compile = .ok program)
include compiled

/-- A compiled filter has the numbers of the calls that it allows. -/
theorem mem_compiled {number : Nat} :
    number ∈ program.numbers ↔
      ∃ name, filter.allows name = true ∧ CallTable.number? name = some number := by
  rw [mem_numbers (compile_ok_iff.mp compiled).right]
  simp only [mem_names, allows_iff]

/-- A call that a compiled filter allows has a number. -/
theorem number_of_allowed {name : String} (allowed : filter.allows name = true) :
    ∃ number ∈ program.numbers, CallTable.number? name = some number := by
  have covered := (compiles_iff.mp ⟨program, compiled⟩).right name allowed
  obtain ⟨number, known⟩ := Option.isSome_iff_exists.mp ((CallTable.isCovered_iff name).mp covered)
  exact ⟨number, (mem_compiled compiled).mpr ⟨name, allowed, known⟩, known⟩

/-- A compiled filter has five instructions for each call and five more. -/
theorem compiled_size : program.size = 5 * filter.count + 5 := by
  rw [FilterProgram.size, numbers_length names_nodup (compile_ok_iff.mp compiled).right, count]

end Compiled

/-- A filter that is not compiled is not installed, and changes nothing. -/
theorem installFilter_refused {reason : FilterReason} (refused : filter.compile = .error reason)
    (machine : Machine Host) :
    Host.installFilter filter machine = .error (.filter reason) machine := by
  unfold Host.installFilter
  rw [refused]
  rfl

/-- **A filter compiles to one rule for each of its names.** It compiles exactly where it
leaves a way to exit and each of its names is known or covered by one that is. Its program
then permits the numbers of its names and nothing else, no two names share a number, and
each name costs five instructions. Loading a filter that does not compile fails for the
same reason and leaves the machine as it was. -/
theorem compile_exact (filter : Filter) :
    ((∃ program, filter.compile = .ok program) ↔
        (filter.allows "exit" = true ∨ filter.allows "exit_group" = true) ∧
          ∀ name, filter.allows name = true →
            (CallTable.number? name).isSome = true ∨
              ∃ other, CallTable.equivalent? name = some other ∧
                (CallTable.number? other).isSome = true) ∧
      (∀ program, filter.compile = .ok program →
        program.numbers.Pairwise (· < ·) ∧
          (∀ name, filter.allows name = true →
            ∃ number ∈ program.numbers, CallTable.number? name = some number) ∧
          (∀ number ∈ program.numbers,
            ∃! name, filter.allows name = true ∧ CallTable.number? name = some number) ∧
          (∀ number, program.permits number = true ↔
            ∃ name, filter.allows name = true ∧ CallTable.number? name = some number) ∧
          program.numbers.length = filter.allowed.toFinset.card ∧
          program.size = 5 * filter.allowed.toFinset.card + 5) ∧
      ∀ reason, filter.compile = .error reason →
        ∀ machine : Machine Host,
          Host.installFilter filter machine = .error (.filter reason) machine := by
  refine ⟨?_, ?_, fun reason refused machine => installFilter_refused refused machine⟩
  · simp only [compiles_iff, CallTable.isCovered_spelled]
  · intro program compiled
    obtain ⟨-, numbered⟩ := compile_ok_iff.mp compiled
    refine ⟨numbers_ascending numbered, fun name => number_of_allowed compiled, ?_, ?_, ?_, ?_⟩
    · intro number member
      obtain ⟨name, allowed, known⟩ := (mem_compiled compiled).mp member
      refine ⟨name, ⟨allowed, known⟩, ?_⟩
      rintro other ⟨-, alike⟩
      exact CallTable.number_injective alike known
    · intro number
      rw [FilterProgram.permits, List.contains_iff_mem, mem_compiled compiled]
    · rw [← count_eq_card, numbers_length names_nodup numbered, count]
    · rw [compiled_size compiled, count_eq_card]

/-- A name counts once, and what is not named is not permitted. -/
theorem compile_exact_repeated :
    (∃ program, compile ⟨["exit", "read", "exit"], .passt⟩ = .ok program ∧
        program.permits 0 = true ∧ program.permits 60 = true ∧ ¬ program.permits 1 = true ∧
        program.size = 15) ∧
      ∀ machine : Machine Host, Host.installFilter ⟨["read"], .passt⟩ machine =
        .error (.filter .allowsNoExit) machine := by
  obtain ⟨accepted, exact, -⟩ := compile_exact ⟨["exit", "read", "exit"], .passt⟩
  have known : ∀ name ∈ ["exit", "read", "exit"], (CallTable.number? name).isSome = true := by
    decide
  obtain ⟨program, compiled⟩ := accepted.mpr
    ⟨.inl (by decide), fun name allowed => .inl (known name (allows_iff.mp allowed))⟩
  obtain ⟨-, -, -, permitted, -, size⟩ := exact program compiled
  refine ⟨⟨program, compiled, ?_, ?_, ?_, size⟩, ?_⟩
  · exact (permitted 0).mpr ⟨"read", by decide, by decide⟩
  · exact (permitted 60).mpr ⟨"exit", by decide, by decide⟩
  · intro permits
    obtain ⟨name, allowed, numbered⟩ := (permitted 1).mp permits
    have other : ∀ name ∈ ["exit", "read", "exit"], CallTable.number? name ≠ some 1 := by
      decide
    exact other name (allows_iff.mp allowed) numbered
  · intro machine
    exact (compile_exact ⟨["read"], .passt⟩).right.right .allowsNoExit rfl machine

end Filter

end SelfIsolation
