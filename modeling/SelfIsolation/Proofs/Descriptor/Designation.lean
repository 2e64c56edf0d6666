import SelfIsolation.Descriptor

/-! # Designation by arguments in parts

Arguments may be looked through in parts: how the scan of a first part ends is all
that the scan of the rest depends on (`SelfIsolation.Descriptor.scan_append`). A
descriptor found early only counts where none is found later
(`SelfIsolation.Descriptor.scan_eq`), and every descriptor found is natural
(`SelfIsolation.Descriptor.natural_of_scan`).
-/

namespace SelfIsolation.Descriptor

variable {text : String} {found : Option Int32}

/-- A descriptor that is read is no negative number. -/
theorem natural_of_read {descriptor : Int32} (known : read text = .ok descriptor) :
    0 ≤ descriptor := by
  unfold read at known
  split at known
  · split at known
    case isTrue natural =>
      cases known
      exact natural
    case isFalse => cases known
  · cases known

/-- Only a text that is no descriptor is refused. -/
theorem read_error {reason : ConfigReason} (refused : read text = .error reason) :
    reason = .invalidDescriptor text := by
  unfold read at refused
  split at refused
  · split at refused
    case isTrue => cases refused
    case isFalse =>
      cases refused
      rfl
  · cases refused
    rfl

/-! ## One argument -/

section Argument

variable {argument : String} (arguments : List String)

/-- An argument of another kind is passed over. -/
theorem scan_unrelated (unrelated : form argument = .unrelated) :
    scan found (argument :: arguments) = scan found arguments := by
  rw [scan.eq_def]
  simp only [unrelated]

/-- An argument with a value attached gives the descriptor that stands in it. -/
theorem scan_attached (attached : form argument = .attached text) :
    scan found (argument :: arguments) =
      read text >>= fun descriptor => scan (some descriptor) arguments := by
  rw [scan.eq_def]
  simp only [attached]
  cases read text <;> rfl

/-- An argument without a value gives the descriptor in the argument after it. -/
theorem scan_separate (separate : form argument = .separate) :
    scan found (argument :: text :: arguments) =
      read text >>= fun descriptor => scan (some descriptor) arguments := by
  rw [scan.eq_def]
  simp only [separate]
  cases read text <;> rfl

/-- Where a value has to follow, what was found before does not count any more. -/
theorem scan_of_separate (separate : form argument = .separate) :
    scan found (argument :: arguments) = designated (argument :: arguments) := by
  rw [designated, scan.eq_def, scan.eq_def none]
  simp only [separate]

end Argument

/-! ## Parts of the arguments -/

/-- How a scan that has ended goes on with further arguments. An argument whose value was missing
takes the first of them. -/
def resume (ended : Except ConfigReason (Option Int32)) (arguments : List String) :
    Except ConfigReason (Option Int32) :=
  match ended with
  | .ok found => scan found arguments
  | .error (.missingDescriptor argument) => designated (argument :: arguments)
  | .error reason => .error reason

theorem resume_refused {reason : ConfigReason} (refused : read text = .error reason)
    (arguments : List String) : resume (.error reason) arguments = .error reason := by
  cases read_error refused
  rfl

/-- **Composition.** Later arguments are read with what the earlier ones have found. -/
theorem scan_append (found : Option Int32) (earlier later : List String) :
    scan found (earlier ++ later) = resume (scan found earlier) later := by
  fun_induction scan found earlier with
  | case1 found => rfl
  | case2 found argument earlier unrelated ih =>
      rw [← ih, List.cons_append, scan_unrelated _ unrelated]
  | case3 found argument earlier value attached descriptor known ih =>
      rw [← ih, List.cons_append, scan_attached _ attached, known]
      rfl
  | case4 found argument earlier value attached reason refused =>
      rw [resume_refused refused, List.cons_append, scan_attached _ attached, refused]
      rfl
  | case5 found argument separate => exact scan_of_separate later separate
  | case6 found argument separate value earlier descriptor known ih =>
      rw [← ih, List.cons_append, List.cons_append, scan_separate _ separate, known]
      rfl
  | case7 found argument separate value earlier reason refused =>
      rw [resume_refused refused, List.cons_append, List.cons_append, scan_separate _ separate,
        refused]
      rfl

/-- A descriptor that was found stands in for those found before it. -/
theorem map_or_some (descriptor : Int32) (found : Option Int32)
    (ended : Except ConfigReason (Option Int32)) :
    ((ended.map fun later => later.or (some descriptor)).map fun later => later.or found) =
      ended.map fun later => later.or (some descriptor) := by
  cases ended with
  | error reason => rfl
  | ok later => cases later <;> rfl

/-- What was found before counts only where nothing is found. -/
theorem scan_eq (found : Option Int32) (arguments : List String) :
    scan found arguments = (designated arguments).map fun later => later.or found := by
  fun_induction scan found arguments with
  | case1 found => rfl
  | case2 found argument arguments unrelated ih =>
      rw [ih, designated, designated, scan_unrelated _ unrelated]
  | case3 found argument arguments value attached descriptor known ih =>
      have first : designated (argument :: arguments) = scan (some descriptor) arguments := by
        rw [designated, scan_attached _ attached, known]
        rfl
      rw [first, ih, map_or_some]
  | case4 found argument arguments value attached reason refused =>
      rw [designated, scan_attached _ attached, refused]
      rfl
  | case5 found argument separate =>
      rw [designated, scan.eq_def]
      simp only [separate]
      rfl
  | case6 found argument separate value arguments descriptor known ih =>
      have first : designated (argument :: value :: arguments) =
          scan (some descriptor) arguments := by
        rw [designated, scan_separate _ separate, known]
        rfl
      rw [first, ih, map_or_some]
  | case7 found argument separate value arguments reason refused =>
      rw [designated, scan_separate _ separate, refused]
      rfl

/-- What is found is natural if what was found before is. -/
theorem natural_of_scan {descriptor : Int32} {arguments : List String}
    (before : ∀ earlier, found = some earlier → 0 ≤ earlier)
    (known : scan found arguments = .ok (some descriptor)) : 0 ≤ descriptor := by
  fun_induction scan found arguments with
  | case1 found =>
      cases known
      exact before _ rfl
  | case2 found argument arguments unrelated ih => exact ih before known
  | case3 found argument arguments value attached earlier read ih =>
      exact ih (by rintro _ ⟨⟩; exact natural_of_read read) known
  | case6 found argument separate value arguments earlier read ih =>
      exact ih (by rintro _ ⟨⟩; exact natural_of_read read) known
  | _ => cases known

/-- **Designation in parts.** Where earlier arguments can be read, further ones decide whether all
can be, and what they designate counts before what the earlier ones do. A text among the earlier
ones that is no descriptor is refused whatever follows, and an argument that lacks its value takes
it from what follows. A designated descriptor is natural and fits its type. -/
theorem designated_append (earlier later : List String) :
    (∀ found, designated earlier = .ok found →
      designated (earlier ++ later) = match designated later with
        | .error reason => .error reason
        | .ok (some descriptor) => .ok (some descriptor)
        | .ok none => .ok found) ∧
    (∀ text, designated earlier = .error (.invalidDescriptor text) →
      designated (earlier ++ later) = .error (.invalidDescriptor text)) ∧
    (∀ argument, designated earlier = .error (.missingDescriptor argument) →
      designated (earlier ++ later) = designated (argument :: later)) ∧
    ∀ descriptor, designated earlier = .ok (some descriptor) →
      0 ≤ descriptor.toInt ∧ descriptor.toInt ≤ 2147483647 := by
  have parts : designated (earlier ++ later) = resume (designated earlier) later :=
    scan_append none earlier later
  refine ⟨fun found read => ?_, fun text refused => ?_, fun argument lacking => ?_,
    fun descriptor read => ⟨?_, ?_⟩⟩
  · rw [parts, read, resume, scan_eq]
    cases designated later with
    | error reason => rfl
    | ok found => cases found <;> rfl
  · rw [parts, refused]
    rfl
  · rw [parts, lacking]
    rfl
  · exact Int32.le_iff_toInt_le.mp (natural_of_scan (by rintro _ ⟨⟩) read)
  · exact descriptor.toInt_le

/-- The last of two descriptors counts, and after a text that is none nothing does. -/
example : designated ["--fd", "5", "-F6"] = .ok (some 6) ∧
    designated ["--fd=x", "-F6"] = .error (.invalidDescriptor "x") := ⟨rfl, rfl⟩

end SelfIsolation.Descriptor
