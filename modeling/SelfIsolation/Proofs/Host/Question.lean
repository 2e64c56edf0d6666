import SelfIsolation.Host.Kernel
import SelfIsolation.Proofs.Capability.Inclusion

/-! # Calls and questions on a host

A call on a host is traced with its end; one that succeeds follows the rule of the
system, and one that fails changes nothing (`SelfIsolation.Host.make_ok`,
`SelfIsolation.Host.make_error`). A question is any number of calls that leave the
system as it is. What it answers and which calls it made are said together
(`SelfIsolation.Host.Answers`), so that the bounding set can be told from the 64
readings of which it is made (`SelfIsolation.Host.boundingSet_answers`).
-/

namespace SelfIsolation

/-- A number other than zero is the raw number of which it is the name. -/
theorem Errno.eq_of_ofCode {code : Int} {errno : Errno} (named : ofCode code = errno)
    (known : errno.number ≠ 0) : code = errno.number := by
  subst named
  unfold ofCode at known ⊢
  cases found : known? code with
  | none =>
      rw [found] at known
      exact absurd rfl known
  | some entry =>
      have same := List.find?_some found
      exact (of_decide_eq_true same).symm

namespace System

variable {system next : System} {bit : Nat}

/-- A path that is found to be a directory is one. -/
theorem mem_directories_of_status {path : String} {entry : Bool × Nat}
    (known : system.status path = .ok entry) (found : entry.1 = true) :
    path ∈ system.directories := by
  rw [← List.contains_iff_mem]
  unfold status at known
  cases number : system.inodes.lookup path with
  | some inode =>
      simp only [number, Except.ok.injEq] at known
      rw [← known] at found
      exact found
  | none =>
      simp only [number] at known
      split at known
      case isTrue directory => exact directory
      case isFalse => cases known

/-- A bit that could be read is told as it is. -/
theorem readBounding_ok {present : Bool} (read : system.readBounding bit = .ok present) :
    present = system.bounding.containsBit bit := by
  unfold readBounding at read
  split at read
  case isTrue =>
      cases read
      rfl
  case isFalse => cases read

/-- Dropping a bit erases it from the bounding set and changes nothing else. -/
theorem dropBounding_ok (dropped : system.dropBounding bit = .ok next) :
    next = { system with bounding := system.bounding.eraseBit bit } := by
  unfold dropBounding at dropped
  split at dropped
  case isTrue =>
      cases dropped
      rfl
  case isFalse => cases dropped

end System

namespace Host

variable {α β ε : Type} {call : SystemCall} {host next : Host}

section Call

variable {rule : System → Except Int (α × System)}

/-- A call that succeeds follows its rule. -/
theorem make_ok {value : α} (made : make call rule host = .ok value next) :
    ∃ script system, rule host.system = .ok (value, system) ∧
      next = { system, script, trace := host.trace ++ [⟨call, none⟩] } := by
  unfold make at made
  cases scripted : (host.scripted call).1 with
  | some code => simp only [scripted, reduceCtorEq] at made
  | none =>
      cases ruled : rule host.system with
      | error code => simp only [scripted, ruled, reduceCtorEq] at made
      | ok answer =>
          simp only [scripted, ruled, EStateM.Result.ok.injEq] at made
          obtain ⟨rfl, rfl⟩ := made
          exact ⟨_, _, rfl, rfl⟩

/-- A call that fails changes nothing. -/
theorem make_error {code : Int} (made : make call rule host = .error code next) :
    ∃ script, next = { host with script, trace := host.trace ++ [⟨call, some code⟩] } := by
  unfold make at made
  cases scripted : (host.scripted call).1 with
  | some failure =>
      simp only [scripted, EStateM.Result.error.injEq] at made
      obtain ⟨rfl, rfl⟩ := made
      exact ⟨_, rfl⟩
  | none =>
      cases ruled : rule host.system with
      | error failure =>
          simp only [scripted, ruled, EStateM.Result.error.injEq] at made
          obtain ⟨rfl, rfl⟩ := made
          exact ⟨_, rfl⟩
      | ok answer => simp only [scripted, ruled, reduceCtorEq] at made

end Call

/-- A question that is answered is one call, which leaves the system as it is. -/
theorem ask_ok {rule : System → Except Int α} {value : α}
    (asked : ask call rule host = .ok value next) :
    rule host.system = .ok value ∧
      ∃ script, next = { host with script, trace := host.trace ++ [⟨call, none⟩] } := by
  obtain ⟨script, system, ruled, rfl⟩ := make_ok asked
  cases told : rule host.system with
  | error code =>
      rw [told] at ruled
      cases ruled
  | ok answer =>
      rw [told] at ruled
      cases ruled
      exact ⟨rfl, script, rfl⟩

/-- A question leaves the system as it is and says of it, with the calls it made, what `answer`
says. -/
def Answers (question : StateM Host α) (answer : System → α → List CallEvent → Prop) : Prop :=
  ∀ host, (question.run host).2.system = host.system ∧
    ∃ events, (question.run host).2.trace = host.trace ++ events ∧
      answer host.system (question.run host).1 events

theorem Answers.weaken {question : StateM Host α}
    {answer answer' : System → α → List CallEvent → Prop} (answers : Answers question answer)
    (implies : ∀ system value events, answer system value events → answer' system value events) :
    Answers question answer' := by
  intro host
  obtain ⟨same, events, traced, answered⟩ := answers host
  exact ⟨same, events, traced, implies _ _ _ answered⟩

theorem Answers.pure (value : α) :
    Answers (pure value) fun _ found events => found = value ∧ events = [] :=
  fun _ => ⟨rfl, [], (List.append_nil _).symm, rfl, rfl⟩

/-- Questions one after the other are answered by what both were told. -/
theorem Answers.bind {first : StateM Host β} {second : β → StateM Host α}
    {middle : System → β → List CallEvent → Prop} {answer : System → α → List CallEvent → Prop}
    (head : Answers first middle)
    (tail : ∀ value, Answers (second value) fun system found events =>
      ∀ earlier, middle system value earlier → answer system found (earlier ++ events)) :
    Answers (first >>= second) answer := by
  intro host
  obtain ⟨same, earlier, traced, known⟩ := head host
  obtain ⟨same', later, traced', answered⟩ := tail _ (first.run host).2
  refine ⟨same'.trans same, earlier ++ later, ?_, ?_⟩
  · rw [← List.append_assoc, ← traced]
    exact traced'
  · rw [same] at answered
    exact answered earlier known

/-- A conclusion from what a question answered. -/
theorem Answers.conclude {first : StateM Host β} {second : β → StateM Host α}
    {middle : System → β → List CallEvent → Prop} {answer : System → α → List CallEvent → Prop}
    (conclusion : β → α) (concluded : ∀ value, second value = Pure.pure (conclusion value))
    (head : Answers first middle)
    (holds : ∀ system value events, middle system value events →
      answer system (conclusion value) events) :
    Answers (first >>= second) answer := by
  refine Answers.bind head fun value => ?_
  rw [concluded]
  refine (Answers.pure _).weaken fun system found events told earlier known => ?_
  obtain ⟨rfl, rfl⟩ := told
  rw [List.append_nil]
  exact holds _ _ _ known

/-- How a call that only asks ends. -/
inductive Told (fault : Int → ε) (call : SystemCall) (rule : System → Except Int α)
    (system : System) : Except ε α → List CallEvent → Prop
  | answered {value : α} (known : rule system = .ok value) :
      Told fault call rule system (.ok value) [⟨call, none⟩]
  | refused (code : Int) : Told fault call rule system (.error (fault code)) [⟨call, some code⟩]

/-- A single question is told by the rule or refused by the script. -/
theorem ask_told (fault : Int → ε) (call : SystemCall) (rule : System → Except Int α) :
    Answers (ending (EStateM.adaptExcept fault (ask call rule))) (Told fault call rule) := by
  intro host
  unfold StateT.run ending EStateM.adaptExcept
  cases asked : ask call rule host with
  | ok value next =>
      obtain ⟨known, script, rfl⟩ := ask_ok asked
      exact ⟨rfl, _, rfl, .answered known⟩
  | error code next =>
      obtain ⟨script, rfl⟩ := make_error asked
      exact ⟨rfl, _, rfl, .refused code⟩

theorem adaptExcept_id {σ : Type} (action : EStateM ε σ α) :
    EStateM.adaptExcept id action = action := by
  funext state
  unfold EStateM.adaptExcept
  cases action state <;> rfl

/-- A call without an effect is a question with a known answer. -/
theorem act_told (call : SystemCall) :
    Answers (ending (act call)) (Told id call fun _ => .ok ()) := by
  have told := ask_told id call fun _ => .ok ()
  rwa [adaptExcept_id] at told

/-- How a call about a path ends, if the path can be one. -/
inductive Looked (call : SystemCall) (rule : System → Except Int α) (system : System) :
    Except FileFault α → List CallEvent → Prop
  | told {result : Except FileFault α} {events : List CallEvent}
      (told : Told .refused call rule system result events) : Looked call rule system result events
  | unasked (fault : FileFault) : Looked call rule system (.error fault) []

/-- A look at a path is one call, or none. -/
theorem Looked.single {rule : System → Except Int α} {system : System}
    {result : Except FileFault α} {events : List CallEvent}
    (looked : Looked call rule system result events) :
    events = [] ∨ ∃ failure, events = [⟨call, failure⟩] := by
  cases looked with
  | told told =>
      cases told with
      | answered known => exact .inr ⟨none, rfl⟩
      | refused code => exact .inr ⟨some code, rfl⟩
  | unasked fault => exact .inl rfl

/-- A path is looked at only if it is valid. -/
theorem atPath_looked (path : String) (call : SystemCall) (rule : System → Except Int α) :
    Answers (ending (atPath path (ask call rule))) (Looked call rule) := by
  unfold atPath
  by_cases valid : isPath path = true
  · rw [if_pos valid]
    exact (ask_told _ call rule).weaken fun _ _ _ => .told
  · rw [if_neg valid]
    exact fun host => ⟨rfl, [], (List.append_nil _).symm, .unasked _⟩

/-! ## Files -/

/-- A directory that was found is there. -/
theorem isDirectory_answers (path : String) :
    Answers (isDirectory path) fun system found events =>
      (found = true → path ∈ system.directories ∧ events = [⟨.status path, none⟩]) ∧
        (events = [] ∨ ∃ failure, events = [⟨.status path, failure⟩]) := by
  unfold isDirectory
  refine Answers.conclude (fun result => (result.map Prod.fst).toOption.getD false) ?_
    (atPath_looked path _ _) ?_
  · intro result
    cases result <;> rfl
  · intro system result events looked
    refine ⟨fun found => ?_, looked.single⟩
    cases looked with
    | told told =>
        cases told with
        | answered known => exact ⟨System.mem_directories_of_status known found, rfl⟩
        | refused code => cases found
    | unasked fault => cases found

/-- Reading a text makes no call but opening the file. -/
theorem readText_reached (path : String) (host : Host) :
    ((ending (readText path)).run host).2 = ((ending (openFile path)).run host).2 := by
  unfold readText ending StateT.run
  simp only [bind, EStateM.bind]
  cases opened : openFile path host with
  | error fault next => rfl
  | ok content next =>
      cases content with
      | text content => rfl
      | octets content =>
          dsimp only
          cases String.fromUTF8? ⟨content.toArray⟩ <;> rfl
      | refused code => rfl

/-- Reading a text opens its file at most once. -/
theorem readText_answers (path : String) :
    Answers (ending (readText path)) fun _ _ events =>
      events = [] ∨ ∃ failure, events = [⟨.openFile path, failure⟩] := by
  intro host
  rw [readText_reached]
  obtain ⟨same, events, traced, looked⟩ :=
    atPath_looked path (.openFile path) (·.openFile path) host
  exact ⟨same, events, traced, looked.single⟩

theorem readText?_answers (path : String) :
    Answers (readText? path) fun _ _ events =>
      events = [] ∨ ∃ failure, events = [⟨.openFile path, failure⟩] :=
  Answers.conclude Except.toOption (fun _ => rfl) (readText_answers path) fun _ _ _ opened => opened

/-- The map of users, which is opened at most once, tells whether the user namespace is the initial
one. -/
theorem inInitialUserNamespace_answers :
    Answers inInitialUserNamespace fun _ _ events =>
      events = [] ∨ ∃ failure, events = [⟨.openFile uidMap, failure⟩] := by
  refine Answers.conclude (fun content => (content.map isIdentityMap).getD true) ?_
    (readText?_answers uidMap) fun _ _ _ opened => opened
  intro content
  cases content <;> rfl

/-- The calls by which files are written one after another, the first refusal being the last. -/
inductive Written : List (String × String) → List CallEvent → Prop
  | all : Written [] []
  | unasked (path content : String) (files : List (String × String)) :
      Written ((path, content) :: files) []
  | refused (path content : String) (files : List (String × String)) (code : Int) :
      Written ((path, content) :: files) [⟨.writeFile path content, some code⟩]
  | next (path content : String) {files : List (String × String)} {events : List CallEvent}
      (written : Written files events) :
      Written ((path, content) :: files) (⟨.writeFile path content, none⟩ :: events)

/-- Files are written in order, up to the first that is refused. -/
theorem writeAll_answers (files : List (String × String)) :
    Answers (writeAll files) fun _ _ events => Written files events := by
  induction files with
  | nil =>
      refine (Answers.pure none).weaken fun _ _ _ told => ?_
      rw [told.2]
      exact .all
  | cons file files ih =>
      obtain ⟨path, content⟩ := file
      rw [writeAll]
      refine Answers.bind (atPath_looked path _ _) fun result => ?_
      cases result with
      | ok value =>
          refine ih.weaken fun system found events written earlier looked => ?_
          cases looked with
          | told told =>
              cases told
              exact .next path content written
      | error fault =>
          refine (Answers.pure _).weaken fun system found events told earlier looked => ?_
          rw [told.2, List.append_nil]
          cases looked with
          | told told =>
              cases told with
              | refused code => exact .refused path content files code
          | unasked fault => exact .unasked path content files

/-! ## The bounding set -/

/-- A bit is collected if its reading does not fail and the system has it. -/
theorem collectBounding_answers (found : CapSet) (bit : Nat) :
    Answers (collectBounding found bit) fun system collected events =>
      ∃ answer, events = [⟨.readBounding bit, answer⟩] ∧
        collected = if answer = none ∧ system.bounding.containsBit bit = true
          then found.insertBit bit else found := by
  unfold collectBounding
  refine Answers.conclude
    (fun result => if result.toOption.getD false = true then found.insertBit bit else found) ?_
    (ask_told _ _ _) ?_
  · intro result
    cases result with
    | ok present => cases present <;> rfl
    | error errno => rfl
  · intro system result events told
    cases told with
    | answered known =>
        cases System.readBounding_ok known
        refine ⟨none, rfl, ?_⟩
        cases system.bounding.containsBit bit <;> rfl
    | refused code => exact ⟨some code, rfl, rfl⟩

/-- The readings of the lowest bits, with their ends. -/
def readings (answers : Nat → Option Int) (count : Nat) : List CallEvent :=
  (List.range count).map fun bit => ⟨.readBounding bit, answers bit⟩

/-- The readings of the bits up to a number end with that of the last one. -/
theorem readings_succ (answers : Nat → Option Int) (answer : Option Int) (count : Nat) :
    readings (fun bit => if bit = count then answer else answers bit) (count + 1) =
      readings answers count ++ [⟨.readBounding count, answer⟩] := by
  simp only [readings, List.range_succ, List.map_append, List.map_singleton, ↓reduceIte]
  refine congrArg (· ++ _) (List.map_congr_left fun bit member => ?_)
  rw [if_neg (Nat.ne_of_lt (List.mem_range.mp member))]

/-- What was found among the lowest bits of the bounding set, each of which was read once. -/
def Gathered (count : Nat) (system : System) (found : CapSet) (events : List CallEvent) : Prop :=
  ∃ answers, events = readings answers count ∧ ∀ bit, found.containsBit bit = true ↔
    bit < count ∧ answers bit = none ∧ system.bounding.containsBit bit = true

/-- **Step.** One bit more is gathered. -/
theorem collectBounding_gathered {count : Nat} (small : count < CapSet.width) (found : CapSet) :
    Answers (collectBounding found count) fun system collected events =>
      ∀ earlier, Gathered count system found earlier →
        Gathered (count + 1) system collected (earlier ++ events) := by
  refine (collectBounding_answers found count).weaken fun system collected events told => ?_
  obtain ⟨answer, rfl, rfl⟩ := told
  rintro earlier ⟨answers, rfl, known⟩
  refine ⟨_, (readings_succ answers answer count).symm, ?_⟩
  refine CapSet.containsBit_collected small (by rw [if_pos rfl]) fun bit => (known bit).trans ?_
  refine and_congr_right fun below => ?_
  rw [if_neg (Nat.ne_of_lt below)]

/-- **Run.** The bits up to a number are gathered one after the other. -/
theorem foldlM_collectBounding_gathered {count : Nat} (small : count ≤ CapSet.width) :
    Answers ((List.range count).foldlM collectBounding ∅) (Gathered count) := by
  induction count with
  | zero =>
      refine (Answers.pure ∅).weaken fun system found events told => ?_
      obtain ⟨rfl, rfl⟩ := told
      refine ⟨fun _ => none, rfl, fun bit => ?_⟩
      rw [CapSet.containsBit_empty]
      exact ⟨(nomatch ·), fun below => absurd below.1 (Nat.not_lt_zero bit)⟩
  | succ count ih =>
      rw [List.range_succ, List.foldlM_append]
      refine Answers.bind (ih (Nat.le_of_succ_le small)) fun found => ?_
      have gathered := collectBounding_gathered small found
      exact Answers.conclude id (fun _ => rfl) gathered fun _ _ _ => id

/-- The bounding set is made up of the bits that could be read and are in it. -/
theorem boundingSet_answers :
    Answers boundingSet fun system collected events =>
      ∃ answers, events = readings answers CapSet.width ∧ ∀ bit,
        collected.containsBit bit = true ↔
          answers bit = none ∧ system.bounding.containsBit bit = true := by
  have lowest := foldlM_collectBounding_gathered (Nat.le_refl CapSet.width)
  refine lowest.weaken fun system collected events told => ?_
  obtain ⟨answers, listed, known⟩ := told
  refine ⟨answers, listed, fun bit => (known bit).trans ⟨And.right, fun member => ?_⟩⟩
  exact ⟨CapSet.lt_width_of_containsBit member.2, member⟩

end Host

end SelfIsolation
