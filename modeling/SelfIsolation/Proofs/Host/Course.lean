import SelfIsolation.Proofs.Host.Question
import SelfIsolation.Proofs.Lifecycle.Run

/-! # The course of a step on a host

Of the calls that a step makes on a host, only few may fail without ending the step
(`SelfIsolation.IsolationStep.PassesOver`), and some are made only after others
(`SelfIsolation.IsolationStep.Permits`). The course of a step is clear while every
failure was passed over (`SelfIsolation.Course.Clear`), and a step that fails ends
with the first failure that was not (`SelfIsolation.Course.Ended`). A step follows a
course (`SelfIsolation.Course.Follows`) when it ends well only on a clear one; there
is one rule for each way in which a step acts on a host.
-/

namespace SelfIsolation

namespace IsolationStep

/-- The failures that a step passes over, after the calls it has made. -/
inductive PassesOver : IsolationStep → List CallEvent → SystemCall → Int → Prop
  | groups {target made} : PassesOver (.user target) made .dropGroups Errno.eperm.number
  | unknownBit {target made bit} :
      PassesOver (.user target) made (.dropBounding bit) Errno.einval.number
  | refusedBit {target made bit} (restricted : target.operating.isRestricted = true) :
      PassesOver (.user target) made (.dropBounding bit) Errno.eperm.number
  | unreadBit {target made bit code} : PassesOver (.user target) made (.readBounding bit) code
  /-- Identities need not be mapped in a user namespace that was created. -/
  | identityFile {target made path content code}
      (created : ⟨.unshare NamespaceKind.user.cloneFlag, none⟩ ∈ made)
      (mapping : path ∈ [Host.uidMap, Host.groupSwitch, Host.gidMap]) :
      PassesOver (.user target) made (.writeFile path content) code
  /-- Descriptors that cannot be closed by ranges are listed. -/
  | ranges {arguments made first last} :
      PassesOver (.initial arguments) made (.closeRange first last) Errno.enosys.number
  | closed {arguments made descriptor}
      (listed : ⟨.openDirectory Host.descriptorListing, none⟩ ∈ made) :
      PassesOver (.initial arguments) made (.close descriptor) Errno.ebadf.number
  | identityMap {arguments made code} :
      PassesOver (.initial arguments) made (.openFile Host.uidMap) code

/-- What has to come before a call: a new root needs the scratch directory, and the map of groups
the map of users and that supplementary groups cannot be set. No step forks or starts a session. -/
def Permits (step : IsolationStep) (directories : List String) (made : List CallEvent) :
    SystemCall → Prop
  | .mount _ _ _ _ _ | .enterDirectory _ | .pivotRoot _ _ | .unmount _ _ =>
      ∃ context, step = .prefork context ∧ context.root.scratch ∈ directories
  | .writeFile path _ => path = Host.gidMap →
      (∃ content, ⟨.writeFile Host.uidMap content, none⟩ ∈ made) ∧
        ⟨.writeFile Host.groupSwitch "deny", none⟩ ∈ made
  | .fork | .newSession => False
  | _ => True

end IsolationStep

/-- What is said of a record, of a system, and of the calls that a step has made. -/
abbrev Position := PrivilegeRecord → System → List CallEvent → Prop

/-- A single record, a single system, and the calls made so far. -/
def Position.exactly (record : PrivilegeRecord) (system : System) (made : List CallEvent) :
    Position :=
  fun record' system' made' => record' = record ∧ system' = system ∧ made' = made

/-- What holds of a single position is all there is to show of exactly that one. -/
theorem Position.exactly_elim {record : PrivilegeRecord} {system : System}
    {made : List CallEvent} {holds : Position} (here : holds record system made) :
    ∀ record' system' made',
      exactly record system made record' system' made' → holds record' system' made' := by
  rintro _ _ _ ⟨rfl, rfl, rfl⟩
  exact here

/-- A step on its way: where its calls begin, which directories there are, and what holds where it
fails and where it breaks the protocol. -/
structure Course where
  step : IsolationStep
  /-- The trace before the step. -/
  first : List CallEvent
  directories : List String
  failing : PrivilegeRecord → System → Prop
  violating : Position

namespace Course

variable {course : Course} {made events : List CallEvent} {call : SystemCall}

/-- Calls of which every failure was passed over. -/
inductive Clear (course : Course) : List CallEvent → Prop
  | nothing : Clear course []
  | next {made : List CallEvent} {call : SystemCall} {failure : Option Int}
      (clear : Clear course made)
      (permitted : course.step.Permits course.directories made call)
      (passed : ∀ code, failure = some code → course.step.PassesOver made call code) :
      Clear course (made ++ [⟨call, failure⟩])

/-- Calls of which every failure but that of the last was passed over. -/
inductive Ended (course : Course) : List CallEvent → Prop
  | clear {made : List CallEvent} (clear : Clear course made) : Ended course made
  | refused {made : List CallEvent} {call : SystemCall} (clear : Clear course made)
      (permitted : course.step.Permits course.directories made call) (code : Int) :
      Ended course (made ++ [⟨call, some code⟩])

/-- A course stays clear with a call that does not fail. -/
theorem Clear.ok (clear : course.Clear made)
    (permitted : course.step.Permits course.directories made call) :
    course.Clear (made ++ [⟨call, none⟩]) :=
  clear.next permitted fun _ failed => nomatch failed

/-- A course stays clear with a failure that is passed over. -/
theorem Clear.pass {code : Int} (clear : course.Clear made)
    (permitted : course.step.Permits course.directories made call)
    (passed : course.step.PassesOver made call code) : course.Clear (made ++ [⟨call, some code⟩]) :=
  clear.next permitted fun _ failed => Option.some.inj failed ▸ passed

/-- A course stays clear with calls of which every failure is passed over whatever came before. -/
theorem Clear.append (clear : course.Clear made)
    (each : ∀ before, ∀ event ∈ events, course.step.Permits course.directories before event.call ∧
      ∀ code, event.failure = some code → course.step.PassesOver before event.call code) :
    course.Clear (made ++ events) := by
  induction events generalizing made with
  | nil => rwa [List.append_nil]
  | cons event events ih =>
      have first := each made event List.mem_cons_self
      rw [List.append_cons]
      exact ih (clear.next first.1 first.2) fun before other member =>
        each before other (List.mem_cons_of_mem _ member)

/-- Where the last call of a list stands when the list is split at a call. -/
theorem split_concat {last event : CallEvent} {before after : List CallEvent}
    (whole : made ++ [last] = before ++ event :: after) :
    (made = before ∧ last = event ∧ after = []) ∨
      ∃ rest, after = rest ++ [last] ∧ made = before ++ event :: rest := by
  rcases List.eq_nil_or_concat after with rfl | ⟨rest, final, rfl⟩
  · obtain ⟨rfl, same⟩ := List.append_inj' whole rfl
    exact .inl ⟨rfl, (List.cons.inj same).1, rfl⟩
  · rw [List.concat_eq_append, ← List.cons_append, ← List.append_assoc] at whole
    obtain ⟨rfl, same⟩ := List.append_inj' whole rfl
    exact .inr ⟨rest, by rw [(List.cons.inj same).1, List.concat_eq_append], rfl⟩

/-- On a clear course every call was permitted and every failure passed over. -/
theorem Clear.split (clear : course.Clear events) {before after : List CallEvent}
    {event : CallEvent} (whole : events = before ++ event :: after) :
    course.step.Permits course.directories before event.call ∧
      ∀ code, event.failure = some code → course.step.PassesOver before event.call code := by
  induction clear generalizing after with
  | nothing => exact absurd whole.symm (List.append_ne_nil_of_right_ne_nil _ (List.cons_ne_nil _ _))
  | next clear permitted passed ih =>
      rcases split_concat whole with ⟨rfl, rfl, -⟩ | ⟨rest, -, rfl⟩
      · exact ⟨permitted, passed⟩
      · exact ih rfl

/-- Every call of an ended course was permitted, and its failure was passed over unless it is the
last call. -/
theorem Ended.split (ended : course.Ended events) {before after : List CallEvent}
    {event : CallEvent} (whole : events = before ++ event :: after) :
    course.step.Permits course.directories before event.call ∧
      ∀ code, event.failure = some code →
        course.step.PassesOver before event.call code ∨ after = [] := by
  cases ended with
  | clear clear =>
      have passed := clear.split whole
      exact ⟨passed.1, fun code failed => .inl (passed.2 code failed)⟩
  | refused clear permitted code =>
      rcases split_concat whole with ⟨rfl, rfl, rfl⟩ | ⟨rest, -, rfl⟩
      · exact ⟨permitted, fun _ _ => .inr rfl⟩
      · have passed := clear.split rfl
        exact ⟨passed.1, fun code failed => .inl (passed.2 code failed)⟩

/-! ## Following a course -/

/-- A session on a clear course. -/
def At (course : Course) (position : Position) (session : Session Host) : Prop :=
  ∃ made, session.kernel.trace = course.first ++ made ∧ course.Clear made ∧
    position session.privileges session.kernel.system made

/-- A session in which a step has stopped. -/
def Stopped (course : Course) : Fault → Session Host → Prop
  | .failed _, session => ∃ made, session.kernel.trace = course.first ++ made ∧
      course.Ended made ∧ course.failing session.privileges session.kernel.system
  | .violated _, session => course.At course.violating session

/-- Taken on a clear course, a step ends well only on a clear course. -/
structure Follows {α : Type} (course : Course) (before : Position) (step : Isolating Host α)
    (after : α → Position) : Prop where
  triple : Isolating.Triple (course.At before) step (fun value => course.At (after value))
    course.Stopped

variable {α β ι ε : Type} {before : Position} {after : α → Position}

open Isolating

/-- A step may be followed from each single position. -/
theorem Follows.each {step : Isolating Host α}
    (follows : ∀ record system made, before record system made →
      course.Follows (.exactly record system made) step after) :
    course.Follows before step after := by
  refine ⟨fun session ⟨made, traced, clear, start⟩ => ?_⟩
  exact (follows _ _ _ start).triple session ⟨made, traced, clear, rfl, rfl, rfl⟩

/-- Steps one after the other follow a course if each does. -/
theorem Follows.bind (middle : β → Position) {first : Isolating Host β}
    {second : β → Isolating Host α} (head : course.Follows before first middle)
    (tail : ∀ value, course.Follows (middle value) (second value) after) :
    course.Follows before (first >>= second) after :=
  ⟨Triple.bind (fun value => course.At (middle value)) head.triple fun value => (tail value).triple⟩

theorem Follows.pure (value : α)
    (holds : ∀ record system made, before record system made → after value record system made) :
    course.Follows before (pure value) after := by
  refine ⟨Triple.pure value fun session start => ?_⟩
  obtain ⟨made, traced, clear, start⟩ := start
  exact ⟨made, traced, clear, holds _ _ _ start⟩

theorem Follows.weaken {before' : Position} {after' : α → Position} {step : Isolating Host α}
    (follows : course.Follows before step after)
    (starts : ∀ record system made, before' record system made → before record system made)
    (ends : ∀ value record system made,
      after value record system made → after' value record system made) :
    course.Follows before' step after' := by
  refine ⟨Triple.weaken follows.triple ?_ ?_ fun _ _ stopped => stopped⟩
  · rintro session ⟨made, traced, clear, start⟩
    exact ⟨made, traced, clear, starts _ _ _ start⟩
  · rintro value session ⟨made, traced, clear, holds⟩
    exact ⟨made, traced, clear, ends _ _ _ _ holds⟩

/-- A failure follows a course where the step may fail. -/
theorem Follows.fail (failure : Failure)
    (stops : ∀ record system made, before record system made → course.failing record system) :
    course.Follows before (fail failure) after := by
  refine ⟨Triple.fail failure fun session start => ?_⟩
  obtain ⟨made, traced, clear, start⟩ := start
  exact ⟨made, traced, .clear clear, stops _ _ _ start⟩

/-- A report follows every course. -/
theorem Follows.note {after : Unit → Position} (level : LogLevel) (text : String)
    (holds : ∀ record system made, before record system made → after () record system made) :
    course.Follows before (note level text) after := by
  refine ⟨Triple.note level text fun session start => ?_⟩
  obtain ⟨made, traced, clear, start⟩ := start
  exact ⟨made, traced, clear, holds _ _ _ start⟩

theorem Follows.noting {level : LogLevel} {text : String} {rest : Unit → Isolating Host α}
    (tail : course.Follows before (rest ()) after) :
    course.Follows before (Isolating.note level text >>= rest) after :=
  Follows.bind (fun _ => before) (Follows.note level text fun _ _ _ holds => holds) fun _ => tail

theorem Follows.notes (entries : List LogRecord) :
    course.Follows before (entries.forM fun entry => Isolating.note entry.level entry.text)
      (fun _ => before) := by
  induction entries with
  | nil => exact Follows.pure () fun _ _ _ holds => holds
  | cons entry entries ih => exact Follows.noting ih

theorem Follows.reading {rest : Session Host → Isolating Host α}
    (tail : ∀ session, course.Follows before (rest session) after) :
    course.Follows before (get >>= rest) after :=
  ⟨Triple.bind (fun _ => course.At before) (Triple.get fun _ start => start) fun session =>
    (tail session).triple⟩

/-- A change of the record follows a course if the position after it holds. -/
theorem Follows.recording {after : Unit → Position} {change : PrivilegeRecord → PrivilegeRecord}
    (holds : ∀ record system made, before record system made →
      after () (change record) system made) :
    course.Follows before (recording change) after := by
  refine ⟨Triple.recording fun session start => ?_⟩
  obtain ⟨made, traced, clear, start⟩ := start
  exact ⟨made, traced, clear, holds _ _ _ start⟩

theorem Follows.recorded {record : PrivilegeRecord} {system : System} {made : List CallEvent}
    {change : PrivilegeRecord → PrivilegeRecord} {rest : Unit → Isolating Host α}
    (tail : course.Follows (.exactly (change record) system made) (rest ()) after) :
    course.Follows (.exactly record system made) (Isolating.recording change >>= rest) after :=
  Follows.bind (fun _ => .exactly (change record) system made)
    (Follows.recording (Position.exactly_elim ⟨rfl, rfl, rfl⟩)) fun _ => tail

/-- A checked change follows a course if it may be refused where the course is. -/
theorem Follows.recordingChecked {after : Unit → Position}
    {change : PrivilegeRecord → Except Violation PrivilegeRecord}
    (allowed : ∀ record record' system made, before record system made →
      change record = .ok record' → after () record' system made)
    (refused : ∀ record violation system made, before record system made →
      change record = .error violation → course.violating record system made) :
    course.Follows before (recordingChecked change) after := by
  refine ⟨Triple.recordingChecked ?_ ?_⟩
  · rintro session record ⟨made, traced, clear, start⟩ changed
    exact ⟨made, traced, clear, allowed _ _ _ _ start changed⟩
  · rintro session violation ⟨made, traced, clear, start⟩ broken
    exact ⟨made, traced, clear, refused _ _ _ _ start broken⟩

/-- A step for each item of a list, `invariant` holding while the items of each rest are left. -/
theorem Follows.foldlM {step : β → ι → Isolating Host β} (invariant : List ι → Position)
    (each : ∀ value item rest,
      course.Follows (invariant (item :: rest)) (step value item) fun _ => invariant rest)
    (items : List ι) (value : β) :
    course.Follows (invariant items) (items.foldlM step value) fun _ => invariant [] :=
  ⟨Triple.foldlM (fun rest _ => course.At (invariant rest))
    (fun item rest value => (each value item rest).triple) items value⟩

/-- What is known of every position may be assumed. -/
theorem Follows.assuming {fact : Prop} {step : Isolating Host α}
    (known : ∀ record system made, before record system made → fact)
    (follows : fact → course.Follows before step after) : course.Follows before step after := by
  refine ⟨fun session ⟨made, traced, clear, start⟩ => ?_⟩
  exact (follows (known _ _ _ start)).triple session ⟨made, traced, clear, start⟩

theorem observe_bind (question : StateM Host β) (rest : β → Isolating Host α)
    (session : Session Host) :
    ((observe fun machine => machine.ask question) >>= rest) session =
      rest (question.run session.kernel).1
        { session with kernel := (question.run session.kernel).2 } := rfl

/-- A question and what follows from it. Where the last of its calls failed and that is not passed
over, the step has to fail. -/
theorem Follows.asking {question : StateM Host β} {rest : β → Isolating Host α}
    {answer : System → β → List CallEvent → Prop} (middle : β → Position)
    (answers : Host.Answers question answer)
    (goes : ∀ record system made value events, before record system made → course.Clear made →
      answer system value events →
      (course.Clear (made ++ events) ∧ middle value record system (made ++ events)) ∨
        (course.Ended (made ++ events) ∧ course.failing record system ∧
          ∃ failure, rest value = Isolating.fail failure))
    (tail : ∀ value, course.Follows (middle value) (rest value) after) :
    course.Follows before ((observe fun machine => machine.ask question) >>= rest) after := by
  refine ⟨fun session ⟨made, traced, clear, start⟩ => ?_⟩
  rw [observe_bind]
  obtain ⟨same, events, traced', answered⟩ := answers session.kernel
  have traced : (question.run session.kernel).2.trace = course.first ++ (made ++ events) := by
    rw [traced', traced, List.append_assoc]
  rcases goes _ _ _ _ _ start clear answered with ⟨clear, holds⟩ | ⟨ended, stops, failure, failed⟩
  · rw [← same] at holds
    exact (tail _).triple _ ⟨made ++ events, traced, clear, holds⟩
  · rw [← same] at stops
    rw [failed]
    exact ⟨made ++ events, traced, ended, stops⟩

end Course

end SelfIsolation
