import BlockScribe.Files

/-! # What the files answer

A file system can keep a journal (`Files.journaled`): which paths were looked at and what was found,
which files were read and written, which directories were made, and what came of it. The journal
tells what a program learned from the files, so it says what "the payload that was read" is, also
where the files change while the program runs.

* `Unfolds files world events after`: the events are answers that the file system gives one after
  the other, from one world to another.
* `Records files journaled plain post`: on a file system that keeps a journal, a computation does
  what it does on the plain one, its journal unfolds, and its answer and its journal satisfy `post`.
  The rules below follow the operations of the monads, so that what a program puts down is told by
  what its parts put down.
* `RecordsExcept`: the same of computations that may fail. They fail where the file system refuses
  something, and at once: the journal ends with the refusal (`EndsRefused`).
-/

namespace BlockScribe

/-- A request and its answer. -/
inductive Event where
  | looked (path : String) (found : Bool)
  | read (path : String) (answer : Except FileFault ByteArray)
  | wrote (path : String) (content : ByteArray) (answer : Except FileFault Unit)
  | made (path : String) (answer : Except FileFault Unit)
  | checked (path : String) (found : Bool)

/-- What is written, and where. -/
def Event.write? : Event → Option (String × ByteArray)
  | wrote path content _ => some (path, content)
  | _ => none

/-- Whether something is asked about a file. -/
def Event.isInquiry : Event → Bool
  | looked _ _ => true
  | read _ _ => true
  | _ => false

/-- What is written in the course of events, and where. -/
def writes (events : List Event) : List (String × ByteArray) := events.filterMap Event.write?

/-- The paths that are written to in the course of events. -/
def written (events : List Event) : List String := (writes events).map Prod.fst

/-- What is asked about files in the course of events. -/
def inquiries (events : List Event) : List Event := events.filter Event.isInquiry

@[simp]
theorem writes_append (events more : List Event) :
    writes (events ++ more) = writes events ++ writes more :=
  List.filterMap_append

@[simp]
theorem written_append (events more : List Event) :
    written (events ++ more) = written events ++ written more := by
  simp [written]

@[simp]
theorem inquiries_append (events more : List Event) :
    inquiries (events ++ more) = inquiries events ++ inquiries more :=
  List.filter_append _ _

/-- Events that concern directories alone. -/
structure Quiet (events : List Event) : Prop where
  written : written events = []
  asked : inquiries events = []

theorem quiet_nil : Quiet [] := ⟨rfl, rfl⟩

theorem Quiet.append {events more : List Event} (h : Quiet events) (hmore : Quiet more) :
    Quiet (events ++ more) where
  written := by rw [written_append, h.written, hmore.written, List.append_nil]
  asked := by rw [inquiries_append, h.asked, hmore.asked, List.append_nil]

/-- The last request was refused. A directory that could not be made was looked for as well. -/
inductive EndsRefused (fault : FileFault) : List Event → Prop
  | read (before : List Event) (path : String) :
    EndsRefused fault (before ++ [.read path (.error fault)])
  | wrote (before : List Event) (path : String) (content : ByteArray) :
    EndsRefused fault (before ++ [.wrote path content (.error fault)])
  | made (before : List Event) (path : String) :
    EndsRefused fault (before ++ [.made path (.error fault), .checked path false])

theorem EndsRefused.behind {fault : FileFault} {events : List Event}
    (h : EndsRefused fault events) (before : List Event) :
    EndsRefused fault (before ++ events) := by
  cases h with
  | read middle path =>
    rw [← List.append_assoc]
    exact .read _ path
  | wrote middle path content =>
    rw [← List.append_assoc]
    exact .wrote _ path content
  | made middle path =>
    rw [← List.append_assoc]
    exact .made _ path

variable {W α β : Type}

/-- The file system that also keeps a journal. -/
def Files.journaled (files : Files (StateM W)) : Files (StateT (List Event) (StateM W)) :=
  { (files.lift : Files (StateT (List Event) (StateM W))) with
    isFile := fun path => do
      let found ← files.isFile path
      modify fun events => events ++ [.looked path found]
      return found
    read := fun path => do
      let answer ← files.read path
      modify fun events => events ++ [.read path answer]
      return answer
    write := fun path content => do
      let answer ← files.write path content
      modify fun events => events ++ [.wrote path content answer]
      return answer
    createDirectory := fun path => do
      let answer ← files.createDirectory path
      modify fun events => events ++ [.made path answer]
      return answer
    isDirectory := fun path => do
      let found ← files.isDirectory path
      modify fun events => events ++ [.checked path found]
      return found }

/-- The journal of a computation. -/
def journal (action : StateT (List Event) (StateM W) α) (world : W) : List Event :=
  ((action.run []).run world).1.2

/-- Events that a file system gives one after the other, and the world that they lead to. -/
inductive Unfolds (files : Files (StateM W)) : W → List Event → W → Prop
  | done (world : W) : Unfolds files world [] world
  | look {world after : W} {events : List Event} (path : String)
    (h : Unfolds files ((files.isFile path).run world).2 events after) :
    Unfolds files world (.looked path ((files.isFile path).run world).1 :: events) after
  | read {world after : W} {events : List Event} (path : String)
    (h : Unfolds files ((files.read path).run world).2 events after) :
    Unfolds files world (.read path ((files.read path).run world).1 :: events) after
  | write {world after : W} {events : List Event} (path : String) (content : ByteArray)
    (h : Unfolds files ((files.write path content).run world).2 events after) :
    Unfolds files world (.wrote path content ((files.write path content).run world).1 :: events)
      after
  | make {world after : W} {events : List Event} (path : String)
    (h : Unfolds files ((files.createDirectory path).run world).2 events after) :
    Unfolds files world (.made path ((files.createDirectory path).run world).1 :: events) after
  | check {world after : W} {events : List Event} (path : String)
    (h : Unfolds files ((files.isDirectory path).run world).2 events after) :
    Unfolds files world (.checked path ((files.isDirectory path).run world).1 :: events) after

theorem Unfolds.append {files : Files (StateM W)} {world middle after : W}
    {events more : List Event} (h : Unfolds files world events middle)
    (hmore : Unfolds files middle more after) : Unfolds files world (events ++ more) after := by
  induction h with
  | done world => exact hmore
  | look path _ ih => exact .look path (ih hmore)
  | read path _ ih => exact .read path (ih hmore)
  | write path content _ ih => exact .write path content (ih hmore)
  | make path _ ih => exact .make path (ih hmore)
  | check path _ ih => exact .check path (ih hmore)

/-- A computation on a file system that keeps a journal does what the plain one does, and its answer
and its journal satisfy `post`. -/
def Records (files : Files (StateM W)) (journaled : StateT (List Event) (StateM W) α)
    (plain : StateM W α) (post : α → List Event → Prop) : Prop :=
  ∀ world log, ∃ events,
    (journaled.run log).run world = (((plain.run world).1, log ++ events), (plain.run world).2) ∧
    Unfolds files world events (plain.run world).2 ∧ post (plain.run world).1 events

section Records

variable {files : Files (StateM W)} {journaled : StateT (List Event) (StateM W) α}
  {plain : StateM W α} {post post' : α → List Event → Prop}

/-- What a computation does, answers and puts down. -/
theorem Records.journal (h : Records files journaled plain post) (world : W) :
    (journaled.run []).run world =
      (((plain.run world).1, BlockScribe.journal journaled world), (plain.run world).2) ∧
    Unfolds files world (BlockScribe.journal journaled world) (plain.run world).2 ∧
    post (plain.run world).1 (BlockScribe.journal journaled world) := by
  rcases h world [] with ⟨events, hrun, hunfolds, hpost⟩
  rw [List.nil_append] at hrun
  have hjournal : BlockScribe.journal journaled world = events := by
    unfold BlockScribe.journal
    rw [hrun]
  rw [hjournal]
  exact ⟨hrun, hunfolds, hpost⟩

theorem Records.mono (h : Records files journaled plain post)
    (himp : ∀ value events, post value events → post' value events) :
    Records files journaled plain post' := by
  intro world log
  rcases h world log with ⟨events, hrun, hunfolds, hpost⟩
  exact ⟨events, hrun, hunfolds, himp _ _ hpost⟩

theorem records_pure {value : α} (h : post value []) :
    Records files (pure value) (pure value) post := by
  intro world log
  refine ⟨[], ?_, .done world, h⟩
  rw [List.append_nil]
  rfl

/-- One computation after the other puts down one journal behind the other. -/
theorem Records.bind {next : α → StateT (List Event) (StateM W) β} {after : α → StateM W β}
    {goal : β → List Event → Prop} (h : Records files journaled plain post)
    (hnext : ∀ value events, post value events →
      Records files (next value) (after value) fun result more => goal result (events ++ more)) :
    Records files (journaled >>= next) (plain >>= after) goal := by
  intro world log
  rcases h world log with ⟨first, hrun, hunfolds, hpost⟩
  rcases hnext _ first hpost (plain.run world).2 (log ++ first) with
    ⟨second, hrest, hunfolds', hgoal⟩
  -- both parts have logged behind what was there
  refine ⟨first ++ second, ?_, hunfolds.append hunfolds', hgoal⟩
  rw [StateT.run_bind]
  show (next ((journaled.run log).run world).1.1 |>.run ((journaled.run log).run world).1.2).run
    ((journaled.run log).run world).2 = _
  rw [hrun, hrest, List.append_assoc]
  rfl

theorem Records.map {f : α → β} {goal : β → List Event → Prop}
    (h : Records files journaled plain fun value events => goal (f value) events) :
    Records files (f <$> journaled) (f <$> plain) goal := by
  rw [map_eq_pure_bind, map_eq_pure_bind]
  refine h.bind fun value events hgoal => records_pure ?_
  rwa [List.append_nil]

/-! ## Requests -/

theorem records_isFile (path : String) :
    Records files (files.journaled.isFile path) (files.isFile path) fun found events =>
      events = [.looked path found] := by
  intro world log
  exact ⟨_, rfl, .look path (.done _), rfl⟩

theorem records_read (path : String) :
    Records files (files.journaled.read path) (files.read path) fun answer events =>
      events = [.read path answer] := by
  intro world log
  exact ⟨_, rfl, .read path (.done _), rfl⟩

theorem records_write (path : String) (content : ByteArray) :
    Records files (files.journaled.write path content) (files.write path content)
      fun answer events => events = [.wrote path content answer] := by
  intro world log
  exact ⟨_, rfl, .write path content (.done _), rfl⟩

theorem records_createDirectory (path : String) :
    Records files (files.journaled.createDirectory path) (files.createDirectory path)
      fun answer events => events = [.made path answer] := by
  intro world log
  exact ⟨_, rfl, .make path (.done _), rfl⟩

theorem records_isDirectory (path : String) :
    Records files (files.journaled.isDirectory path) (files.isDirectory path)
      fun found events => events = [.checked path found] := by
  intro world log
  exact ⟨_, rfl, .check path (.done _), rfl⟩

/-! ## Directories -/

/-- What is put down where directories are made: nothing about files, and at the end the refusal, if
there is one. -/
structure Housekeeping (answer : Except FileFault Unit) (events : List Event) : Prop
    extends Quiet events where
  refused : ∀ fault, answer = .error fault → EndsRefused fault events

theorem Housekeeping.behind {answer : Except FileFault Unit} {events before : List Event}
    (h : Housekeeping answer events) (hbefore : Quiet before) :
    Housekeeping answer (before ++ events) where
  toQuiet := hbefore.append h.toQuiet
  refused := fun fault hfault => (h.refused fault hfault).behind before

theorem records_ensureDirectory (path : String) :
    Records files (files.journaled.ensureDirectory path) (files.ensureDirectory path)
      Housekeeping := by
  refine (records_createDirectory path).bind ?_
  rintro answer _ rfl
  -- a directory that cannot be made may be there already
  cases answer with
  | ok _ => exact records_pure ⟨⟨rfl, rfl⟩, by simp⟩
  | error fault =>
    refine (records_isDirectory path).bind ?_
    rintro known _ rfl
    cases known with
    | true => exact records_pure ⟨⟨rfl, rfl⟩, by simp⟩
    | false =>
      refine records_pure ⟨⟨rfl, rfl⟩, ?_⟩
      rintro _ ⟨rfl⟩
      exact .made [] path

theorem records_ensureFirst (paths : List String) :
    Records files (files.journaled.ensureFirst paths) (files.ensureFirst paths) Housekeeping := by
  induction paths with
  | nil => exact records_pure ⟨quiet_nil, by simp⟩
  | cons path parents ih =>
    refine (records_ensureDirectory path).bind ?_
    intro answer first hfirst
    -- only where something is missing on the way, there is more to do
    have hdone : Records files (pure answer) (pure answer) fun result more =>
        Housekeeping result (first ++ more) := by
      refine records_pure ?_
      rwa [List.append_nil]
    cases answer with
    | ok _ => exact hdone
    | error fault =>
      cases fault with
      | invalid => exact hdone
      | refused => exact hdone
      | missing =>
        refine ih.bind ?_
        intro made second hsecond
        cases made with
        | ok _ =>
          refine (records_ensureDirectory path).mono fun result third hthird => ?_
          exact (hthird.behind hsecond.toQuiet).behind hfirst.toQuiet
        | error fault =>
          refine records_pure ?_
          rw [List.append_nil]
          exact hsecond.behind hfirst.toQuiet

/-- Making directories reads and writes no file. -/
theorem records_createDirectories (path : String) :
    Records files (files.journaled.createDirectories path) (files.createDirectories path)
      Housekeeping :=
  records_ensureFirst _

end Records

/-! ## Computations that may fail -/

/-- An error that the file system caused with its last answer. -/
def Error.FromRefusal (error : Error) (events : List Event) : Prop :=
  ∃ fault, error.cause = .file fault ∧ EndsRefused fault events

/-- `Records` of computations that fail only where the file system refuses: what is put down if they
succeed, and what is put down if they do not. -/
def RecordsExcept (files : Files (StateM W))
    (journaled : ExceptT Error (StateT (List Event) (StateM W)) α)
    (plain : ExceptT Error (StateM W) α) (post : α → List Event → Prop)
    (failed : List Event → Prop) : Prop :=
  Records files journaled.run plain.run fun result events =>
    match result with
    | .ok value => post value events
    | .error error => error.FromRefusal events ∧ failed events

section RecordsExcept

variable {files : Files (StateM W)}
  {journaled : ExceptT Error (StateT (List Event) (StateM W)) α}
  {plain : ExceptT Error (StateM W) α} {post : α → List Event → Prop}
  {failed : List Event → Prop}

theorem RecordsExcept.mono {post' : α → List Event → Prop} {failed' : List Event → Prop}
    (h : RecordsExcept files journaled plain post failed)
    (hpost : ∀ value events, post value events → post' value events)
    (hfailed : ∀ events, failed events → failed' events) :
    RecordsExcept files journaled plain post' failed' := by
  refine Records.mono h fun result events hresult => ?_
  cases result with
  | ok value => exact hpost value events hresult
  | error error => exact ⟨hresult.1, hfailed events hresult.2⟩

/-- What holds of the journal whether something is refused or not. -/
theorem RecordsExcept.journal (h : RecordsExcept files journaled plain post failed)
    {claim : List Event → Prop} (hpost : ∀ value events, post value events → claim events)
    (hfailed : ∀ events, failed events → claim events) (world : W) :
    claim (BlockScribe.journal journaled.run world) := by
  have hresult := (Records.journal h world).2.2
  cases hrun : (plain.run.run world).1 with
  | ok value =>
    rw [hrun] at hresult
    exact hpost value _ hresult
  | error error =>
    rw [hrun] at hresult
    exact hfailed _ hresult.2

theorem recordsExcept_pure {value : α} (h : post value []) :
    RecordsExcept files (pure value) (pure value) post failed :=
  records_pure h

theorem RecordsExcept.bind {next : α → ExceptT Error (StateT (List Event) (StateM W)) β}
    {after : α → ExceptT Error (StateM W) β} {goal : β → List Event → Prop}
    {stopped : List Event → Prop} (h : RecordsExcept files journaled plain post failed)
    (hnext : ∀ value events, post value events → RecordsExcept files (next value) (after value)
      (fun result more => goal result (events ++ more)) fun more => stopped (events ++ more))
    (hfailed : ∀ events, failed events → stopped events) :
    RecordsExcept files (journaled >>= next) (plain >>= after) goal stopped := by
  unfold RecordsExcept
  rw [ExceptT.run_bind, ExceptT.run_bind]
  refine Records.bind h fun result events hresult => ?_
  -- an error of the first part ends the whole with its own events
  cases result with
  | ok value =>
    refine Records.mono (hnext value events hresult) fun outcome more houtcome => ?_
    cases outcome with
    | ok value => exact houtcome
    | error error =>
      rcases houtcome with ⟨⟨fault, hcause, hends⟩, hstopped⟩
      -- the failed event is still the last one, behind those of the first part
      exact ⟨⟨fault, hcause, hends.behind events⟩, hstopped⟩
  | error error =>
    refine records_pure ?_
    rw [List.append_nil]
    exact ⟨hresult.1, hfailed events hresult.2⟩

theorem recordsExcept_lift {journaled : StateT (List Event) (StateM W) α} {plain : StateM W α}
    (h : Records files journaled plain post) :
    RecordsExcept files (liftM journaled) (liftM plain) post fun _ => False :=
  Records.map h

theorem recordsExcept_attempt {journaled : StateT (List Event) (StateM W) (Except FileFault α)}
    {plain : StateM W (Except FileFault α)} {post : Except FileFault α → List Event → Prop}
    (h : Records files journaled plain post)
    (hrefused : ∀ fault events, post (.error fault) events → EndsRefused fault events) :
    RecordsExcept files (attempt journaled) (attempt plain) (fun value => post (.ok value))
      fun events => ∃ fault, post (.error fault) events := by
  refine Records.map (h.mono fun result events hpost => ?_)
  cases result with
  | ok value => exact hpost
  | error fault => exact ⟨⟨fault, rfl, hrefused fault events hpost⟩, fault, hpost⟩

theorem RecordsExcept.during (h : RecordsExcept files journaled plain post failed)
    (context : Context) :
    RecordsExcept files (BlockScribe.during context journaled) (BlockScribe.during context plain)
      post failed := by
  refine Records.map (Records.mono h fun result events hresult => ?_)
  cases result with
  | ok value => exact hresult
  | error error => exact hresult

/-! ## Requests that must not be refused -/

theorem recordsExcept_read (path : String) :
    RecordsExcept files (attempt (files.journaled.read path)) (attempt (files.read path))
      (fun content events => events = [.read path (.ok content)])
      fun events => ∃ fault, events = [.read path (.error fault)] := by
  refine recordsExcept_attempt (records_read path) ?_
  rintro fault _ rfl
  exact .read [] path

theorem recordsExcept_write (path : String) (content : ByteArray) :
    RecordsExcept files (attempt (files.journaled.write path content))
      (attempt (files.write path content))
      (fun _ events => events = [.wrote path content (.ok ())])
      fun events => ∃ fault, events = [.wrote path content (.error fault)] := by
  refine recordsExcept_attempt (records_write path content) ?_
  rintro fault _ rfl
  exact .wrote [] path content

theorem recordsExcept_createDirectories (path : String) :
    RecordsExcept files (attempt (files.journaled.createDirectories path))
      (attempt (files.createDirectories path)) (fun _ => Quiet) Quiet := by
  refine (recordsExcept_attempt (records_createDirectories path) ?_).mono ?_ ?_
  · exact fun fault events h => h.refused fault rfl
  · exact fun _ events h => h.toQuiet
  · exact fun events ⟨_, h⟩ => h.toQuiet

end RecordsExcept

end BlockScribe
