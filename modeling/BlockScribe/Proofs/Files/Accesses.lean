import BlockScribe.Files

/-! # Which files a run asks for

A file system can keep a list of the files that it is asked to read and to write
(`Files.logged`), beside doing what it does. `Logs allowed logged plain` says of a computation on
such a file system that it does what it does on the plain one, and that all it adds to the list
passes `allowed`. It is closed under the operations of the monads, so what a program may touch is
told by what its parts may touch.

The file system itself is any at all: a world and what each request does to it.
-/

namespace BlockScribe

/-- A request for a file. -/
inductive Access where
  | read (path : String)
  | write (path : String)
deriving DecidableEq, Repr

variable {W α β : Type}

/-- The file system that also keeps a list of what it is asked for. -/
def Files.logged (files : Files (StateM W)) : Files (StateT (List Access) (StateM W)) :=
  { (files.lift : Files (StateT (List Access) (StateM W))) with
    read := fun path => do
      modify fun log => log ++ [.read path]
      liftM (files.read path)
    write := fun path bytes => do
      modify fun log => log ++ [.write path]
      liftM (files.write path bytes) }

/-- The requests of a computation. -/
def accesses (action : StateT (List Access) (StateM W) α) (world : W) : List Access :=
  ((action.run []).run world).1.2

/-- The answer and the world that a computation leaves, without its requests. -/
def outcome (action : StateT (List Access) (StateM W) α) (world : W) : α × W :=
  (((action.run []).run world).1.1, ((action.run []).run world).2)

/-- A computation on a file system that keeps a list does what the plain one does, and adds only
what is allowed. -/
def Logs (allowed : Access → Prop) (logged : StateT (List Access) (StateM W) α)
    (plain : StateM W α) : Prop :=
  ∀ log world, ∃ added, (∀ access ∈ added, allowed access) ∧
    (logged.run log).run world =
      (((plain.run world).1, log ++ added), (plain.run world).2)

section Logs

variable {allowed allowed' : Access → Prop}

theorem Logs.outcome_eq {logged : StateT (List Access) (StateM W) α} {plain : StateM W α}
    (h : Logs allowed logged plain) (world : W) : outcome logged world = plain.run world := by
  rcases h [] world with ⟨added, -, hrun⟩
  unfold outcome
  rw [hrun]
  rfl

theorem Logs.allowed_of_mem {logged : StateT (List Access) (StateM W) α} {plain : StateM W α}
    (h : Logs allowed logged plain) {world : W} {access : Access}
    (hmem : access ∈ accesses logged world) : allowed access := by
  rcases h [] world with ⟨added, hallowed, hrun⟩
  unfold accesses at hmem
  rw [hrun] at hmem
  exact hallowed access hmem

theorem Logs.mono {logged : StateT (List Access) (StateM W) α} {plain : StateM W α}
    (h : Logs allowed logged plain) (himp : ∀ access, allowed access → allowed' access) :
    Logs allowed' logged plain := by
  intro log world
  rcases h log world with ⟨added, hadded, hrun⟩
  exact ⟨added, fun access hmem => himp access (hadded access hmem), hrun⟩

theorem logs_pure (value : α) :
    Logs allowed (pure value : StateT (List Access) (StateM W) α) (pure value) := by
  intro log world
  refine ⟨[], by simp, ?_⟩
  rw [List.append_nil]
  rfl

theorem logs_lift (plain : StateM W α) :
    Logs allowed (liftM plain : StateT (List Access) (StateM W) α) plain := by
  intro log world
  refine ⟨[], by simp, ?_⟩
  rw [List.append_nil]
  rfl

theorem Logs.bind {logged : StateT (List Access) (StateM W) α} {plain : StateM W α}
    {next : α → StateT (List Access) (StateM W) β} {after : α → StateM W β}
    (h : Logs allowed logged plain) (hnext : ∀ value, Logs allowed (next value) (after value)) :
    Logs allowed (logged >>= next) (plain >>= after) := by
  intro log world
  rcases h log world with ⟨first, hfirst, hrun⟩
  rcases hnext (plain.run world).1 (log ++ first) (plain.run world).2 with
    ⟨second, hsecond, hrest⟩
  -- the log of the first part stands in front of that of the second
  refine ⟨first ++ second, ?_, ?_⟩
  · intro access hmem
    rcases List.mem_append.1 hmem with hmem | hmem
    · exact hfirst access hmem
    · exact hsecond access hmem
  · rw [StateT.run_bind]
    show (next ((logged.run log).run world).1.1 |>.run ((logged.run log).run world).1.2).run
      ((logged.run log).run world).2 = _
    rw [hrun, hrest, List.append_assoc]
    rfl

theorem Logs.map {logged : StateT (List Access) (StateM W) α} {plain : StateM W α}
    (h : Logs allowed logged plain) (f : α → β) : Logs allowed (f <$> logged) (f <$> plain) := by
  rw [map_eq_pure_bind, map_eq_pure_bind]
  exact h.bind fun value => logs_pure (f value)

/-- Adding one request to the list. -/
theorem logs_request {access : Access} (h : allowed access) (plain : StateM W α) :
    Logs allowed (do
      modify fun log => log ++ [access]
      liftM plain : StateT (List Access) (StateM W) α) plain :=
  fun log world => ⟨[access], by simpa using h, rfl⟩

variable {files : Files (StateM W)}

theorem logs_read {path : String} (h : allowed (.read path)) :
    Logs allowed (files.logged.read path) (files.read path) :=
  logs_request h _

theorem logs_write {path : String} (h : allowed (.write path)) (bytes : ByteArray) :
    Logs allowed (files.logged.write path bytes) (files.write path bytes) :=
  logs_request h _

/-! ## Directories -/

theorem logs_ensureDirectory (path : String) :
    Logs allowed (files.logged.ensureDirectory path) (files.ensureDirectory path) := by
  refine Logs.bind (logs_lift _) fun answer => ?_
  cases answer with
  | ok _ => exact logs_pure _
  | error fault =>
    refine Logs.bind (logs_lift _) fun known => ?_
    cases known with
    | true => exact logs_pure _
    | false => exact logs_pure _

theorem logs_ensureFirst (paths : List String) :
    Logs allowed (files.logged.ensureFirst paths) (files.ensureFirst paths) := by
  induction paths with
  | nil => exact logs_pure _
  | cons path parents ih =>
    refine Logs.bind (logs_ensureDirectory path) fun answer => ?_
    cases answer with
    | ok _ => exact logs_pure _
    | error fault =>
      -- only where the parent is missing is anything made above
      cases fault with
      | invalid => exact logs_pure _
      | refused => exact logs_pure _
      | missing =>
        refine Logs.bind ih fun made => ?_
        cases made with
        -- with the parent made, the directory itself is tried again
        | ok _ => exact logs_ensureDirectory path
        | error fault => exact logs_pure _

/-- Making directories reads and writes no file. -/
theorem logs_createDirectories (path : String) :
    Logs allowed (files.logged.createDirectories path) (files.createDirectories path) :=
  logs_ensureFirst _

/-! ## Computations that may fail -/

/-- `Logs` of computations that may fail. -/
def LogsExcept (allowed : Access → Prop)
    (logged : ExceptT Error (StateT (List Access) (StateM W)) α)
    (plain : ExceptT Error (StateM W) α) : Prop :=
  Logs allowed logged.run plain.run

theorem logsExcept_pure (value : α) :
    LogsExcept allowed (pure value : ExceptT Error (StateT (List Access) (StateM W)) α)
      (pure value) :=
  logs_pure _

theorem LogsExcept.bind {logged : ExceptT Error (StateT (List Access) (StateM W)) α}
    {plain : ExceptT Error (StateM W) α}
    {next : α → ExceptT Error (StateT (List Access) (StateM W)) β}
    {after : α → ExceptT Error (StateM W) β} (h : LogsExcept allowed logged plain)
    (hnext : ∀ value, LogsExcept allowed (next value) (after value)) :
    LogsExcept allowed (logged >>= next) (plain >>= after) := by
  unfold LogsExcept
  rw [ExceptT.run_bind, ExceptT.run_bind]
  refine Logs.bind h fun result => ?_
  cases result with
  | ok value => exact hnext value
  | error error => exact logs_pure _

theorem logsExcept_lift {logged : StateT (List Access) (StateM W) α} {plain : StateM W α}
    (h : Logs allowed logged plain) :
    LogsExcept allowed (liftM logged : ExceptT Error (StateT (List Access) (StateM W)) α)
      (liftM plain) :=
  h.map Except.ok

theorem logsExcept_attempt {logged : StateT (List Access) (StateM W) (Except FileFault α)}
    {plain : StateM W (Except FileFault α)} (h : Logs allowed logged plain) :
    LogsExcept allowed (attempt logged) (attempt plain) :=
  h.map _

theorem LogsExcept.during {logged : ExceptT Error (StateT (List Access) (StateM W)) α}
    {plain : ExceptT Error (StateM W) α} (h : LogsExcept allowed logged plain)
    (context : Context) :
    LogsExcept allowed (BlockScribe.during context logged) (BlockScribe.during context plain) :=
  Logs.map h _

end Logs

end BlockScribe
