import DriveDepot.Session

/-!
Operations run on a session. What an operation changed before it failed stays changed. Every call
to the drive and to the services around it goes through `perform`, which records it and lets the
schedule interfere.
-/

namespace DriveDepot

abbrev Operation := ExceptT Failure (StateM Session)

namespace Operation

/-- The outcome of an operation, and the session afterwards. -/
def runOn (operation : Operation α) (s : Session) : Except Failure α × Session := operation.run s

@[simp] theorem runOn_pure (a : α) (s : Session) : runOn (pure a) s = (.ok a, s) := rfl

@[simp] theorem runOn_throw (failure : Failure) (s : Session) :
    runOn (throw failure : Operation α) s = (.error failure, s) := rfl

@[simp] theorem runOn_get (s : Session) : runOn get s = (.ok s, s) := rfl

@[simp] theorem runOn_modify (f : Session → Session) (s : Session) :
    runOn (modify f) s = (.ok (), f s) := rfl

theorem runOn_bind (operation : Operation α) (next : α → Operation β) (s : Session) :
    runOn (operation >>= next) s =
      match runOn operation s with
      | (.ok a, t) => runOn (next a) t
      | (.error failure, t) => (.error failure, t) := by
  simp only [runOn, ExceptT.run, bind, ExceptT.bind, ExceptT.mk, StateT.bind, ExceptT.bindCont]
  rcases operation s with ⟨_ | _, _⟩ <;> rfl

theorem runOn_tryCatch (operation : Operation α) (handler : Failure → Operation α) (s : Session) :
    runOn (tryCatch operation handler) s =
      match runOn operation s with
      | (.ok a, t) => (.ok a, t)
      | (.error failure, t) => runOn (handler failure) t := by
  simp only [runOn, ExceptT.run, tryCatch, tryCatchThe, MonadExceptOf.tryCatch,
    ExceptT.tryCatch, ExceptT.mk, bind, StateT.bind]
  rcases operation s with ⟨_ | _, _⟩ <;> rfl

/-- Handles failures that satisfy `p`; others pass through. -/
def handleIf (p : Failure → Bool) (operation : Operation α) (handler : Failure → Operation α) :
    Operation α :=
  tryCatch operation fun failure => if p failure then handler failure else throw failure

def onProviderError (operation : Operation α) (handler : Failure → Operation α) :
    Operation α :=
  operation.handleIf (·.isProvider) handler

def onStorageError (operation : Operation α) (handler : Failure → Operation α) :
    Operation α :=
  operation.handleIf (·.isStorage) handler

def onAnyError (operation : Operation α) (handler : Failure → Operation α) : Operation α :=
  operation.handleIf (·.isRaised) handler

/-- The outcome of an operation as a value. -/
def attempt (operation : Operation α) : Operation (Except Failure α) :=
  onAnyError (Except.ok <$> operation) fun failure => pure (.error failure)

/-- Gives the value of a result, or fails with what `failure` makes of its error. -/
def ofExcept (failure : ε → Failure) : Except ε α → Operation α
  | .ok a => pure a
  | .error e => throw (failure e)

@[simp] theorem ofExcept_ok (failure : ε → Failure) (a : α) :
    ofExcept failure (.ok a) = pure a := rfl

@[simp] theorem ofExcept_error (failure : ε → Failure) (e : ε) :
    (ofExcept failure (.error e) : Operation α) = throw (failure e) := rfl

def ofMishap (result : Except Mishap α) : Operation α := ofExcept .ofMishap result
def ofDisk (result : Except Disk.Fault α) : Operation α := ofExcept .ofDisk result
def ofProvider (result : Except ProviderError α) : Operation α := ofExcept .ofProvider result

/-- Gives what was made of a value, or fails with the report of what is wrong with it. -/
def ofIssues (subject : Subject) (result : Except (List Issue) α) : Operation α :=
  ofExcept (.invalid subject) result

/-- Runs `cleanup` when `operation` ends, whether it succeeds or not. -/
def ensuring (operation : Operation α) (cleanup : Operation Unit) : Operation α := do
  let outcome ← operation.attempt
  cleanup
  ofExcept id outcome

def storageError (error : StorageError) : Operation α := throw (.ofStorage error)

/-- Enters a message into the journal, if it is important enough. -/
def log (level : Level) (message : String) : Operation Unit :=
  modify fun s =>
    if s.threshold ≤ level.weight then { s with journal := s.journal ++ [⟨level, message⟩] } else s

def info (message : String) : Operation Unit := log .info message
def warn (message : String) : Operation Unit := log .warning message
def error (message : String) : Operation Unit := log .error message

def print (text : String) : Operation Unit := modify fun s => { s with output := s.output ++ text }
def printLine (text : String) : Operation Unit := print (text ++ "\n")

def layout : Operation Layout := return (← get).layout
def setLayout (layout : Layout) : Operation Unit := modify ({ · with layout := layout })

def disk : Operation Disk := return (← get).disk
def setDisk (disk : Disk) : Operation Unit := modify ({ · with disk := disk })

def record (call : Call) : Operation Unit := modify fun s => { s with calls := s.calls ++ [call] }

/-- Executes a call with its effect, unless the schedule has a fault for it. -/
def perform (call : Call) (effect : Operation Json) : Operation Json := do
  record call
  modify fun s => { s with schedule := s.schedule.count call.kind }
  match (← get).schedule.fault? call.kind with
  | none => effect
  | some fault =>
    match fault.outcome with
    | .answers value => return value
    | .raises reason =>
      if fault.late then discard effect
      throw (.raised reason [])

/-- Lets the drive answer a request. -/
def answer (request : Request) : Operation Json := do
  let (value, drive) ← ofProvider ((← get).drive.answer request)
  modify ({ · with drive := drive })
  return value

def request (request : Request) : Operation Json := perform (.drive request) (answer request)

end Operation

end DriveDepot
