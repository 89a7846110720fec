import OpenSandbox.NodeAgent.Api

namespace OpenSandbox.NodeAgent.Pipeline

inductive DropPolicy where
  | block
  | drop
  deriving DecidableEq

structure Config where
  batchMaxItems : Nat
  memoryBudgetBytes : Int
  perSandboxQueueBytes : Int
  rateLimited : Bool
  dropPolicy : DropPolicy
  targetID : String
  finalizeID : String → Nat → String
  items_pos : 0 < batchMaxItems
  budget_pos : 0 < memoryBudgetBytes
  share_pos : 0 < perSandboxQueueBytes
  share_le : perSandboxQueueBytes ≤ memoryBudgetBytes

structure Delivery where
  record : Record
  streamRef : String
  ackToken : List UInt8
  recordID : String

structure StreamEnd where
  streamRef : String
  endToken : List UInt8
  revision : Nat
  coverageStartedAt : Time
  resource : Resource
  outcome : SourceOutcome

inductive Event where
  | delivery (d : Delivery)
  | ended (e : StreamEnd)

def Event.stream : Event → String
  | .delivery d => d.streamRef
  | .ended e => e.streamRef

def eventBytes (d : Delivery) : Int :=
  512 + d.record.body.length + (utf8 d.recordID).length + d.ackToken.length +
    (d.record.attributes.entries.map fun entry =>
      ((utf8 entry.1).length + (utf8 entry.2).length : Int)).sum

def Event.bytes : Event → Int
  | .delivery d => eventBytes d
  | .ended _ => 0

structure Admitted where
  event : Event
  bytes : Int
  sandboxID : String
  position : Nat
  sized : bytes = event.bytes

inductive Exit where
  | returned
  | cancelled
  | failed
  deriving DecidableEq

inductive Next where
  | looping
  | ending (e : StreamEnd)
  | returning

inductive Phase where
  | waiting
  | idle
  | consuming (next : Next)
  | acknowledging (next : Next)
  | releasing (left : List Admitted) (next : Next)
  | loadingIntent (e : StreamEnd)
  | finalizing (e : StreamEnd) (intent : FinalizeIntent)
  | recordingSink (e : StreamEnd) (intent : FinalizeIntent)
  | endingSource (e : StreamEnd) (intent : FinalizeIntent)
  | recordingSource (e : StreamEnd) (intent : FinalizeIntent)
  | draining (exit : Exit) (hand : Option Admitted)
  | reporting (exit : Exit)
  | closing (exit : Exit)
  | clearing (exit : Exit)
  | stopped (exit : Exit)

def Phase.done : Phase → Bool
  | .clearing _ | .stopped _ => true
  | _ => false

inductive Entry where
  | consume (stream : String) (batch : List Admitted)
  | acknowledged (stream : String) (batch : List Admitted)
  | finalize (position : Nat) (request : FinalizeRequest)
  | finalized (stream : String) (revision : Nat)
  | endAcknowledged (stream : String) (revision : Nat)

def Phase.stopped? : Phase → Bool
  | .stopped _ => true
  | _ => false

structure Worker where
  stream : String
  input : List Admitted
  inputClosed : Bool
  predecessor : Option Nat
  items : List Admitted
  phase : Phase
  dropOutcome : SourceOutcome
  endPosition : Nat
  sent : List Admitted
  calls : List Entry

def Worker.new (stream : String) (predecessor : Option Nat) : Worker where
  stream := stream
  input := []
  inputClosed := false
  predecessor := predecessor
  items := []
  phase := .waiting
  dropOutcome := ⟨false,false,[]⟩
  endPosition := 0
  sent := []
  calls := []

def perStreamQueueSize : Nat := 1

def addReason (reasons : List String) (reason : String) : List String :=
  if reason ∈ reasons then reasons else reasons ++ [reason]

def mergeDropOutcome (drops outcome : SourceOutcome) : SourceOutcome :=
  if drops.hadDrops then
    { outcome with
      hadDrops := true
      lossReasons := drops.lossReasons.foldl addReason outcome.lossReasons }
  else outcome

inductive WorkerOp where
  | start
  | cancel
  | tick
  | receive
  | retry
  | succeed
  | giveUp (cancelled : Bool)
  | begin (now : Time)
  | release
  | drain
  | report
  | closeDone
  | clear

structure View where
  cancelled : Bool
  predecessorDone : Bool
  intent : String → Nat → Option FinalizeIntent

structure Effect where
  worker : Worker
  released : Option Admitted
  logged : List Entry
  intent : Option FinalizeIntent
  reported : Bool

namespace Worker

variable (cfg : Config) (w : Worker) (e : StreamEnd)

def quietly : Effect := ⟨w,none,[],none,false⟩

def exit (w : Worker) (exit : Exit) : Effect := quietly { w with phase := .draining exit none }

def flush (next : Next) : Effect :=
  { quietly { w with phase := .consuming next } with
    logged := [.consume w.stream w.items] }

def proceed : Next → Effect
  | .looping => quietly { w with phase := .idle }
  | .ending e => quietly { w with phase := .loadingIntent e }
  | .returning => w.exit .returned

def flushOr (next : Next) : Effect :=
  if w.items = [] then w.proceed next else w.flush next

def take (a : Admitted) (rest : List Admitted) : Effect :=
  match a.event with
  | .delivery _ =>
      let taken := { w with input := rest, items := w.items ++ [a] }
      if taken.items.length ≥ cfg.batchMaxItems then taken.flush .looping else taken.quietly
  | .ended e => { w with input := rest, endPosition := a.position }.flushOr (.ending e)

def finalizeRequest (intent : FinalizeIntent) : FinalizeRequest where
  finalizeID := intent.finalizeID
  targetID := intent.targetID
  streamRef := e.streamRef
  revision := e.revision
  coverageStartedAt := intent.coverageStartedAt
  resource := e.resource
  outcome := mergeDropOutcome w.dropOutcome e.outcome
  finalizedAt := intent.finalizedAt

def continueFinalize (intent : FinalizeIntent) : Effect :=
  if intent.sinkDone = false then
    { quietly { w with phase := .finalizing e intent } with
      logged := [.finalize w.endPosition (w.finalizeRequest e intent)] }
  else if intent.sourceDone = false then quietly { w with phase := .endingSource e intent }
  else w.exit .returned

def newIntent (now : Time) : FinalizeIntent where
  finalizeID := cfg.finalizeID e.streamRef e.revision
  targetID := cfg.targetID
  streamRef := e.streamRef
  revision := e.revision
  coverageStartedAt := e.coverageStartedAt
  finalizedAt :=
    if (truncateSecond now).nanos < e.coverageStartedAt.nanos then e.coverageStartedAt
    else truncateSecond now
  sinkDone := false
  sourceDone := false
where
  truncateSecond (t : Time) : Time := ⟨t.nanos - t.nanos % 1000000000,true⟩

def invalidCoverage : Bool :=
  e.coverageStartedAt.isZero || e.coverageStartedAt.utc = false ||
    e.coverageStartedAt.wholeSecond = false

def mismatched (intent : FinalizeIntent) : Bool :=
  intent.finalizeID ≠ cfg.finalizeID e.streamRef e.revision || intent.targetID ≠ cfg.targetID ||
    intent.coverageStartedAt.nanos ≠ e.coverageStartedAt.nanos

def beginFinalize (v : View) (w : Worker) (e : StreamEnd) (now : Time) : Effect :=
  if invalidCoverage e then w.exit .failed
  else
    match v.intent e.streamRef e.revision with
    | none =>
        let intent := newIntent cfg e now
        { w.continueFinalize e intent with intent := some intent }
    | some intent =>
        if mismatched cfg e intent then w.exit .failed else w.continueFinalize e intent

def succeed : Option Effect :=
  match w.phase with
  | .consuming next => some (quietly { w with phase := .acknowledging next })
  | .acknowledging next =>
      some { quietly { w with phase := .releasing w.items next, items := [] } with
        logged := [.acknowledged w.stream w.items] }
  | .finalizing e intent =>
      some { quietly { w with phase := .recordingSink e { intent with sinkDone := true } } with
        logged := [.finalized e.streamRef e.revision] }
  | .recordingSink e intent => some { w.continueFinalize e intent with intent := some intent }
  | .endingSource e intent =>
      some { quietly { w with phase := .recordingSource e { intent with sourceDone := true } } with
        logged := [.endAcknowledged e.streamRef e.revision] }
  | .recordingSource _ intent => some { w.exit .returned with intent := some intent }
  | _ => none

def calling : Phase → Bool
  | .consuming _ | .acknowledging _ | .finalizing _ _ | .endingSource _ _ => true
  | _ => false

def fallible : Phase → Bool
  | .loadingIntent _ | .recordingSink _ _ | .recordingSource _ _ => true
  | phase => calling phase

def drain : Option Effect :=
  match w.phase with
  | .draining exit none =>
      match w.items, w.input with
      | a :: items, _ => some { quietly { w with items := items } with released := some a }
      | [], a :: rest =>
          some (quietly { w with phase := .draining exit (some a), input := rest })
      | [], [] => some (quietly { w with phase := .reporting exit })
  | .draining exit (some a) =>
      some { quietly { w with phase := .draining exit none } with released := some a }
  | _ => none

def step (v : View) (w : Worker) : WorkerOp → Option Effect
  | .start =>
      match w.phase with
      | .waiting =>
          if w.predecessor = none ∨ v.predecessorDone = true then
            some (quietly { w with phase := .idle })
          else none
      | _ => none
  | .cancel =>
      match w.phase with
      | .waiting => if w.predecessor ≠ none ∧ v.cancelled then some (w.exit .cancelled) else none
      | .idle => if v.cancelled then some (w.exit .cancelled) else none
      | _ => none
  | .tick =>
      match w.phase with
      | .idle => some (w.flushOr .looping)
      | _ => none
  | .receive =>
      match w.phase, w.input with
      | .idle, a :: rest => some (w.take cfg a rest)
      | .idle, [] => if w.inputClosed then some (w.flushOr .returning) else none
      | _, _ => none
  | .retry => if calling w.phase then some w.quietly else none
  | .succeed => w.succeed
  | .giveUp cancelled =>
      if fallible w.phase then some (w.exit (if cancelled then .cancelled else .failed)) else none
  | .begin now =>
      match w.phase with
      | .loadingIntent e => some (w.beginFinalize cfg v e now)
      | _ => none
  | .release =>
      match w.phase with
      | .releasing (a :: left) next =>
          some { quietly { w with phase := .releasing left next } with released := some a }
      | .releasing [] next => some (w.proceed next)
      | _ => none
  | .drain => w.drain
  | .report =>
      match w.phase with
      | .reporting exit =>
          some { quietly { w with phase := .closing exit } with reported := exit = .failed }
      | _ => none
  | .closeDone =>
      match w.phase with
      | .closing exit => some (quietly { w with phase := .clearing exit })
      | _ => none
  | .clear =>
      match w.phase with
      | .clearing exit => some (quietly { w with phase := .stopped exit })
      | _ => none

end Worker

inductive RunPhase where
  | selecting
  | admitting (worker : Nat) (event : Event)
  | sending (worker : Nat) (a : Admitted)
  | retiring (worker : Nat)
  | returned

def RunPhase.active : RunPhase → Bool
  | .admitting _ _ | .sending _ _ => true
  | _ => false

inductive ClosePhase where
  | running
  | waitingSends
  | closingInputs (left : List Nat) (drain : Bool)
  | drainingInput (worker : Nat) (hand : Option Admitted) (left : List Nat)
  | waitingWorkers
  | returned

def ClosePhase.locked : ClosePhase → Bool
  | .closingInputs _ _ | .drainingInput _ _ _ => true
  | _ => false

structure State where
  run : RunPhase
  workers : List Worker
  registry : GoMap Nat
  handoffs : GoMap Nat
  closed : Bool
  cancelled : Bool
  workerErrors : Bool
  close : ClosePhase
  globalBytes : Int
  sandboxBytes : GoMap Int
  intents : String → Nat → Option FinalizeIntent
  source : List Event
  log : List Entry
  admitted : List Admitted
  released : List Admitted

namespace State

def storedIntent (stored : List FinalizeIntent) (stream : String) (revision : Nat) :
    Option FinalizeIntent :=
  stored.find? fun intent => intent.streamRef = stream ∧ intent.revision = revision

def initial (stored : List FinalizeIntent) : State where
  run := .selecting
  workers := []
  registry := ∅
  handoffs := ∅
  closed := false
  cancelled := false
  workerErrors := false
  close := .running
  globalBytes := 0
  sandboxBytes := ∅
  intents := storedIntent stored
  source := []
  log := []
  admitted := []
  released := []

def release (a : Admitted) (s : State) : State :=
  if a.bytes = 0 then s
  else
    let share := (s.sandboxBytes.lookup a.sandboxID).getD 0 - a.bytes
    { s with
      globalBytes := s.globalBytes - a.bytes
      sandboxBytes :=
        if share = 0 then s.sandboxBytes.erase a.sandboxID
        else s.sandboxBytes.insert a.sandboxID share
      released := s.released ++ [a] }

def reserve (a : Admitted) (s : State) : State :=
  { s with
    globalBytes := s.globalBytes + a.bytes
    sandboxBytes :=
      s.sandboxBytes.insert a.sandboxID ((s.sandboxBytes.lookup a.sandboxID).getD 0 + a.bytes)
    admitted := s.admitted ++ [a] }

def fits (cfg : Config) (s : State) (bytes : Int) (sandboxID : String) : Bool :=
  s.globalBytes + bytes ≤ cfg.memoryBudgetBytes &&
    (s.sandboxBytes.lookup sandboxID).getD 0 + bytes ≤ cfg.perSandboxQueueBytes

def tooLarge (cfg : Config) (bytes : Int) : Bool :=
  bytes > cfg.memoryBudgetBytes || bytes > cfg.perSandboxQueueBytes

def setWorker (i : Nat) (w : Worker) (s : State) : State :=
  { s with workers := s.workers.set i w }

def doneAt (s : State) (i : Nat) : Bool := (s.workers[i]?.map (·.phase.done)).getD true

def view (s : State) (w : Worker) : View where
  cancelled := s.cancelled
  predecessorDone := (w.predecessor.map s.doneAt).getD true
  intent := s.intents

def putIntent (intent : FinalizeIntent) (s : State) : State :=
  { s with
    intents := fun stream revision =>
      if stream = intent.streamRef ∧ revision = intent.revision then some intent
      else s.intents stream revision }

def clearHandoff (i : Nat) (stream : String) (s : State) : State :=
  if s.handoffs.lookup stream = some i then { s with handoffs := s.handoffs.erase stream } else s

def apply (i : Nat) (e : Effect) (s : State) : State :=
  let called := { e.worker with calls := e.worker.calls ++ e.logged }
  let moved := { s.setWorker i called with
    log := s.log ++ e.logged
    workerErrors := s.workerErrors || e.reported }
  let stored := match e.intent with
    | none => moved
    | some intent => moved.putIntent intent
  match e.released with
  | none => stored
  | some a => stored.release a

def getWorker (event : Event) (s : State) : State :=
  if s.closed then { s with run := .returned }
  else
    match s.registry.lookup event.stream with
    | some i => { s with run := .admitting i event }
    | none =>
        { s with
          run := .admitting s.workers.length event
          workers := s.workers ++ [Worker.new event.stream (s.handoffs.lookup event.stream)]
          registry := s.registry.insert event.stream s.workers.length
          handoffs := s.handoffs.erase event.stream }

def retire (i : Nat) (w : Worker) (s : State) : State :=
  if s.registry.lookup w.stream = some i then
    { s with
      run := .selecting
      registry := s.registry.erase w.stream
      handoffs := if w.phase.done then s.handoffs else s.handoffs.insert w.stream i }
  else { s with run := .selecting }

end State

inductive DropCause where
  | tooLarge
  | rateLimit
  | queueLimit

def DropCause.reason : DropCause → String
  | .tooLarge => "pipeline-record-too-large"
  | .rateLimit => "pipeline-rate-limit"
  | .queueLimit => "pipeline-queue-limit"

inductive Action where
  | receive (event : Event)
  | stop
  | tryAdmit
  | drop (cause : DropCause)
  | refuse
  | send
  | abort
  | retire
  | worker (i : Nat) (op : WorkerOp)
  | closeBegin
  | closeExpire
  | closeInputs
  | closeInput (i : Nat)
  | closeTake
  | closeRelease
  | closeNext
  | closeWait
  | closeReturn

namespace State

variable (cfg : Config) (s : State)

def tryAdmit (i : Nat) : Event → Option State
  | .ended e => some { s with run := .sending i ⟨.ended e,0,"",s.source.length - 1,rfl⟩ }
  | .delivery d =>
      let a : Admitted :=
        ⟨.delivery d,eventBytes d,d.record.resource.sandboxID,s.source.length - 1,rfl⟩
      if tooLarge cfg a.bytes = false ∧ s.fits cfg a.bytes a.sandboxID then
        some { s.reserve a with run := .sending i a }
      else none

def recordDrop (reason : String) (w : Worker) : Worker :=
  { w with dropOutcome :=
    { w.dropOutcome with
      hadDrops := true
      lossReasons := addReason w.dropOutcome.lossReasons reason } }

def drops (d : Delivery) : DropCause → Bool
  | .tooLarge => tooLarge cfg (eventBytes d)
  | .rateLimit => tooLarge cfg (eventBytes d) = false && cfg.rateLimited
  | .queueLimit =>
      tooLarge cfg (eventBytes d) = false &&
        s.fits cfg (eventBytes d) d.record.resource.sandboxID = false

def drop (cfg : Config) (s : State) (cause : DropCause) (i : Nat) (w : Worker) :
    Event → Option State
  | .ended _ => none
  | .delivery d =>
      if cfg.dropPolicy = .drop ∧ s.drops cfg d cause then
        some { s.setWorker i (recordDrop cause.reason w) with run := .selecting }
      else none

def isEnd : Event → Bool
  | .ended _ => true
  | .delivery _ => false

def send (i : Nat) (a : Admitted) (w : Worker) : Option State :=
  if w.input.length < perStreamQueueSize ∧ w.inputClosed = false then
    some { s.setWorker i { w with input := w.input ++ [a], sent := w.sent ++ [a] } with
      run := if isEnd a.event then .retiring i else .selecting }
  else none

def stepRun : Action → Option State
  | .receive event =>
      match s.run with
      | .selecting =>
          if s.close.locked then none
          else some ({ s with source := s.source ++ [event] }.getWorker event)
      | _ => none
  | .stop =>
      match s.run with
      | .selecting => some { s with run := .returned }
      | _ => none
  | .tryAdmit =>
      match s.run with
      | .admitting i event => s.tryAdmit cfg i event
      | _ => none
  | .drop cause =>
      match s.run with
      | .admitting i event => (s.workers[i]?).bind fun w => s.drop cfg cause i w event
      | _ => none
  | .refuse =>
      match s.run with
      | .admitting _ (.delivery _) => some { s with run := .returned }
      | _ => none
  | .send =>
      match s.run with
      | .sending i a => (s.workers[i]?).bind fun w => s.send i a w
      | _ => none
  | .abort =>
      match s.run with
      | .sending _ a => some { s.release a with run := .returned }
      | _ => none
  | .retire =>
      match s.run with
      | .retiring i => if s.close.locked then none else (s.workers[i]?).map fun w => s.retire i w
      | _ => none
  | _ => none

def stepWorker (i : Nat) (op : WorkerOp) : Option State :=
  match s.workers[i]? with
  | none => none
  | some w =>
      match op with
      | .clear =>
          if s.close.locked then none
          else (w.step cfg (s.view w) .clear).map fun e => (s.clearHandoff i w.stream).apply i e
      | op => (w.step cfg (s.view w) op).map fun e => s.apply i e

def stepClose : Action → Option State
  | .closeBegin =>
      match s.close with
      | .running => some { s with closed := true, close := .waitingSends }
      | _ => none
  | .closeExpire =>
      match s.close with
      | .waitingSends | .waitingWorkers => some { s with cancelled := true }
      | _ => none
  | .closeInputs =>
      match s.close with
      | .waitingSends =>
          if s.run.active then none
          else some { s with
            close := .closingInputs (s.registry.entries.map (·.2)) s.cancelled }
      | _ => none
  | .closeInput i =>
      match s.close with
      | .closingInputs left drain =>
          if i ∈ left then
            (s.workers[i]?).map fun w =>
              { s.setWorker i { w with inputClosed := true } with
                close := if drain then .drainingInput i none (left.erase i)
                  else .closingInputs (left.erase i) drain }
          else none
      | _ => none
  | .closeTake =>
      match s.close with
      | .drainingInput i none left =>
          (s.workers[i]?).bind fun w =>
            match w.input with
            | [] => none
            | a :: rest => some { s.setWorker i { w with input := rest } with
                close := .drainingInput i (some a) left }
      | _ => none
  | .closeRelease =>
      match s.close with
      | .drainingInput i (some a) left =>
          some { s.release a with close := .drainingInput i none left }
      | _ => none
  | .closeNext =>
      match s.close with
      | .drainingInput i none left =>
          (s.workers[i]?).bind fun w =>
            match w.input with
            | [] => some { s with close := .closingInputs left true }
            | _ => none
      | _ => none
  | .closeWait =>
      match s.close with
      | .closingInputs [] _ => some { s with close := .waitingWorkers }
      | _ => none
  | .closeReturn =>
      match s.close with
      | .waitingWorkers =>
          if s.workers.all fun w => w.phase.stopped? then
            some { s with close := .returned, cancelled := true }
          else none
      | _ => none
  | _ => none

def step : Action → Option State
  | .worker i op => s.stepWorker cfg i op
  | .closeBegin => s.stepClose .closeBegin
  | .closeExpire => s.stepClose .closeExpire
  | .closeInputs => s.stepClose .closeInputs
  | .closeInput i => s.stepClose (.closeInput i)
  | .closeTake => s.stepClose .closeTake
  | .closeRelease => s.stepClose .closeRelease
  | .closeNext => s.stepClose .closeNext
  | .closeWait => s.stepClose .closeWait
  | .closeReturn => s.stepClose .closeReturn
  | a => s.stepRun cfg a

end State

end OpenSandbox.NodeAgent.Pipeline
