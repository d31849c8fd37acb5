import Autoformat.Rehearsal.Shell.Machine

/-!
# Processes beside the shell

A command that is not waited for is kept as a job. It runs when the shell waits, when something is waited
for that the job writes to, or when the shell lets time go; its own time begins when it was started. Jobs
may also be ended by a signal.
-/

namespace Autoformat.Rehearsal.Shell

/-! ## Signals and the end of a shell -/

/-- Does what the shell does on the signals that have come. -/
def handleSignals (self : Interpreter) : Process Unit := do
  for signal in ← takeSignals do
    let s ← theShell
    match s.trap? signal with
    | none => throw (.killed signal)
    | some "" => pure ()
    | some action =>
      let _ ← self.text false action
      modifyShell fun t => { t with status := s.status }

/-- Runs a body as the whole of a shell, which may have something to do at its end. -/
def asShell (self : Interpreter) (body : Process Nat) : Process Nat := do
  match ← ending (do
    let code ← body
    handleSignals self
    return code) with
  | .killed signal => throw (.killed signal)
  | .exited code =>
    let s ← theShell
    match s.traps.lookup "EXIT" with
    | none => return code
    | some action =>
      modifyShell fun s =>
        { s with
          status := code
          finalStatus := some code
          traps := s.traps.filter fun x => x.1 ≠ "EXIT" }
      tryCatch (do
        let _ ← self.text false action
        return code) fun
        | .exit code => return code
        | .mistake | .leave _ | .next _ | .back _ => return code
        | stop => throw stop

/-! ## Jobs -/

/-- Runs a job until it ends, or until a time; then its end is not known yet. -/
def runJob (self : Interpreter) (i : Nat) (latest : Option Nat) : Process (Option Ending) := do
  let m ← get
  match m.jobs[i]? with
  | none => return none
  | some job =>
    match job.ended with
    | some (e, _) => return some e
    | none =>
      set { m with
        elapsed := job.start
        deadline := latest
        jobs := m.jobs.setIfInBounds i { job with isRunning := true } }
      let ended ← tryCatch
        (do return some (← inProcess job.shell (asShell self (self.run false job.command)))) fun
        | .cut => return none
        | stop => throw stop
      modify fun n =>
        { n with
          shell := m.shell
          elapsed := m.elapsed
          deadline := m.deadline
          jobs := n.jobs.setIfInBounds i { job with ended := ended.map (·, n.elapsed) } }
      return ended

/-- Waits for a job. -/
def waitForJob (self : Interpreter) (i : Nat) : Process Ending := do
  let e ← runJob self i none
  let m ← get
  let finish := ((m.jobs[i]?).bind Job.ended).map Prod.snd
  waitFor (finish.getD 0 - m.elapsed)
  return e.getD (.exited 0)

/-- The jobs that have not ended, do not run, and pass a test. -/
def jobsThat (test : Machine → Job → Bool) : Process (List Nat) := do
  let m ← get
  let isMeant (job : Job) : Bool := job.ended.isNone && !job.isRunning && test m job
  return (m.jobs.toList.zipIdx.filter fun x => isMeant x.1).map Prod.snd

/-- A job holds a buffer open. -/
def holds (buffers : List Nat) (m : Machine) (job : Job) : Bool :=
  job.shell.streams.any fun x =>
    match (m.opened[x.2]?).map Opened.target with
    | some (.buffer b) => buffers.contains b
    | _ => false

/-- Waits until no job holds some buffers open. -/
def settle (self : Interpreter) (buffers : List Nat) : Nat → Process Unit
  | 0 => pure ()
  | fuel + 1 => do
    match ← jobsThat (holds buffers) with
    | [] => pure ()
    | i :: _ =>
      let _ ← waitForJob self i
      settle self buffers fuel

/-- Lets jobs run to the time when the shell goes on. A job that is not done then is run again later. -/
def runJobsUntil (self : Interpreter) (wake : Nat) : List Nat → Process Unit
  | [] => pure ()
  | i :: rest => do
    let before ← get
    let limit := before.limit.toNat * 1000
    let isOver := limit ≠ 0 && limit < wake
    match ← runJob self i (some (if isOver then limit else wake)) with
    | some _ => pure ()
    | none => if !isOver then set before
    runJobsUntil self wake rest

/-- Waits, while jobs run. -/
def pause (self : Interpreter) (milliseconds : Nat) : Process Unit := do
  let m ← get
  let jobs ← jobsThat fun m job => job.start ≤ m.elapsed
  unless m.world.clockRuns || m.world.isCancelled do
    runJobsUntil self (m.elapsed + milliseconds) jobs
  waitFor milliseconds

/-- Ends a job by a signal, if it has not ended before. -/
def endJob (self : Interpreter) (i : Nat) (signal : Nat) : Process Unit := do
  match ← runJob self i (some (← get).elapsed) with
  | some _ => pure ()
  | none =>
    modify fun m =>
      { m with jobs := m.jobs.modify i fun job => { job with ended := some (.killed signal, m.elapsed) } }

/-- The job with a number. -/
def jobOf? (pid : Nat) : Process (Option Nat) := do
  return (← get).jobs.findIdx? fun job => job.pid = pid

/-- Sends a signal to a process, if there is one of the number. -/
def signalProcess (self : Interpreter) (pid signal : Nat) : Process Bool := do
  let m ← get
  if pid = m.shell.pid || pid = m.shell.root || pid = 0 then
    sendSignal (if pid = 0 then m.shell.pid else pid) signal
    return true
  else
    match ← jobOf? pid with
    | none => return false
    | some i =>
      let isOver := ((← get).jobs[i]?).any fun job => job.ended.isSome
      unless isOver || signal = 0 || isHarmless signal do
        endJob self i signal
      return !isOver

/-! ## Commands beside the shell -/

/-- Runs a body in a process beside the shell. -/
def runBeside (body : Process Nat) : Process Ending := do
  let pid ← newPid
  inProcess ((← theShell).beside pid) body

/-- What a body writes to standard output, until nothing holds it open any more. -/
def capture (self : Interpreter) (body : Process Nat) : Process (Nat × ByteArray) := do
  let b ← newBuffer .empty
  let n ← openFile { target := .buffer b, writes := true }
  let streams := (← theShell).streams
  setStream 1 (some n)
  let code ← andThen body (modifyShell fun s => { s with streams := streams })
  settle self [b] ((← get).jobs.size + 1000)
  return (code, ← emptyBuffer b)

/-- Runs a command beside the shell, for its status and what it writes. -/
def spawn (self : Interpreter) (c : Command) : Process (Nat × ByteArray) :=
  capture self (do (← runBeside (asShell self (self.run false c))).status)

/-- Runs commands that each read what the one before has written, all at the same time. `start` is the
time when they begin and `latest` the time of the last end so far. -/
def runPipeline (self : Interpreter) (isTested : Bool) (start latest : Nat) :
    List Command → Process Nat
  | [] => return 0
  | [c] => do
    let code ← (← runBeside (asShell self (self.run isTested c))).status
    modify fun m => { m with elapsed := max m.elapsed latest }
    return code
  | c :: rest => do
    let (_, written) ← capture self (do
      (← runBeside (asShell self (self.run isTested c))).status)
    let latest := max latest (← get).elapsed
    modify fun m => { m with elapsed := start }
    let b ← newBuffer written
    let n ← openFile { target := .buffer b, reads := true }
    let streams := (← theShell).streams
    setStream 0 (some n)
    andThen (runPipeline self isTested start latest rest)
      (modifyShell fun s => { s with streams := streams })

/-- Starts a command without waiting for it. -/
def startJob (c : Command) : Process Unit := do
  let pid ← newPid
  let s ← theShell
  let input ← openFile { target := .device .null, reads := true }
  let shell := { s.beside pid with streams := (0, input) :: s.streams.filter fun x => x.1 ≠ 0 }
  modify fun m => { m with jobs := m.jobs.push ⟨pid, s.pid, shell, c, m.elapsed, none, false⟩ }
  modifyShell fun s => { s with lastJob := some pid }

end Autoformat.Rehearsal.Shell
