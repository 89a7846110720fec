import OpenSandbox.Library.Runs

namespace OpenSandbox.Kubernetes.Restart

structure ContainerStatus where
  name : String
  containerID : String
  running : Bool

structure RestartInfo where
  id : String
  containers : List (String × String)
  lastRetryTime : Option Int
  retryCount : Nat

structure Pod where
  running : Bool
  containerStatuses : List ContainerStatus
  record : Option RestartInfo

structure RestartConfig where
  blacklist : List String
  retryInterval : Int
  maxRetries : Nat

inductive RestartState
  | restarting
  | succeeded
  | failed
  deriving DecidableEq

structure Call where
  cfg : RestartConfig
  now : Int
  pod : Pod
  recorded : Bool
  persisted : Bool

def statusOf (statuses : List ContainerStatus) (name : String) : Option ContainerStatus :=
  statuses.reverse.find? (·.name = name)

def buildInfo (statuses : List ContainerStatus) (id : String) (names : List String) : RestartInfo :=
  ⟨id,names.map fun n => (n, ((statusOf statuses n).map (·.containerID)).getD ""),none,0⟩

def initInfo (cfg : RestartConfig) (statuses : List ContainerStatus) (id : String) : RestartInfo :=
  buildInfo statuses id
    ((statuses.filter fun c => c.running && decide (c.name ∉ cfg.blacklist)).map (·.name))

def evalState (statuses : List ContainerStatus) (info : RestartInfo) : RestartState :=
  if ∀ c ∈ info.containers, ∃ s ∈ statusOf statuses c.1, s.containerID ≠ c.2 ∧ s.running = true
  then .succeeded else .restarting

variable (c : Call) (info : RestartInfo) (written : Option RestartInfo)

def doRetry : Option RestartInfo × Option RestartState :=
  if info.containers = [] then (written, some .succeeded)
  else if c.persisted then
    (some { info with lastRetryTime := some c.now, retryCount := info.retryCount + 1 },
      some .restarting)
  else (written, none)

def drive : Option RestartInfo × Option RestartState :=
  if evalState c.pod.containerStatuses info = .succeeded then (written, some .succeeded)
  else if c.cfg.maxRetries ≤ info.retryCount then (written, some .failed)
  else if info.lastRetryTime.any (c.now - · < c.cfg.retryInterval) then (written, some .restarting)
  else doRetry c info written

def tryRestart (id : String) : Option RestartInfo × Option RestartState :=
  if c.pod.running then
    match c.pod.record.filter (·.id = id) with
    | some info => drive c info none
    | none =>
      let info := initInfo c.cfg c.pod.containerStatuses id
      if c.recorded then drive c info (some info) else (none, none)
  else (none, none)

structure Life where
  pod : Pod
  sandbox : String
  handed : Option (List (String × String))

inductive Event
  | release (sandbox : String)
  | observe (running : Bool) (statuses : List ContainerStatus)
  | call (c : Call)

namespace Life

variable (l : Life)

def step : Event → Life
  | .release sandbox => { l with sandbox, handed := none }
  | .observe running containerStatuses =>
    { l with pod := { l.pod with running, containerStatuses } }
  | .call c =>
    { l with
      pod := { l.pod with record := (tryRestart c l.sandbox).1.or l.pod.record }
      handed := l.handed.or
        (some (initInfo c.cfg l.pod.containerStatuses l.sandbox).containers) }

def Timely : Event → Prop
  | .call c => c.pod = l.pod ∧ (l.handed = none → l.pod.running = true ∧ c.recorded = true ∧
      ∀ info, l.pod.record = some info → info.id ≠ l.sandbox)
  | _ => True

def Restarted : Prop :=
  ∀ entry ∈ l.handed.getD [], ∃ s, statusOf l.pod.containerStatuses entry.1 = some s ∧
    s.containerID ≠ entry.2

def Recorded : Prop :=
  ∀ handed, l.handed = some handed → ∃ info, l.pod.record = some info ∧ info.id = l.sandbox ∧
    info.containers = handed

end Life

variable {c info written}

theorem drive_written : (drive c info written).1 = written ∨
    ∃ i, (drive c info written).1 = some i ∧ i.id = info.id ∧ i.containers = info.containers := by
  unfold drive doRetry
  split_ifs
  all_goals first | exact .inl rfl | exact .inr ⟨_,rfl,rfl,rfl⟩

theorem drive_succeeded (h : (drive c info written).2 = some .succeeded)
    {entry : String × String} (hentry : entry ∈ info.containers) :
    ∃ s, statusOf c.pod.containerStatuses entry.1 = some s ∧ s.containerID ≠ entry.2 := by
  have heval : evalState c.pod.containerStatuses info = .succeeded := by
    by_contra hne
    unfold drive doRetry at h
    rw [if_neg hne,if_neg (List.ne_nil_of_mem hentry)] at h
    split_ifs at h <;> cases h
  unfold evalState at heval
  split_ifs at heval with hall
  obtain ⟨s,hs,hne,-⟩ := hall entry hentry
  exact ⟨s,hs,hne⟩

variable {l : Life}

theorem tryRestart_timely (h : l.Recorded) (hok : l.Timely (.call c)) :
    ∃ info written, written.or l.pod.record = some info ∧ info.id = l.sandbox ∧
      (l.step (.call c)).handed = some info.containers ∧
      (written = none ∧ tryRestart c l.sandbox = (none, none) ∨
        tryRestart c l.sandbox = drive c info written) := by
  obtain ⟨hpod,hfirst⟩ := hok
  unfold tryRestart
  rw [hpod]
  cases hhanded : l.handed with
  | some handed =>
    obtain ⟨info,hrecord,hid,rfl⟩ := h handed hhanded
    refine ⟨info,none,hrecord,hid,by rw [Life.step,hhanded]; rfl,?_⟩
    rw [hrecord,Option.filter_some,if_pos (decide_eq_true hid)]
    cases l.pod.running with
    | true => exact .inr rfl
    | false => exact .inl ⟨rfl,rfl⟩
  | none =>
    obtain ⟨hrunning,hrecorded,hnew⟩ := hfirst hhanded
    refine ⟨_,some (initInfo c.cfg l.pod.containerStatuses l.sandbox),rfl,rfl,
      by rw [Life.step,hhanded]; rfl,.inr ?_⟩
    have hnone : l.pod.record.filter (·.id = l.sandbox) = none := by
      rw [Option.filter_eq_none_iff]
      exact fun info hinfo => by simpa using hnew info hinfo
    rw [hrunning,hnone,hrecorded]
    rfl

theorem Life.Recorded.step (h : l.Recorded) {e : Event} (hok : l.Timely e) :
    (l.step e).Recorded := by
  cases e with
  | release sandbox => exact nofun
  | observe running statuses => exact h
  | call c =>
    obtain ⟨info,written,hrecord,hid,hhanded,hdriven⟩ := tryRestart_timely h hok
    intro handed hsome
    cases hhanded.symm.trans hsome
    rcases hdriven with ⟨rfl,hdriven⟩ | hdriven
    · exact ⟨info,by rw [Life.step,hdriven]; exact hrecord,hid,rfl⟩
    rcases @drive_written c info written with hkept | ⟨i,hi,hsame⟩
    · exact ⟨info,by rw [Life.step,hdriven,hkept]; exact hrecord,hid,rfl⟩
    · exact ⟨i,by rw [Life.step,hdriven,hi]; rfl,hsame.1.trans hid,hsame.2⟩

theorem succeeded_restarted
    (h : Runs.Reach (fun l e t => Life.step l e = t) Life.Timely (·.handed = none) l)
    (hok : l.Timely (.call c)) (hs : (tryRestart c l.sandbox).2 = some .succeeded) :
    (l.step (.call c)).Restarted := by
  have hrecorded : l.Recorded := by
    refine h.invariant (fun l hl handed hsome => ?_) fun l e t hl hok ht => ht ▸ hl.step hok
    cases hl.symm.trans hsome
  obtain ⟨info,written,-,-,hhanded,⟨-,hnone⟩ | hdriven⟩ := tryRestart_timely hrecorded hok
  · rw [hnone] at hs
    cases hs
  · intro entry hentry
    rw [hhanded] at hentry
    rw [hdriven] at hs
    have hentries := drive_succeeded hs hentry
    rwa [hok.1] at hentries

def running (id : String) : List ContainerStatus := [⟨"main",id,true⟩]

def asked (id : String) (record : Option RestartInfo) : Call :=
  ⟨⟨[],30,5⟩,0,⟨true,running id,record⟩,true,true⟩

def firstRecord : RestartInfo := ⟨"a",[("main", "c1")],some 0,1⟩

def newLife : Life := ⟨⟨true,running "c1",none⟩,"a",none⟩

def restartedOnce : Life :=
  ((newLife.step (.call (asked "c1" none))).step (.observe true (running "c2"))).step
    (.call (asked "c2" (some firstRecord)))

theorem succeeded_restarted_once : restartedOnce.Restarted := by
  refine succeeded_restarted (.step (.step (.start rfl) ?_ rfl) ?_ rfl) ⟨rfl,nofun⟩ rfl
  · exact ⟨rfl,fun _ => ⟨rfl,rfl,nofun⟩⟩
  · trivial

theorem reused_name_not_restarted :
    ∃ l, Runs.Reach (fun l e t => Life.step l e = t) (fun _ _ => True) (·.handed = none) l ∧
      (tryRestart (asked "c2" (some firstRecord)) l.sandbox).2 = some .succeeded ∧
      l.pod = (asked "c2" (some firstRecord)).pod ∧
      ¬ (l.step (.call (asked "c2" (some firstRecord)))).Restarted := by
  refine ⟨restartedOnce.step (.release "a"),
    .step (.step (.step (.step (.start rfl) trivial rfl) trivial rfl) trivial rfl) trivial rfl,
    rfl,rfl,fun h => ?_⟩
  obtain ⟨s,hs,hne⟩ := h ("main", "c2") List.mem_cons_self
  cases hs
  exact hne rfl

end OpenSandbox.Kubernetes.Restart
