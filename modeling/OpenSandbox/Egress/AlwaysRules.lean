import OpenSandbox.Egress.PolicyText

namespace OpenSandbox.Policy

open GoText

inductive RuleFileError where
  | unreadable
  | tooLong
  | line (number : Nat) (err : ParseError)
  deriving DecidableEq

def maxScanTokenSize : Nat := 65536

def dropCR (line : List Char) : List Char :=
  if line.getLast? = some '\r' then line.dropLast else line

def scanLines (data : String) : List (List Char) :=
  let pieces := data.toList.splitOn '\n'
  if pieces.getLast? = some [] then pieces.dropLast else pieces

def parseLine (action : String) (lineNum : Nat) (line : List Char) :
    Except RuleFileError (Option EgressRule) :=
  if maxScanTokenSize ≤ (String.ofList line).utf8ByteSize then .error .tooLong
  else
    let text := trimSpace (String.ofList (dropCR line))
    if text = "" ∨ text.toList.head? = some '#' then .ok none
    else
      match parseValidatedEgressRule action text with
      | .error e => .error (.line lineNum e)
      | .ok rule => .ok (some rule)

def parseAlwaysRuleLines (action : String) (data : String) :
    Except RuleFileError (List EgressRule) := do
  let rules ← (scanLines data).zipIdx.mapM fun l => parseLine action (l.2 + 1) l.1
  return rules.filterMap id

inductive Stat where
  | notExist
  | failed
  | info (modTime size : Nat)

inductive Read where
  | notExist
  | failed
  | data (text : String)

structure FileView where
  stat : Stat
  read : Read

def loadAlwaysRuleFile (action : String) : Read → Except RuleFileError (List EgressRule)
  | .notExist => .ok []
  | .failed => .error .unreadable
  | .data text => parseAlwaysRuleLines action text

structure FileState where
  action : String
  present : Bool
  modTime : Nat
  size : Nat
  rules : List EgressRule
  deriving DecidableEq

def refreshOne (state : FileState) (view : FileView) : Except RuleFileError Bool × FileState :=
  match view.stat with
  | .notExist =>
      if state.present then
        (.ok true, { state with present := false, modTime := 0, size := 0, rules := [] })
      else (.ok false, state)
  | .failed => (.error .unreadable, state)
  | .info modTime size =>
      if state.present ∧ modTime = state.modTime ∧ size = state.size then (.ok false, state)
      else
        match loadAlwaysRuleFile state.action view.read with
        | .error e => (.error e, state)
        | .ok rules =>
            (.ok true, ⟨state.action,true,modTime,size,rules⟩)

structure AlwaysRuleLoader where
  refreshInterval : Int
  lastCheck : Option Int
  denyState : FileState
  allowState : FileState
  deriving DecidableEq

def newAlwaysRuleLoader (refreshInterval : Int) : AlwaysRuleLoader :=
  ⟨if refreshInterval ≤ 0 then 60000000000 else refreshInterval,none,
    ⟨actionDeny,false,0,0,[]⟩,⟨actionAllow,false,0,0,[]⟩⟩

structure Refresh where
  now : Int
  denyFile : FileView
  allowFile : FileView

def AlwaysRuleLoader.due (l : AlwaysRuleLoader) (now : Int) : Bool :=
  match l.lastCheck with
  | none => true
  | some last => decide (l.refreshInterval ≤ now - last)

def refreshIfDue (l : AlwaysRuleLoader) (f : Refresh) :
    Except RuleFileError Bool × AlwaysRuleLoader :=
  if l.due f.now then
    let (deny, denyState) := refreshOne l.denyState f.denyFile
    let l := { l with lastCheck := some f.now, denyState := denyState }
    match deny with
    | .error e => (.error e, l)
    | .ok denyChanged =>
        let (allow, allowState) := refreshOne l.allowState f.allowFile
        let l := { l with allowState := allowState }
        match allow with
        | .error e => (.error e, l)
        | .ok allowChanged => (.ok (denyChanged || allowChanged), l)
  else (.ok false, l)

def AlwaysRuleLoader.setCurrentRules (l : AlwaysRuleLoader) (deny allow : List EgressRule) :
    AlwaysRuleLoader :=
  { l with
    denyState := { l.denyState with rules := deny }
    allowState := { l.allowState with rules := allow } }

theorem refreshOne_unchanged {state : FileState} {view : FileView} {r : Except RuleFileError Bool}
    {state' : FileState} (h : refreshOne state view = (r, state')) (hr : r ≠ .ok true) :
    state' = state := by
  unfold refreshOne at h
  split at h
  · split at h
    · cases h
      exact absurd rfl hr
    · cases h
      rfl
  · cases h
    rfl
  split at h
  · cases h
    rfl
  · split at h
    · cases h
      rfl
    · cases h
      exact absurd rfl hr

theorem refreshIfDue_cases (l : AlwaysRuleLoader) (f : Refresh) :
    (l.due f.now = false ∧ refreshIfDue l f = (.ok false, l)) ∨
      (l.due f.now = true ∧ ∃ e, (refreshIfDue l f).1 = .error e ∧
        (refreshIfDue l f).2.allowState = l.allowState ∧
        ((refreshIfDue l f).2.denyState = l.denyState ∨
          ((refreshOne l.denyState f.denyFile).1 = .ok true ∧
            (refreshOne l.allowState f.allowFile).1 = .error e ∧
            (refreshIfDue l f).2.denyState = (refreshOne l.denyState f.denyFile).2))) ∨
      (l.due f.now = true ∧ (refreshIfDue l f).1 = .ok false ∧
        (refreshIfDue l f).2.denyState = l.denyState ∧
        (refreshIfDue l f).2.allowState = l.allowState) ∨
      (l.due f.now = true ∧ (refreshIfDue l f).1 = .ok true) := by
  by_cases hdue : l.due f.now = true
  · right
    rw [refreshIfDue,if_pos hdue]
    cases hd : refreshOne l.denyState f.denyFile with
    | mk deny denyState =>
      cases ha : refreshOne l.allowState f.allowFile with
      | mk allow allowState =>
        cases deny with
        | error e =>
          have hsame := refreshOne_unchanged hd (by simp)
          simp [hdue,hsame]
        | ok denyChanged =>
          cases allow with
          | error e =>
            have hsame := refreshOne_unchanged ha (by simp)
            cases denyChanged with
            | false =>
              have hsame' := refreshOne_unchanged hd (by simp)
              simp [hdue,ha,hsame,hsame']
            | true => simp [hdue,ha,hsame]
          | ok allowChanged =>
            cases denyChanged with
            | true => simp [hdue,ha]
            | false =>
              have hsame' := refreshOne_unchanged hd (by simp)
              cases allowChanged with
              | true => simp [hdue,ha]
              | false =>
                have hsame := refreshOne_unchanged ha (by simp)
                simp [hdue,ha,hsame,hsame']
  · left
    rw [refreshIfDue,if_neg hdue]
    exact ⟨by simpa using hdue,rfl⟩

end OpenSandbox.Policy
