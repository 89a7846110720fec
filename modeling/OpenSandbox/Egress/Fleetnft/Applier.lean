import OpenSandbox.Egress.Fleetnft.Slice
import Mathlib.Data.Finmap

namespace OpenSandbox.Fleetnft

open Policy Slots Registry List

structure Applier where
  tableReady : Bool
  subjects : Finmap fun _ : Subject => InstalledSubject

def newApplier : Applier := ⟨false,∅⟩

structure World where
  applier : Applier
  kernel : Kernel

variable (fault : Option String) (f : Faults) (w : World)

def World.inst (s : Subject) : Option InstalledSubject := w.applier.subjects.lookup s

def World.install (s : Subject) (inst : InstalledSubject) : World :=
  { w with applier := { w.applier with subjects := w.applier.subjects.insert s inst } }

structure Faults where
  first : Option String
  retry : Option String

def missingTable (msg : String) : Bool :=
  GoText.contains (GoText.toLower msg) "no such file" ||
    GoText.contains (GoText.toLower msg) "does not exist"

def liftNft : Except String Unit → Except Err Unit
  | .ok _ => .ok ()
  | .error msg => .error (.nft msg)

def runScript (k : Kernel) (script : List Cmd) : Except Err Unit × Kernel :=
  ((liftNft (run fault k script).1), (run fault k script).2)

def applyWithMissingTableFallback (k : Kernel) (script : List Cmd) : Except Err Unit × Kernel :=
  match run f.first k script with
  | (.ok _, k') => (.ok (), k')
  | (.error msg, k') =>
      if missingTable msg then
        if removeDeleteTableLine script ≠ script then
          match run f.retry k' (removeDeleteTableLine script) with
          | (.ok _, k'') => (.ok (), k'')
          | (.error _, k'') => (.error (.nft msg), k'')
        else (.error (.nft msg), k')
      else (.error (.nft msg), k')

def applyReset : Except Err Unit × World :=
  match applyWithMissingTableFallback f w.kernel writeTableHeader with
  | (.error e, k) => (.error e, { w with kernel := k })
  | (.ok _, k) => (.ok (), ⟨⟨true,∅⟩,k⟩)

def denyFirstFragment (s : Subject) (slot : Slot) : Except Err (List Stmt) :=
  if (w.inst s).isSome then .ok (writeSubjectResetFragment s slot)
  else writeSubjectDenyFirstFragment s slot

def applyDenyFirst (s : Subject) (slot : Slot) : Except Err Unit × World :=
  let header := if w.applier.tableReady then [] else writeTableHeader
  let ready : World := { w with applier := { w.applier with tableReady := true } }
  match denyFirstFragment w s slot with
  | .error e => (.error e, ready)
  | .ok frag =>
      match applyWithMissingTableFallback f w.kernel (header ++ stmts frag) with
      | (.error e, k) => (.error e, { ready with kernel := k })
      | (.ok _, k) => (.ok (), { ready with kernel := k }.install s ⟨slot,none⟩)

def applyPolicy (s : Subject) (pol : Option NetworkPolicy) : Except Err Unit × World :=
  match w.inst s with
  | none => (.error .unknownSubject, w)
  | some inst =>
      match writeSubjectPolicySwapFragment s (pol.getD defaultDenyPolicy) with
      | .error e => (.error e, w)
      | .ok frag =>
          match runScript fault w.kernel (stmts frag) with
          | (.error e, k) => (.error e, { w with kernel := k })
          | (.ok _, k) =>
              (.ok (), { w with kernel := k }.install s
                { inst with pol := some (pol.getD defaultDenyPolicy) })

def addResolvedIPs (s : Subject) (ips : List ResolvedIP) : Except Err Unit × World :=
  if ips = [] then (.ok (), w)
  else match w.inst s with
    | none => (.error .unknownSubject, w)
    | some _ =>
        if writeResolvedIPsFragment s ips = [] then (.ok (), w)
        else
          let out := runScript fault w.kernel (stmts (writeResolvedIPsFragment s ips))
          (out.1, { w with kernel := out.2 })

def applyDispatchUpdate (s : Subject) (slot : Slot) : Except Err Unit × World :=
  match w.inst s with
  | none => (.error .unknownSubject, w)
  | some _ =>
      let out := runScript fault w.kernel (stmts (writeDispatchRule s slot))
      (out.1, { w with kernel := out.2 })

def rebuildFragment (subjects : Finmap fun _ : Subject => InstalledSubject) :
    List Subject → Except Err (List Stmt)
  | [] => .ok []
  | s :: rest => do
      let frag ← match subjects.lookup s with
        | none => pure []
        | some inst => installFragment s inst
      let frags ← rebuildFragment subjects rest
      return frag ++ frags

def remove (s : Subject) (order : List Subject) : Except Err Unit × World :=
  if w.inst s = none then (.ok (), w)
  else
    let rest := w.applier.subjects.erase s
    let forgot : World := { w with applier := { w.applier with subjects := rest } }
    if rest = ∅ then
      match applyWithMissingTableFallback f w.kernel writeTableHeader with
      | (.error e, k) => (.error e, { forgot with kernel := k })
      | (.ok _, k) => (.ok (), ⟨⟨true,rest⟩,k⟩)
    else match rebuildFragment rest order with
      | .error e => (.error e, forgot)
      | .ok frags =>
          match runScript f.first w.kernel (writeTableHeader ++ stmts frags) with
          | (.error e, k) => (.error e, { forgot with kernel := k })
          | (.ok _, k) => (.ok (), ⟨⟨true,rest⟩,k⟩)

inductive Op where
  | reset (f : Faults)
  | denyFirst (f : Faults) (s : Subject) (slot : Slot)
  | policy (fault : Option String) (s : Subject) (pol : Option NetworkPolicy)
  | resolved (fault : Option String) (s : Subject) (ips : List ResolvedIP)
  | dispatchUpdate (fault : Option String) (s : Subject) (slot : Slot)
  | remove (f : Faults) (s : Subject) (order : List Subject)

def World.step : Op → Except Err Unit × World
  | .reset f => applyReset f w
  | .denyFirst f s slot => applyDenyFirst f w s slot
  | .policy fault s pol => applyPolicy fault w s pol
  | .resolved fault s ips => addResolvedIPs fault w s ips
  | .dispatchUpdate fault s slot => applyDispatchUpdate fault w s slot
  | .remove f s order => Fleetnft.remove f w s order

theorem runScript_cases (k : Kernel) (script : List Cmd) :
    runScript fault k script = (.ok (), script.foldl Cmd.effect k) ∨
      ∃ e, runScript fault k script = (.error (.nft e), k) := by
  rcases run_cases fault k script with h | ⟨e,h⟩
  · exact .inl (by rw [runScript,h]; rfl)
  · exact .inr ⟨e,by rw [runScript,h]; rfl⟩

theorem fallback_stmts (k : Kernel) (frag : List Stmt) :
    applyWithMissingTableFallback f k (stmts frag) = (.ok (), k.map (frag.foldl Stmt.effect ·)) ∨
      ∃ e, applyWithMissingTableFallback f k (stmts frag) = (.error (.nft e), k) := by
  unfold applyWithMissingTableFallback
  rcases run_cases f.first k (stmts frag) with h | ⟨e,h⟩
  · exact .inl (by rw [h,effect_stmts])
  · refine .inr ⟨e,?_⟩
    rw [h,removeDeleteTableLine,stmts,filter_eq_self.mpr (forall_mem_map.mpr fun _ _ => rfl)]
    simp

def headerOn (t : Table) : Table := headerStmts.foldl Stmt.effect t

theorem effect_writeTableHeader (k : Kernel) :
    writeTableHeader.foldl Cmd.effect k = some (headerOn .new) :=
  effect_stmts (some .new) headerStmts

theorem batch_writeTableHeader (t : Table) :
    batch (some t) writeTableHeader = .ok (some (headerOn .new)) := by
  rfl

theorem fallback_header (k : Kernel) : (∃ t, (t = .new ∨ k = some t ∧ f.first ≠ none) ∧
        applyWithMissingTableFallback f k writeTableHeader = (.ok (), some (headerOn t))) ∨
      ∃ e, applyWithMissingTableFallback f k writeTableHeader = (.error (.nft e), k) := by
  unfold applyWithMissingTableFallback
  rcases run_cases f.first k writeTableHeader with h | ⟨e,h⟩
  · refine .inl ⟨.new,.inl rfl,?_⟩
    rw [h,effect_writeTableHeader]
  rw [h]
  simp only
  split_ifs
  · rcases run_cases f.retry k (removeDeleteTableLine writeTableHeader) with h' | ⟨e',h'⟩
    · refine .inl ⟨k.getD .new,?_,?_⟩
      · cases k with
        | none => exact .inl rfl
        | some t =>
          refine .inr ⟨rfl,fun hf => ?_⟩
          simp [run,hf,batch_writeTableHeader] at h
      · rw [h']
        exact congrArg (Prod.mk _) (effect_stmts (some (k.getD .new)) headerStmts)
    · exact .inr ⟨e,by rw [h']⟩
  · exact .inr ⟨e,rfl⟩
  · exact .inr ⟨e,rfl⟩

def World.write (frag : List Stmt) : World :=
  ⟨w.applier,w.kernel.map (frag.foldl Stmt.effect ·)⟩

def World.forget (s : Subject) : World :=
  { w with applier := { w.applier with subjects := w.applier.subjects.erase s } }

inductive Change (w : World) : Op → Except Err Unit × World → Prop
  | resetFailed {f msg} : Change w (.reset f) (.error (.nft msg), w)
  | reset {f t} : t = .new ∨ w.kernel = some t ∧ f.first ≠ none →
      Change w (.reset f) (.ok (), ⟨⟨true,∅⟩,some (headerOn t)⟩)
  | denyFirstFailed {f s slot msg} : Change w (.denyFirst f s slot) (.error (.nft msg), w)
  | denyFirst {f s slot frag} : denyFirstFragment w s slot = .ok frag →
      Change w (.denyFirst f s slot) (.ok (), (w.write frag).install s ⟨slot,none⟩)
  | policyFailed {fault s pol e} : Change w (.policy fault s pol) (.error e, w)
  | policy {fault s pol inst frag} : w.inst s = some inst →
      writeSubjectPolicySwapFragment s (pol.getD defaultDenyPolicy) = .ok frag →
      Change w (.policy fault s pol) (.ok (), (w.write frag).install s
        { inst with pol := some (pol.getD defaultDenyPolicy) })
  | unresolved {fault s ips r} : Change w (.resolved fault s ips) (r, w)
  | resolved {fault s ips} : (w.inst s).isSome →
      Change w (.resolved fault s ips) (.ok (), w.write (writeResolvedIPsFragment s ips))
  | dispatchUnknown {fault s slot} : w.inst s = none →
      Change w (.dispatchUpdate fault s slot) (.error .unknownSubject, w)
  | dispatchFailed {fault s slot msg} :
      Change w (.dispatchUpdate fault s slot) (.error (.nft msg), w)
  | dispatchUpdate {fault s slot} : (w.inst s).isSome →
      Change w (.dispatchUpdate fault s slot) (.ok (), w.write (writeDispatchRule s slot))
  | removeAbsent {f s order} : w.inst s = none → Change w (.remove f s order) (.ok (), w)
  | removeFailed {f s order e} :
      (∃ msg, e = .nft msg) ∨ rebuildFragment (w.applier.subjects.erase s) order = .error e →
      Change w (.remove f s order) (.error e, w.forget s)
  | removeLast {f s order t} :
      w.applier.subjects.erase s = ∅ → t = .new ∨ w.kernel = some t ∧ f.first ≠ none →
      Change w (.remove f s order) (.ok (), ⟨⟨true,∅⟩,some (headerOn t)⟩)
  | rebuilt {f s order frags} :
      w.inst s ≠ none → rebuildFragment (w.applier.subjects.erase s) order = .ok frags →
      Change w (.remove f s order) (.ok (), ⟨⟨true,w.applier.subjects.erase s⟩,
        some (frags.foldl Stmt.effect (headerOn .new))⟩)

theorem applyReset_change : Change w (.reset f) (applyReset f w) := by
  unfold applyReset
  rcases fallback_header f w.kernel with ⟨t,ht,h⟩ | ⟨e,h⟩ <;> rw [h]
  · exact .reset ht
  · exact .resetFailed

theorem denyFirstFragment_ok (s : Subject) (slot : Slot) :
    ∃ frag, denyFirstFragment w s slot = .ok frag := by
  unfold denyFirstFragment
  split <;> exact ⟨_,rfl⟩

theorem applyDenyFirst_change {w : World} (hw : w.applier.tableReady = true) (s : Subject)
    (slot : Slot) : Change w (.denyFirst f s slot) (applyDenyFirst f w s slot) := by
  obtain ⟨⟨ready,subjects⟩,k⟩ := w
  obtain rfl : ready = true := hw
  obtain ⟨frag,hd⟩ := denyFirstFragment_ok ⟨⟨true,subjects⟩,k⟩ s slot
  unfold applyDenyFirst
  rw [hd]
  simp only [if_true,nil_append]
  rcases fallback_stmts f k frag with h | ⟨e,h⟩ <;> rw [h]
  · exact .denyFirst hd
  · exact .denyFirstFailed

theorem applyPolicy_change (s : Subject) (pol : Option NetworkPolicy) :
    Change w (.policy fault s pol) (applyPolicy fault w s pol) := by
  unfold applyPolicy
  cases hi : w.inst s with
  | none => exact .policyFailed
  | some inst =>
    cases hf : writeSubjectPolicySwapFragment s (pol.getD defaultDenyPolicy) with
    | error e => exact .policyFailed
    | ok frag =>
      simp only
      rcases runScript_cases fault w.kernel (stmts frag) with h | ⟨e,h⟩ <;> rw [h]
      · rw [effect_stmts]
        exact .policy hi hf
      · exact .policyFailed

theorem addResolvedIPs_change (s : Subject) (ips : List ResolvedIP) :
    Change w (.resolved fault s ips) (addResolvedIPs fault w s ips) := by
  unfold addResolvedIPs
  split
  · exact .unresolved
  cases hi : w.inst s with
  | none => exact .unresolved
  | some inst =>
    simp only
    split
    · exact .unresolved
    rcases runScript_cases fault w.kernel (stmts (writeResolvedIPsFragment s ips)) with
      h | ⟨e,h⟩ <;> rw [h]
    · rw [effect_stmts]
      exact .resolved (by rw [hi]; rfl)
    · exact .unresolved

theorem applyDispatchUpdate_change (s : Subject) (slot : Slot) :
    Change w (.dispatchUpdate fault s slot) (applyDispatchUpdate fault w s slot) := by
  unfold applyDispatchUpdate
  cases hi : w.inst s with
  | none => exact .dispatchUnknown hi
  | some inst =>
    simp only
    rcases runScript_cases fault w.kernel (stmts (writeDispatchRule s slot)) with
      h | ⟨e,h⟩ <;> rw [h]
    · rw [effect_stmts]
      exact .dispatchUpdate (by rw [hi]; rfl)
    · exact .dispatchFailed

theorem remove_change (s : Subject) (order : List Subject) :
    Change w (.remove f s order) (Fleetnft.remove f w s order) := by
  unfold Fleetnft.remove
  split
  · exact .removeAbsent ‹_›
  rename_i hi
  simp only
  split
  · rename_i hr
    rcases fallback_header f w.kernel with ⟨t,ht,h⟩ | ⟨e,h⟩ <;> rw [h]
    · rw [hr]
      exact .removeLast hr ht
    · exact .removeFailed (.inl ⟨e,rfl⟩)
  cases hb : rebuildFragment (w.applier.subjects.erase s) order with
  | error e => exact .removeFailed (.inr hb)
  | ok frags =>
    simp only
    rcases runScript_cases f.first w.kernel (writeTableHeader ++ stmts frags) with
      h | ⟨e,h⟩ <;> rw [h]
    · rw [foldl_append,effect_writeTableHeader,effect_stmts]
      exact .rebuilt hi hb
    · exact .removeFailed (.inl ⟨e,rfl⟩)

theorem step_change {w : World} (hw : w.applier.tableReady = true) (op : Op) :
    Change w op (w.step op) := by
  cases op with
  | reset f => exact applyReset_change f w
  | denyFirst f s slot => exact applyDenyFirst_change f hw s slot
  | policy fault s pol => exact applyPolicy_change fault w s pol
  | resolved fault s ips => exact addResolvedIPs_change fault w s ips
  | dispatchUpdate fault s slot => exact applyDispatchUpdate_change fault w s slot
  | remove f s order => exact remove_change f w s order

def Op.subject? : Op → Option Subject
  | .denyFirst _ s _ | .policy _ s _ | .resolved _ s _ | .dispatchUpdate _ s _ => some s
  | _ => none

theorem denyFirstFragment_cases {w : World} {s : Subject} {slot : Slot} {frag : List Stmt}
    (h : denyFirstFragment w s slot = .ok frag) :
    (w.inst s).isSome ∧ frag = writeSubjectResetFragment s slot ∨
      ¬ (w.inst s).isSome ∧ installFragment s ⟨slot,none⟩ = .ok frag := by
  unfold denyFirstFragment at h
  split_ifs at h with hi
  · exact .inl ⟨hi,(Except.ok.inj h).symm⟩
  · exact .inr ⟨hi,h⟩

theorem about_denyFirstFragment {w : World} {s : Subject} {slot : Slot} {frag : List Stmt}
    (h : denyFirstFragment w s slot = .ok frag) : AboutAll s frag := by
  rcases denyFirstFragment_cases h with ⟨-,rfl⟩ | ⟨-,hf⟩
  · exact about_writeSubjectResetFragment slot
  · exact about_installFragment hf

theorem step_about {w : World} (hw : w.applier.tableReady = true) {op : Op} {s : Subject}
    (hop : op.subject? = some s) :
    (w.step op).2.kernel = w.kernel ∨ ∃ frag, AboutAll s frag ∧
      (w.step op).2.kernel = w.kernel.map (frag.foldl Stmt.effect ·) := by
  have hchange := step_change hw op
  generalize w.step op = out at hchange ⊢
  cases hchange <;> cases hop
  case denyFirst frag hf => exact .inr ⟨frag,about_denyFirstFragment hf,rfl⟩
  case policy frag _ hf => exact .inr ⟨frag,about_writeSubjectPolicySwapFragment hf,rfl⟩
  case resolved ips _ => exact .inr ⟨_,about_writeResolvedIPsFragment ips,rfl⟩
  case dispatchUpdate slot _ => exact .inr ⟨_,about_writeDispatchRule slot,rfl⟩
  all_goals exact .inl rfl

end OpenSandbox.Fleetnft
