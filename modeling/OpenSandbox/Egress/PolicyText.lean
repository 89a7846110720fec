import OpenSandbox.Library.GoJson
import OpenSandbox.Library.Outcome
import OpenSandbox.Egress.Policy

namespace OpenSandbox.Policy

open Netip GoText List GoJson

inductive ParseError where
  | unmarshal
  | unsupportedAction (action : String)
  | emptyTarget
  deriving DecidableEq

structure RuleFields where
  action : String
  target : String
  deriving DecidableEq

structure PolicyFields where
  egress : GoJson.Slice RuleFields
  defaultAction : String

def RuleFields.zero : RuleFields := ⟨"",""⟩

def PolicyFields.zero : PolicyFields := ⟨.nil,""⟩

def ruleFields : List (GoJson.Field RuleFields) :=
  [⟨"action",fun r v => (GoJson.intoString r.action v).map fun s => { r with action := s }⟩,
    ⟨"target",fun r v => (GoJson.intoString r.target v).map fun s => { r with target := s }⟩]

def unmarshalRule : RuleFields → GoJson.Value → Option RuleFields := GoJson.intoStruct ruleFields

def unmarshalRules : GoJson.Slice RuleFields → GoJson.Value → Option (GoJson.Slice RuleFields) :=
  GoJson.intoSlice .zero unmarshalRule

def policyFields : List (GoJson.Field PolicyFields) :=
  [⟨"egress",fun p v => (unmarshalRules p.egress v).map fun e => { p with egress := e }⟩,
    ⟨"defaultAction",fun p v =>
      (GoJson.intoString p.defaultAction v).map fun s => { p with defaultAction := s }⟩]

def unmarshalPolicy : PolicyFields → GoJson.Value → Option PolicyFields :=
  GoJson.intoStruct policyFields

@[irreducible] def orDeny (action : String) : String := if action = "" then actionDeny else action

def noPrefix : Prefix := ⟨.invalid,0⟩

def classify (action target : String) : EgressRule :=
  match parseAddr target with
  | some ip => ⟨action,target,.ip,ip,noPrefix⟩
  | none =>
      match parsePrefix target with
      | some p => ⟨action,target,.cidr,.invalid,p⟩
      | none => ⟨action,target,.domain,.invalid,noPrefix⟩

def normalizeRule (r : RuleFields) : Except ParseError EgressRule :=
  let action := orDeny (toLower (trimSpace r.action))
  let target := trimSpace r.target
  if action ≠ actionAllow ∧ action ≠ actionDeny then .error (.unsupportedAction action)
  else if target = "" then .error .emptyTarget
  else .ok (classify action target)

def normalizePolicy (p : PolicyFields) : Except ParseError NetworkPolicy := do
  let egress ← p.egress.elems.mapM normalizeRule
  return ⟨egress,orDeny (toLower (trimSpace p.defaultAction)),none⟩

def parsePolicy (raw : String) : Except ParseError NetworkPolicy :=
  let trimmed := trimSpace raw
  if trimmed = "" ∨ trimmed = "null" ∨ trimmed = "\x7b\x7d" then .ok defaultDenyPolicy
  else
    match (GoJson.parse trimmed).bind (unmarshalPolicy .zero) with
    | none => .error .unmarshal
    | some p => (normalizePolicy p).map ensureDefaults

def parseValidatedEgressRule (action target : String) : Except ParseError EgressRule :=
  normalizeRule ⟨action,target⟩

def ruleValue (r : RuleFields) : GoJson.Value :=
  .obj [("action", .str r.action),("target", .str r.target)]

def EgressRule.fields (r : EgressRule) : RuleFields := ⟨r.action,r.target⟩

def egressValue (isNil : Bool) (egress : List RuleFields) : GoJson.Value :=
  if egress = [] ∧ isNil then .null else .arr (egress.map ruleValue)

def policyValue (isNil : Bool) (egress : List RuleFields) (defaultAction : String) : GoJson.Value :=
  .obj [("egress", egressValue isNil egress),("defaultAction", .str defaultAction)]

def NetworkPolicy.value (p : NetworkPolicy) (isNil : Bool) : GoJson.Value :=
  policyValue isNil (p.egress.map EgressRule.fields) p.defaultAction

structure Canonical (p : NetworkPolicy) : Prop where
  rules : ∀ r ∈ p.egress, normalizeRule r.fields = .ok r
  lowered : toLower (trimSpace p.defaultAction) = p.defaultAction
  chosen : p.defaultAction ≠ ""
  indexed : p.domainIndex = some (compileDomainIndex p.egress)

theorem classify_fields (action target : String) :
    (classify action target).fields = ⟨action,target⟩ := by
  unfold classify
  split
  · rfl
  · split <;> rfl

theorem orDeny_lowered (s : String) :
    toLower (trimSpace (orDeny (toLower (trimSpace s)))) = orDeny (toLower (trimSpace s)) := by
  unfold orDeny
  split
  · decide
  · rw [trimSpace_toLower,trimSpace_idem,toLower_idem]

variable {action : String}

theorem orDeny_eq_self (h : action ≠ "") : orDeny action = action := by
  rw [orDeny,if_neg h]

theorem normalizeRule_ok {f : RuleFields} {r : EgressRule} (h : normalizeRule f = .ok r) :
    (r.action = actionAllow ∨ r.action = actionDeny) ∧ r.target = trimSpace f.target ∧
      r.target ≠ "" ∧ r = classify r.action r.target := by
  unfold normalizeRule at h
  simp only at h
  split at h
  · cases h
  next haction =>
  split_ifs at h with htarget
  cases h
  generalize orDeny (toLower (trimSpace f.action)) = action at haction
  have hf := classify_fields action (trimSpace f.target)
  simp only [EgressRule.fields,RuleFields.mk.injEq] at hf
  obtain ⟨ha,ht⟩ := hf
  rw [ha,ht]
  refine ⟨?_,rfl,htarget,rfl⟩
  by_contra hne
  exact haction (by simpa using hne)

theorem orDeny_of_valid (h : action = actionAllow ∨ action = actionDeny) :
    orDeny (toLower (trimSpace action)) = action := by
  rcases h with rfl | rfl
  · decide +kernel
  · decide +kernel

theorem normalizeRule_classify {target : String} (ha : action = actionAllow ∨ action = actionDeny)
    (ht : trimSpace target = target) (hne : target ≠ "") :
    normalizeRule ⟨action,target⟩ = .ok (classify action target) := by
  have hvalid : ¬ (action ≠ actionAllow ∧ action ≠ actionDeny) := fun hno => ha.elim hno.1 hno.2
  unfold normalizeRule
  simp only [orDeny_of_valid ha,ht]
  rw [if_neg hvalid,if_neg hne]

theorem normalizeRule_fields {f : RuleFields} {r : EgressRule} (h : normalizeRule f = .ok r) :
    normalizeRule r.fields = .ok r := by
  obtain ⟨haction,htarget,hne,hclass⟩ := normalizeRule_ok h
  have htrim : trimSpace r.target = r.target := by rw [htarget,trimSpace_idem]
  rw [EgressRule.fields,normalizeRule_classify haction htrim hne,← hclass]

theorem canonical_defaultDenyPolicy : Canonical defaultDenyPolicy where
  rules := by simp [defaultDenyPolicy]
  lowered := by decide
  chosen := by decide
  indexed := rfl

variable {p : NetworkPolicy}

theorem normalizePolicy_ok {f : PolicyFields} (h : normalizePolicy f = .ok p) :
    f.egress.elems.mapM normalizeRule = .ok p.egress ∧
      p.defaultAction = orDeny (toLower (trimSpace f.defaultAction)) := by
  unfold normalizePolicy at h
  cases hm : f.egress.elems.mapM normalizeRule with
  | error e =>
    rw [hm] at h
    cases h
  | ok egress =>
    rw [hm] at h
    cases h
    exact ⟨rfl,rfl⟩

theorem canonical_ensureDefaults {f : PolicyFields} (h : normalizePolicy f = .ok p) :
    Canonical (ensureDefaults p) := by
  obtain ⟨hegress,hdefault⟩ := normalizePolicy_ok h
  have hne : p.defaultAction ≠ "" := by
    rw [hdefault,orDeny]
    split
    · decide
    · assumption
  have hself : (ensureDefaults p).defaultAction = p.defaultAction := by
    simp [ensureDefaults,hne]
  refine ⟨?_,?_,by rwa [hself],rfl⟩
  · intro r hr
    obtain ⟨g,hg⟩ := Outcome.mapM_ok_mem hegress r hr
    exact normalizeRule_fields hg
  · rw [hself,hdefault,orDeny_lowered]

theorem canonical_of_parsePolicy {raw : String} (h : parsePolicy raw = .ok p) : Canonical p := by
  unfold parsePolicy at h
  simp only at h
  split at h
  · cases h
    exact canonical_defaultDenyPolicy
  split at h
  · cases h
  next f _ =>
  cases hn : normalizePolicy f with
  | error e =>
    rw [hn] at h
    cases h
  | ok q =>
    rw [hn] at h
    cases h
    exact canonical_ensureDefaults hn

variable (isNil : Bool) (fs : List RuleFields) (defaultAction : String)

theorem unmarshalRules_value :
    unmarshalRules .nil (egressValue isNil fs) = some ⟨fs,fs.length⟩ := by
  unfold egressValue
  split_ifs with hnil
  · rw [hnil.1]
    rfl
  · exact intoSlice_map fun _ _ => rfl

theorem unmarshalPolicy_value : unmarshalPolicy .zero (policyValue isNil fs defaultAction) =
      some ⟨⟨fs,fs.length⟩,defaultAction⟩ := by
  have hegress : findField policyFields "egress" = policyFields[0]? := rfl
  have hdefault : findField policyFields "defaultAction" = policyFields[1]? := rfl
  simp only [unmarshalPolicy,policyValue,intoStruct,foldlM_cons,foldlM_nil,hegress,hdefault]
  simp [policyFields,PolicyFields.zero,unmarshalRules_value,intoString]

theorem isSpace_of_isWs {c : Char} (h : GoJson.isWs c = true) : isSpace c = true := by
  simp only [isWs,Bool.or_eq_true,decide_eq_true_eq] at h
  rcases h with ((rfl | rfl) | rfl) | rfl <;> rfl

theorem textual_policyValue : (policyValue isNil fs defaultAction).Textual := by
  have hrules (fs : List RuleFields) : GoJson.TextualAll (fs.map ruleValue) := by
    induction fs with
    | nil => trivial
    | cons f fs ih => exact ⟨⟨trivial,trivial,trivial⟩,ih⟩
  refine ⟨?_,trivial,trivial⟩
  unfold egressValue
  split
  · trivial
  · exact hrules _

theorem depth_policyValue : (policyValue isNil fs defaultAction).depth ≤ GoJson.maxNestingDepth := by
  have hrules (fs : List RuleFields) : depthAll (fs.map ruleValue) ≤ 1 := by
    induction fs with
    | nil => exact Nat.zero_le 1
    | cons f fs ih => exact max_le (le_refl 1) ih
  have hegress : (egressValue isNil fs).depth ≤ 2 := by
    unfold egressValue
    split
    · exact Nat.zero_le 2
    · exact Nat.add_le_add_left (hrules _) 1
  have hdepth : (policyValue isNil fs defaultAction).depth = 1 + max (egressValue isNil fs).depth 0 := rfl
  rw [hdepth,maxNestingDepth]
  omega

section

variable (l : GoJson.Layout) (isNil : Bool) (fs : List RuleFields) (defaultAction : String)

theorem render_policyValue_cons :
    ∃ c cs, GoJson.render l 0 (policyValue isNil fs defaultAction) = '\x7b' :: c :: cs ∧ c ≠ '\x7d' := by
  have hr : ∃ tail, render l 0 (policyValue isNil fs defaultAction) =
      '\x7b' :: (l.newline 1 ++ '"' :: tail) := by
    simp only [policyValue,render,renderMembers,quote,append_assoc,cons_append]
    exact ⟨_,rfl⟩
  obtain ⟨tail,hr⟩ := hr
  have hws := l.newline_ws 1
  cases hnl : l.newline 1 with
  | nil =>
    rw [hnl] at hr
    exact ⟨'"',tail,hr,by decide⟩
  | cons c cs =>
    rw [hnl] at hr hws
    refine ⟨c,cs ++ '"' :: tail,hr,?_⟩
    rintro rfl
    simpa [isWs] using hws '\x7d' (by simp)

theorem trimmed_render_policyValue :
    Trimmed (GoJson.render l 0 (policyValue isNil fs defaultAction)) := by
  have hlast : (render l 0 (policyValue isNil fs defaultAction)).getLast? = some '\x7d' := by
    rw [policyValue,render,getLast?_append]
    rfl
  obtain ⟨c,cs,hr,_⟩ := render_policyValue_cons l isNil fs defaultAction
  refine ⟨?_,?_⟩
  · rw [hr]
    rintro d ⟨⟩
    rfl
  · rw [hlast]
    rintro d ⟨⟩
    rfl

theorem parsePolicy_policyValue {ws : List Char} (hws : ∀ c ∈ ws, GoJson.isWs c = true) :
    parsePolicy (String.ofList (GoJson.render l 0 (policyValue isNil fs defaultAction) ++ ws)) =
      (normalizePolicy ⟨⟨fs,fs.length⟩,defaultAction⟩).map ensureDefaults := by
  obtain ⟨c,cs,hr,hc⟩ := render_policyValue_cons l isNil fs defaultAction
  have hparse : parse (String.ofList (render l 0 (policyValue isNil fs defaultAction))) =
      some (policyValue isNil fs defaultAction) := by
    have hfull := @parse_render [] l _ (textual_policyValue isNil fs defaultAction)
      (depth_policyValue isNil fs defaultAction) (by simp)
    rwa [append_nil] at hfull
  have htrim := trimSpace_append (trimmed_render_policyValue l isNil fs defaultAction)
    (by rw [hr]; simp) fun c hc => isSpace_of_isWs (hws c hc)
  generalize hv : policyValue isNil fs defaultAction = v at *
  have hlit (s : String) (hs : s.toList ≠ '\x7b' :: c :: cs) :
      String.ofList (render l 0 v) ≠ s := by
    rintro rfl
    exact hs (by rw [String.toList_ofList,hr])
  have hfresh : ¬ (String.ofList (render l 0 v) = "" ∨ String.ofList (render l 0 v) = "null" ∨
      String.ofList (render l 0 v) = "\x7b\x7d") := by
    rintro (h | h | h)
    · exact hlit "" (by simp) h
    · exact hlit "null" (by simp) h
    · exact hlit "\x7b\x7d" (by simp [hc.symm]) h
  unfold parsePolicy
  simp only [htrim]
  rw [if_neg hfresh,hparse,Option.bind_some,← hv,unmarshalPolicy_value]

end

theorem normalizePolicy_fields (h : Canonical p) : normalizePolicy
        ⟨⟨p.egress.map EgressRule.fields,(p.egress.map EgressRule.fields).length⟩,p.defaultAction⟩ =
      .ok ⟨p.egress,p.defaultAction,none⟩ := by
  have hrules (rs : List EgressRule) (hrs : ∀ r ∈ rs, normalizeRule r.fields = .ok r) :
      (rs.map EgressRule.fields).mapM normalizeRule = .ok rs := by
    induction rs with
    | nil => rfl
    | cons r rs ih =>
      rw [map_cons,mapM_cons,hrs r (by simp),ih fun q hq => hrs q (by simp [hq])]
      rfl
  rw [normalizePolicy,Slice.elems,take_length,hrules p.egress h.rules,h.lowered,
    orDeny_eq_self h.chosen]
  rfl

theorem parsePolicy_render (l : GoJson.Layout) (isNil : Bool) (h : Canonical p) {ws : List Char}
    (hws : ∀ c ∈ ws, GoJson.isWs c = true) :
    parsePolicy (String.ofList (GoJson.render l 0 (p.value isNil) ++ ws)) = .ok p := by
  rw [NetworkPolicy.value,parsePolicy_policyValue l _ _ _ hws,normalizePolicy_fields h,Except.map,
    ensureDefaults,if_neg h.chosen,← h.indexed]

def savedText (isNil : Bool) (p : NetworkPolicy) : String :=
  String.ofList (GoJson.render GoJson.indented 0 (p.value isNil) ++ ['\n'])

theorem parsePolicy_trimSpace (raw : String) : parsePolicy (trimSpace raw) = parsePolicy raw := by
  unfold parsePolicy
  rw [trimSpace_idem]

theorem trimSpace_savedText_ne (isNil : Bool) (p : NetworkPolicy) :
    trimSpace (savedText isNil p) ≠ "" := by
  obtain ⟨c,cs,hr,_⟩ :=
    render_policyValue_cons indented isNil (p.egress.map EgressRule.fields) p.defaultAction
  have htrim := trimmed_render_policyValue indented isNil (p.egress.map EgressRule.fields)
    p.defaultAction
  rw [savedText,NetworkPolicy.value,
    trimSpace_append htrim (by rw [hr]; simp) (by simp [isSpace]),hr]
  intro h
  simpa using congrArg String.toList h

theorem parsePolicy_savedText (isNil : Bool) (h : Canonical p) :
    parsePolicy (savedText isNil p) = .ok p :=
  parsePolicy_render indented isNil h (by simp [isWs])

theorem policy_text_round_trip {raw : String} (h : parsePolicy raw = .ok p) (l : GoJson.Layout)
    (isNil : Bool) {ws : List Char} (hws : ∀ c ∈ ws, GoJson.isWs c = true) :
    parsePolicy (String.ofList (GoJson.render l 0 (p.value isNil) ++ ws)) = .ok p :=
  parsePolicy_render l isNil (canonical_of_parsePolicy h) hws

def ruledText : String :=
  "\x7b\"egress\":[\x7b\"action\":\" Allow\",\"target\":\"*.b \"\x7d,\x7b\"target\":\"10.0.0.0/8\"\x7d]\x7d"

theorem policy_text_round_trip_ruled : ∃ p, parsePolicy ruledText = .ok p ∧
      p.egress.map EgressRule.fields = [⟨"allow","*.b"⟩,⟨"deny","10.0.0.0/8"⟩] ∧
      parsePolicy (String.ofList (GoJson.render GoJson.indented 0 (p.value false) ++ ['\n'])) =
        .ok p := by
  have hparse : (parsePolicy ruledText).toOption.map (fun p => p.egress.map EgressRule.fields) =
      some [⟨"allow","*.b"⟩,⟨"deny","10.0.0.0/8"⟩] := by decide +kernel
  obtain ⟨p,hp,hrules⟩ := Option.map_eq_some_iff.mp hparse
  have hok := Outcome.toOption_eq_some.mp hp
  exact ⟨p,hok,hrules,policy_text_round_trip hok indented false (by simp [isWs])⟩

end OpenSandbox.Policy
