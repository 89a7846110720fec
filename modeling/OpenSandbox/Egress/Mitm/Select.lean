import OpenSandbox.Library.PyText
import OpenSandbox.Egress.Vault.Snapshot

namespace OpenSandbox.Mitm

open PyText Vault List

structure Flow where
  scheme : String
  prettyHost : String
  host : String
  port : Nat
  method : String
  path : String

inductive Selection where
  | unmatched
  | chosen (binding : ActiveBinding)
  | ambiguous
  deriving DecidableEq

def orText (text other : String) : String := if text = "" then other else text

def requestPort (flow : Flow) : Nat :=
  if flow.port ≠ 0 then flow.port else if flow.scheme = "https" then 443 else 80

def requestPath (flow : Flow) : String := orText (beforeQuery (orText flow.path "/")) "/"

def pathMatches (path pattern : String) : Bool :=
  if endsWith pattern "*" then startsWith path (String.ofList pattern.toList.dropLast)
  else path = pattern

def canonicalPort (scheme : String) : Nat := if scheme = "https" then 443 else 80

section Lowering

variable (py : Lower)

def requestHost (flow : Flow) : String :=
  py.lower (rstripDots (orText flow.prettyHost flow.host))

def hostMatches (host raw : String) : Bool × Nat :=
  let pattern := py.lower (rstripDots raw)
  if startsWith pattern "*." then
    let suffix := String.ofList (pattern.toList.drop 1)
    let apex := String.ofList (pattern.toList.drop 2)
    (endsWith host suffix && host ≠ apex, 1)
  else (host = pattern, 2)

def raisePrecedence (best : Nat) (m : Bool × Nat) : Nat := if m.1 && best < m.2 then m.2 else best

def bestPrecedence (host : String) : Nat → List String → Nat
  | best, [] => best
  | best, pattern :: patterns =>
      bestPrecedence host (raisePrecedence best (hostMatches py host pattern)) patterns

def bindingMatches (flow : Flow) (binding : ActiveBinding) : Bool × Nat :=
  let m := binding.matching
  let scheme := py.lower flow.scheme
  let methods := orDefault m.methods ["GET","POST","PUT","PATCH","DELETE"]
  if scheme ∉ orDefault m.schemes ["https"] then (false, 0)
  else if requestPort flow ≠ canonicalPort scheme then (false, 0)
  else if upper flow.method ∉ methods.map upper then (false, 0)
  else if (orDefault m.paths ["/*"]).any (pathMatches (requestPath flow)) = false then (false, 0)
  else
    let best := bestPrecedence py (requestHost py flow) 0 m.hosts
    (0 < best, best)

def matched (flow : Flow) (bindings : List ActiveBinding) : List (Nat × ActiveBinding) :=
  bindings.filterMap fun b =>
    let (ok, precedence) := bindingMatches py flow b
    if ok then some (precedence, b) else none

def selectBinding (flow : Flow) (bindings : List ActiveBinding) : Selection :=
  let found := matched py flow bindings
  match (found.map (·.1)).max? with
  | none => .unmatched
  | some highest =>
      match found.filter fun m => m.1 = highest with
      | [m] => .chosen m.2
      | _ => .ambiguous

def Matches (flow : Flow) (b : ActiveBinding) (precedence : Nat) : Prop :=
  bindingMatches py flow b = (true, precedence)

def Tied (flow : Flow) (bindings : List ActiveBinding) (a b : ActiveBinding) : Prop :=
  ∃ precedence, Matches py flow a precedence ∧ Matches py flow b precedence ∧
    ∀ c ∈ bindings, ∀ other, Matches py flow c other → other ≤ precedence

variable {py}

variable {flow : Flow} {bindings : List ActiveBinding}

theorem mem_matched {m : Nat × ActiveBinding} :
    m ∈ matched py flow bindings ↔ m.2 ∈ bindings ∧ Matches py flow m.2 m.1 := by
  simp only [matched,mem_filterMap,Matches]
  constructor
  · rintro ⟨b,hb,h⟩
    split_ifs at h with hok
    cases h
    exact ⟨hb,Prod.ext hok rfl⟩
  · rintro ⟨hb,h⟩
    exact ⟨m.2,hb,by simp [h]⟩

theorem matched_bindings (flow : Flow) (bindings : List ActiveBinding) :
    (matched py flow bindings).map (·.2) =
      bindings.filter fun b => (bindingMatches py flow b).1 := by
  induction bindings with
  | nil => rfl
  | cons b bindings ih =>
    rw [matched,filterMap_cons,filter_cons]
    cases hok : (bindingMatches py flow b).1 with
    | false | true => simpa [matched,hok] using ih

theorem exists_ne_of_not_singleton {α β : Type} {f : α → β} {l : List α} (hne : l ≠ [])
    (hmany : ∀ a, l ≠ [a]) (hnodup : (l.map f).Nodup) : ∃ a ∈ l, ∃ b ∈ l, f a ≠ f b := by
  cases l with
  | nil => exact absurd rfl hne
  | cons a rest =>
    cases rest with
    | nil => exact absurd rfl (hmany a)
    | cons b rest =>
      simp only [map_cons,nodup_cons,mem_cons,not_or] at hnodup
      exact ⟨a,by simp,b,by simp,hnodup.1.1⟩

theorem tied_of_ambiguous (hnames : (bindings.map (·.name)).Nodup)
    (h : selectBinding py flow bindings = .ambiguous) :
    ∃ a ∈ bindings, ∃ b ∈ bindings, a.name ≠ b.name ∧ Tied py flow bindings a b := by
  simp only [selectBinding] at h
  split at h
  · cases h
  next highest hhighest =>
  split at h
  · cases h
  next hmany =>
  obtain ⟨hmem,hle⟩ := max?_eq_some_iff.mp hhighest
  have hselected : ∀ m ∈ (matched py flow bindings).filter (fun m => m.1 = highest),
      m.2 ∈ bindings ∧ Matches py flow m.2 highest := by
    intro m hm
    obtain ⟨hm,heq⟩ := mem_filter.mp hm
    rw [← of_decide_eq_true heq]
    exact mem_matched.mp hm
  have hne : (matched py flow bindings).filter (fun m => m.1 = highest) ≠ [] := by
    obtain ⟨m,hm,heq⟩ := mem_map.mp hmem
    exact ne_nil_of_mem (mem_filter.mpr ⟨hm,decide_eq_true heq⟩)
  have hnodup : (((matched py flow bindings).filter fun m => m.1 = highest).map
      (·.2.name)).Nodup := by
    have hall : ((matched py flow bindings).map (·.2.name)).Nodup := by
      have hsub : (((matched py flow bindings).map (·.2)).map (·.name)).Nodup := by
        rw [matched_bindings]
        exact (filter_sublist.map _).nodup hnames
      rwa [map_map] at hsub
    exact (filter_sublist.map _).nodup hall
  obtain ⟨a,ha,b,hb,hab⟩ := exists_ne_of_not_singleton hne hmany hnodup
  obtain ⟨hina,hmatcha⟩ := hselected a ha
  obtain ⟨hinb,hmatchb⟩ := hselected b hb
  refine ⟨a.2,hina,b.2,hinb,hab,highest,hmatcha,hmatchb,fun c hc other hother => ?_⟩
  exact hle other (mem_map.mpr ⟨(other, c),mem_matched.mpr ⟨hc,hother⟩,rfl⟩)

theorem ambiguous_of_tied {a b : ActiveBinding} (ha : a ∈ bindings) (hb : b ∈ bindings)
    (hne : a.name ≠ b.name) (h : Tied py flow bindings a b) :
    selectBinding py flow bindings = .ambiguous := by
  obtain ⟨precedence,hmatcha,hmatchb,hmost⟩ := h
  have hfounda : (precedence, a) ∈ matched py flow bindings := mem_matched.mpr ⟨ha,hmatcha⟩
  have hfoundb : (precedence, b) ∈ matched py flow bindings := mem_matched.mpr ⟨hb,hmatchb⟩
  have hhighest : ((matched py flow bindings).map (·.1)).max? = some precedence := by
    refine max?_eq_some_iff.mpr ⟨mem_map.mpr ⟨_,hfounda,rfl⟩,?_⟩
    refine forall_mem_map.mpr fun m hm => ?_
    obtain ⟨hmem,hmatch⟩ := mem_matched.mp hm
    exact hmost m.2 hmem m.1 hmatch
  simp only [selectBinding,hhighest]
  split
  · next m hsingle =>
    have honly : ∀ c, (precedence, c) ∈ matched py flow bindings → (precedence, c) = m := by
      intro c hc
      rw [← mem_singleton,← hsingle]
      exact mem_filter.mpr ⟨hc,by simp⟩
    have heq := (honly a hfounda).trans (honly b hfoundb).symm
    exact absurd (congrArg (·.2.name) heq) hne
  · rfl

end Lowering

end OpenSandbox.Mitm
