import OpenSandbox.Egress.Fleetnft.Applier

namespace OpenSandbox.Fleetnft

open Slots Registry GoText List

def validSubjectID (uid : String) : Bool :=
  decide (uid ≠ "") && decide (uid.utf8ByteSize ≤ 128) &&
    uid.toList.all fun r => r ≠ '/' && r ≠ '\\' && r.toNat ≠ 0

def Accepted (uid : String) : Prop :=
  validSubjectID uid = true ∨ ∃ raw slot, parse raw = .ok slot ∧ slot.owner.sandboxUID = uid

def names (s : Subject) : List String := subjectChain s :: allSetNames s

def Untouched (k k' : Kernel) (s : Subject) : Prop :=
  (k'.bind fun t => t.chains (subjectChain s)) = (k.bind fun t => t.chains (subjectChain s)) ∧
    ∀ n ∈ allSetNames s, (k'.bind fun t => t.sets n) = k.bind fun t => t.sets n

structure Isolated (u v : String) : Prop where
  disjoint : ∀ n ∈ names (fromSandboxUID u), n ∉ names (fromSandboxUID v)
  untouched : ∀ (w : World) (op : Op), w.applier.tableReady = true →
    op.subject? = some (fromSandboxUID u) →
    Untouched w.kernel (w.step op).2.kernel (fromSandboxUID v)

def alnum (c : Char) : Prop := ('a' ≤ c ∧ c ≤ 'z') ∨ ('0' ≤ c ∧ c ≤ '9')

def Confusable (c d : Char) : Prop :=
  lowerRune c = lowerRune d ∨ (¬ alnum (lowerRune c) ∧ ¬ alnum (lowerRune d))

def Collide (u v : String) : Prop := List.Forall₂ Confusable u.toList v.toList

def Clash (u v : String) : Prop :=
  Collide u v ∨ ∃ kind fam, Collide u (v ++ suffix kind fam) ∨ Collide (u ++ suffix kind fam) v

theorem sanitizeRune_alnum {c : Char} (h : alnum c) : sanitizeRune c = c := by
  rw [sanitizeRune,if_pos]
  exact h.elim .inl fun h => .inr (.inl h)

theorem sanitizeRune_other {c : Char} (h : ¬ alnum c) : sanitizeRune c = '_' := by
  rw [sanitizeRune]
  split_ifs with hc
  · rcases hc with hc | hc | hc
    · exact absurd (.inl hc) h
    · exact absurd (.inr hc) h
    · exact hc
  · rfl

theorem sanitizeRune_eq_iff (c d : Char) :
    sanitizeRune c = sanitizeRune d ↔ c = d ∨ (¬ alnum c ∧ ¬ alnum d) := by
  have hu : ¬ alnum '_' := by
    rw [alnum]
    decide
  by_cases hc : alnum c
  · by_cases hd : alnum d
    · simp [sanitizeRune_alnum hc,sanitizeRune_alnum hd,hc]
    · have hcd : c ≠ d := fun h => hd (h ▸ hc)
      have hcu : c ≠ '_' := fun h => hu (h ▸ hc)
      simp [sanitizeRune_alnum hc,sanitizeRune_other hd,hc,hcd,hcu]
  · by_cases hd : alnum d
    · have hcd : c ≠ d := fun h => hc (h ▸ hd)
      have hdu : '_' ≠ d := fun h => hu (h ▸ hd)
      simp [sanitizeRune_other hc,sanitizeRune_alnum hd,hd,hcd,hdu]
    · simp [sanitizeRune_other hc,sanitizeRune_other hd,hc,hd]

theorem toList_sanitize (u : String) :
    (sanitize u).toList = u.toList.map fun c => sanitizeRune (lowerRune c) := by
  simp [sanitize,toLower,Function.comp_def]

theorem sanitize_append (u v : String) : sanitize (u ++ v) = sanitize u ++ sanitize v := by
  rw [← String.toList_inj]
  simp [toList_sanitize]

theorem sanitize_suffix (kind : SetKind) (fam : Family) :
    sanitize (suffix kind fam) = suffix kind fam := by
  cases kind <;> cases fam <;> decide

theorem sanitize_eq_iff (u v : String) : sanitize u = sanitize v ↔ Collide u v := by
  rw [← String.toList_inj,toList_sanitize,toList_sanitize,← forall₂_eq_eq_eq,
    forall₂_map_left_iff,forall₂_map_right_iff,Collide]
  refine iff_of_eq (congrArg (List.Forall₂ · _ _) ?_)
  funext c d
  exact propext (sanitizeRune_eq_iff _ _)

theorem subjectChain_fromSandboxUID (u : String) :
    subjectChain (fromSandboxUID u) = "subj_s_" ++ sanitize u := by
  rw [subjectChain,fromSandboxUID,sanitize_append,← String.append_assoc]
  rfl

theorem subjectChain_eq_iff (u v : String) :
    subjectChain (fromSandboxUID u) = subjectChain (fromSandboxUID v) ↔ Collide u v := by
  rw [subjectChain_fromSandboxUID,subjectChain_fromSandboxUID,String.append_right_inj,
    sanitize_eq_iff]

theorem subjectChain_eq_setName_iff (u v : String) (kind : SetKind) (fam : Family) :
    subjectChain (fromSandboxUID u) = setName kind (fromSandboxUID v) fam ↔
      Collide u (v ++ suffix kind fam) := by
  rw [setName_eq,subjectChain_fromSandboxUID,subjectChain_fromSandboxUID,String.append_assoc,
    String.append_right_inj,← sanitize_eq_iff,sanitize_append,sanitize_suffix]

theorem Collide.symm {u v : String} (h : Collide u v) : Collide v u := by
  rw [← sanitize_eq_iff] at h ⊢
  exact h.symm

theorem disjoint_names_iff (u v : String) :
    (∀ n ∈ names (fromSandboxUID u), n ∉ names (fromSandboxUID v)) ↔ ¬ Clash u v := by
  constructor
  · rintro h (hc | ⟨kind,fam,hc | hc⟩)
    · refine h _ (mem_cons_self ..) ?_
      rw [(subjectChain_eq_iff u v).mpr hc]
      exact mem_cons_self ..
    · refine h _ (mem_cons_self ..) (mem_cons_of_mem _ ?_)
      exact mem_allSetNames.mpr ⟨kind,fam,(subjectChain_eq_setName_iff u v kind fam).mpr hc⟩
    · refine h _ (mem_cons_of_mem _ (setName_mem kind fam)) ?_
      rw [← (subjectChain_eq_setName_iff v u kind fam).mpr hc.symm]
      exact mem_cons_self ..
  intro hno n hu hv
  rcases mem_cons.mp hu with rfl | hu
  · rcases mem_cons.mp hv with hv | hv
    · exact hno (.inl ((subjectChain_eq_iff u v).mp hv))
    · obtain ⟨kind,fam,hv⟩ := mem_allSetNames.mp hv
      exact hno (.inr ⟨kind,fam,.inl ((subjectChain_eq_setName_iff u v kind fam).mp hv)⟩)
  · obtain ⟨kind,fam,rfl⟩ := mem_allSetNames.mp hu
    rcases mem_cons.mp hv with hv | hv
    · have hc := (subjectChain_eq_setName_iff v u kind fam).mp hv.symm
      exact hno (.inr ⟨kind,fam,.inr hc.symm⟩)
    · obtain ⟨kind',fam',hv⟩ := mem_allSetNames.mp hv
      exact hno (.inl ((subjectChain_eq_iff u v).mp (setName_inj hv).2.2))

theorem untouched_step {u v : String}
    (hne : subjectChain (fromSandboxUID v) ≠ subjectChain (fromSandboxUID u)) {w : World} {op : Op}
    (hw : w.applier.tableReady = true) (hop : op.subject? = some (fromSandboxUID u)) :
    Untouched w.kernel (w.step op).2.kernel (fromSandboxUID v) := by
  rcases step_about hw hop with h | ⟨frag,ha,h⟩
  · rw [h]
    exact ⟨rfl,fun _ _ => rfl⟩
  rw [h]
  cases hk : w.kernel with
  | none => exact ⟨rfl,fun _ _ => rfl⟩
  | some t =>
    have hs := ha.sameSlice hne t
    refine ⟨hs.chain,fun n hn => ?_⟩
    obtain ⟨kind,fam,rfl⟩ := mem_allSetNames.mp hn
    exact hs.sets kind fam

theorem subjects_isolated_iff (u v : String) : Isolated u v ↔ ¬ Clash u v := by
  constructor
  · intro h
    exact (disjoint_names_iff u v).mp h.disjoint
  intro h
  refine ⟨(disjoint_names_iff u v).mpr h,fun w op hw hop => untouched_step ?_ hw hop⟩
  intro heq
  exact h (.inl ((subjectChain_eq_iff v u).mp heq).symm)

theorem subjects_share_chain :
    ¬ ∀ u v : String, u ≠ v → Accepted u → Accepted v → Isolated u v := by
  intro hall
  have hi := hall "a-b" "a_b" (by decide) (.inl (by decide)) (.inl (by decide))
  have hshared : "subj_s_a_b" ∈ names (fromSandboxUID "a-b") ∧
      "subj_s_a_b" ∈ names (fromSandboxUID "a_b") := by decide
  exact hi.disjoint _ hshared.1 hshared.2

end OpenSandbox.Fleetnft
