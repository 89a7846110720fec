import OpenSandbox.NodeAgent.OssSink.Ledger

namespace OpenSandbox.NodeAgent.OssSink

open Fallible Prog SegmentLog List Option Outcome

structure DiskInv (env : Env) (strict : Prop) (w : World) : Prop where
  fresh : w.persisted = none → (∀ key, w.objects.lookup key = none) ∧ w.appended = []
  stream : ∀ p, w.persisted = some p → StreamOk env w.objects w.appended p
  sorted : w.appended.Pairwise fun a b => a.1 ≤ b.1
  accepted : strict → w.refused = []

structure Inv (env : Env) (strict : Prop) (w : World) : Prop where
  disk : DiskInv env strict w
  cache : ∀ c r, w.cached = some (c, r) → w.persisted = some c ∧ Safe r ∧ Keyed env r c

def Landed (w : World) : Prop := ∃ c r, w.cached = some (c, r) ∧ Arrived w.appended c

structure Kept (env : Env) (strict : Prop) (w₀ w : World) : Prop where
  inv : Inv env strict w
  appended : w.appended = w₀.appended
  landed : Landed w → Landed w₀

abbrev Keeps {α : Type} (env : Env) (strict : Prop) (w₀ : World) (m : Result World SinkError α)
    (Q : α → World → Prop) : Prop :=
  m.Sat Q (fun _ w => Kept env strict w₀ w) fun w =>
    DiskInv env strict w ∧ w.appended = w₀.appended

structure Current (env : Env) (strict : Prop) (w₀ : World) (r : Resource) (s : SinkStream)
    (w : World) : Prop where
  kept : Kept env strict w₀ w
  stream : StreamOk env w.objects w.appended s
  safe : Safe r
  keyed : Keyed env r s
  held : s.appendIntent.isSome → w.cached = some (s, r)

section Programs

variable {env : Env} {strict : Prop} {plan : Site → Fate} {w₀ w : World} {s : SinkStream}
  {r : Resource} {α : Type}

theorem Inv.streamOk (h : Inv env strict w) (hcached : w.cached = some (s, r)) :
    StreamOk env w.objects w.appended s := h.disk.stream s (h.cache s r hcached).1

theorem Inv.deleteCachedStream (h : Inv env strict w) : Inv env strict w.deleteCachedStream := by
  refine ⟨⟨h.disk.fresh,h.disk.stream,h.disk.sorted,h.disk.accepted⟩,?_⟩
  intro c r hcached
  cases hcached

theorem not_landed_deleteCachedStream (w : World) : ¬ Landed w.deleteCachedStream := by
  rintro ⟨c,r,hcached,-⟩
  cases hcached

namespace Kept

theorem start (h : Inv env strict w) : Kept env strict w w := ⟨h,rfl,id⟩

theorem crash (h : Kept env strict w₀ w) :
    DiskInv env strict w ∧ w.appended = w₀.appended := ⟨h.inv.disk,h.appended⟩

theorem current (h : Kept env strict w₀ w) (hcached : w.cached = some (s, r)) :
    Current env strict w₀ r s w :=
  ⟨h,h.inv.streamOk hcached,(h.inv.cache s r hcached).2.1,(h.inv.cache s r hcached).2.2,
    fun _ => hcached⟩

end Kept

structure Seen (env : Env) (bytes : List UInt8) (reply : Except SinkError ObjectMetadata) :
    Prop where
  size : ∀ metadata, reply = .ok metadata → metadata.size = bytes.length
  crc : ∀ metadata, reply = .ok metadata → metadata.crc64 = env.crc64 bytes
  missing : reply = .error .notFound → bytes = []

variable {E : SinkError → World → Prop} {C : World → Prop}

theorem sat_head (hcrash : C w) (site : Site) (key : String) : (head env plan site key w).Sat
      (fun reply w' => w' = w ∧ Seen env (bytesAt w.objects key) reply) E C := by
  refine sat_catchError
    (sat_skip (sat_attempt rfl ?_ hcrash) fun _ => sat_let fun found hfound => ?_)
  · exact ⟨rfl,nofun,nofun,nofun⟩
  cases found with
  | none =>
    refine ⟨rfl,nofun,nofun,fun _ => ?_⟩
    rw [bytesAt,← hfound]
    rfl
  | some o =>
    have hbytes : bytesAt w.objects key = o.bytes := by
      rw [bytesAt,← hfound]
      rfl
    rw [hbytes]
    refine ⟨rfl,?_,?_,by simp⟩
    · rintro _ ⟨⟩
      rfl
    · rintro _ ⟨⟩
      rfl

theorem keeps_head (h : Kept env strict w₀ w) (site : Site) (key : String) :
    Keeps env strict w₀ (head env plan site key w) fun reply w' =>
      w' = w ∧ Seen env (bytesAt w.objects key) reply := sat_head h.crash site key

theorem DiskInv.put (h : DiskInv env strict w) (hs : StreamOk env w.objects w.appended s) :
    DiskInv env strict { w with persisted := some s } := by
  refine ⟨nofun,?_,h.sorted,h.accepted⟩
  rintro _ ⟨⟩
  exact hs

theorem Inv.store (h : Inv env strict w) (hs : StreamOk env w.objects w.appended s) (hsafe : Safe r)
    (hkeyed : Keyed env r s) :
    Inv env strict { w with persisted := some s, cached := some (s, r) } := by
  have hput := h.disk.put hs
  refine ⟨{ hput with },?_⟩
  rintro _ _ ⟨⟩
  exact ⟨rfl,hsafe,hkeyed⟩

theorem Inv.refuse (h : Inv env strict w) (hstrict : ¬ strict) :
    Inv env strict { w with refused := w.refused ++ [s] } :=
  ⟨⟨h.disk.fresh,h.disk.stream,h.disk.sorted,fun hs => absurd hs hstrict⟩,h.cache⟩

theorem Kept.refuse (h : Kept env strict w₀ w) (hstrict : ¬ strict) :
    Kept env strict w₀ { w with refused := w.refused ++ [s] } :=
  ⟨h.inv.refuse hstrict,h.appended,h.landed⟩

section Put

variable (hnamed : s.sinkName = "oss") (hvalid : strict → validateSinkStream s = .ok ())
  (hsame : ∀ e, E e w) (hrefused : ¬ strict → ∀ e, E e { w with refused := w.refused ++ [s] })
  (hcrash : C w) (hput : validateSinkStream s = .ok () → C { w with persisted := some s })

include hnamed hvalid hsame hrefused hcrash hput

theorem sat_putSinkStream (site : Site) : (putSinkStream plan site s w).Sat
      (fun _ w' => w' = { w with persisted := some s } ∧ validateSinkStream s = .ok ()) E C := by
  refine sat_skip (sat_check (fun _ => rfl) fun _ => hsame _) fun _ => ?_
  have heq : { s with sinkName := "oss" } = s := by rw [← hnamed]
  rw [heq]
  cases hvalidate : validateSinkStream s with
  | error e =>
    refine hrefused ?_ _
    intro hstrict
    rw [hvalid hstrict] at hvalidate
    cases hvalidate
  | ok a =>
    refine sat_perform (fun _ => ⟨rfl,rfl⟩) (fun _ _ => hsame _) ?_
    intro n _
    split_ifs
    · exact hcrash
    · exact hput hvalidate

theorem sat_storeStream (site : Site) : (storeStream plan site s r w).Sat
      (fun a w' => a = s ∧ w' = { w with persisted := some s, cached := some (s, r) } ∧
        validateSinkStream s = .ok ()) E C := by
  refine sat_bind (sat_putSinkStream hnamed hvalid hsame hrefused hcrash hput site) ?_
  rintro _ _ ⟨rfl,hok⟩
  exact ⟨rfl,rfl,hok⟩

end Put

theorem keeps_storeStream (hsound : strict → EnvSound env) (h : Kept env strict w₀ w)
    (hs : StreamOk env w.objects w.appended s) (hsafe : Safe r) (hkeyed : Keyed env r s)
    (hlanded : Arrived w.appended s → Landed w₀) (site : Site) :
    Keeps env strict w₀ (storeStream plan site s r w) fun a w' =>
      a = s ∧ w'.cached = some (s, r) ∧ Kept env strict w₀ w' := by
  refine (sat_storeStream hs.named (fun hstrict => hs.valid (hsound hstrict)) (fun _ => h)
    (fun hstrict _ => h.refuse hstrict) h.crash
    (fun _ => ⟨h.inv.disk.put hs,h.appended⟩) site).post ?_
  rintro _ _ ⟨rfl,rfl,-⟩
  refine ⟨rfl,rfl,h.inv.store hs hsafe hkeyed,h.appended,?_⟩
  rintro ⟨_,_,⟨⟩,harrived⟩
  exact hlanded harrived

section

variable (h : Kept env strict w₀ w)

include h

theorem keeps_adoptStream (hpersisted : w.persisted = none) (hsafe : Safe r)
    : Keeps env strict w₀ (adoptStream env plan r w) fun s w' =>
      w' = w ∧ StreamOk env w.objects w.appended s ∧ Keyed env r s ∧ s.appendIntent = none := by
  unfold adoptStream
  refine sat_except h fun _ _ => ?_
  refine sat_then (keeps_head h _ _) fun reply _ => ?_
  obtain ⟨hobjects,hlog⟩ := h.inv.disk.fresh hpersisted
  have hkeyed : Keyed env r (newSinkStream env r) := by
    intro generation key hkey
    unfold keyAt at hkey
    split_ifs at hkey with hcurrent
    · cases hkey
      rw [hcurrent]
      rfl
    · cases hkey
  have hs : StreamOk env w.objects w.appended (newSinkStream env r) := by
    rw [hlog]
    refine ⟨rfl,rfl,⟨r,hsafe,hkeyed⟩,rfl,?_,?_,nofun,le_rfl,.inl rfl,nofun,nofun⟩
    · intro generation key _
      rw [bytesAt,hobjects]
      rfl
    · intro key o ho
      rw [hobjects] at ho
      cases ho
  cases reply with
  | ok metadata => exact h
  | error e =>
    cases e with
    | notFound => exact ⟨rfl,hs,hkeyed,rfl⟩
    | _ => exact h

theorem keeps_intentSize (i : AppendIntent) :
    Keeps env strict w₀ (intentSize env plan s i w) fun size w' =>
      w' = w ∧ size = (bytesAt w.objects s.objectKey).length := by
  unfold intentSize
  refine sat_then (keeps_head h _ _) fun reply hseen => ?_
  cases reply with
  | ok metadata => exact ⟨rfl,hseen.size metadata rfl⟩
  | error e =>
    cases e with
    | notFound =>
      refine sat_ite (fun _ => ⟨rfl,?_⟩) fun _ => h
      rw [hseen.missing rfl]
      rfl
    | _ => exact h

theorem keeps_settleIntent (hs : StreamOk env w.objects w.appended s) (hkeyed : Keyed env r s)
    : Keeps env strict w₀ (settleIntent env plan s w) fun a w' =>
      w' = w ∧ StreamOk env w.objects w.appended a ∧ Keyed env r a ∧ a.appendIntent = none := by
  unfold settleIntent
  cases hintent : s.appendIntent with
  | none => exact ⟨rfl,hs,hkeyed,hintent⟩
  | some i =>
    have hposition := (hs.intent i hintent).1
    refine sat_then (keeps_intentSize h i) fun size hsize => ?_
    rw [hs.bytes_eq] at hsize
    have hsettled := hs.settle
    rw [← hsize] at hsettled
    refine sat_ite (fun heq => ?_) fun _ => sat_ite (fun _ => ?_) fun _ => h
    · rw [heq,hposition] at hsettled
      exact ⟨rfl,hsettled,hkeyed,rfl⟩
    · exact ⟨rfl,hsettled,hkeyed,rfl⟩

theorem keeps_verifyMetadata (s : SinkStream) (r : Resource) :
    Keeps env strict w₀ (verifyMetadata env plan s r w) fun _ w' => w' = w := by
  unfold verifyMetadata
  refine sat_then (keeps_head h _ _) fun reply _ => ?_
  cases reply with
  | ok metadata =>
    refine sat_except h fun _ _ => ?_
    exact sat_check (fun _ => rfl) fun _ => h
  | error e => exact sat_ite (fun _ => rfl) fun _ => h

end

theorem closedLayoutOk_key {objects : List ClosedObject} {index : Nat}
    (h : closedLayoutOk env r index objects = true) {i : Nat} {o : ClosedObject}
    (ho : objects[i]? = some o) : o.key = objectKeyOf env r (index + i) := by
  induction objects generalizing index i with
  | nil => cases ho
  | cons first rest ih =>
    simp only [closedLayoutOk,Bool.and_eq_true,decide_eq_true_eq] at h
    cases i with
    | zero =>
      cases ho
      rw [h.1.2,h.1.1]
      rfl
    | succ j =>
      rw [ih h.2 ho]
      congr 1
      omega

theorem keyed_of_layout (hs : StreamOk env w.objects w.appended s)
    (hlayout : validateStreamLayout env s r = .ok ()) : Keyed env r s := by
  obtain ⟨_,-,hrest⟩ := bind_eq_ok.mp hlayout
  obtain ⟨_,-,hrules⟩ := bind_eq_ok.mp hrest
  have hrules := reject_eq_ok.mp hrules
  simp only [mem_cons,not_mem_nil,or_false,forall_eq_or_imp,forall_eq] at hrules
  obtain ⟨hkey,-,-,hclosed,-⟩ := hrules
  have hnonempty : s.objectKey ≠ "" := hs.key_ne_empty (keyAt_current s)
  intro generation key hkeyAt
  unfold keyAt at hkeyAt
  split_ifs at hkeyAt with hcurrent
  · cases hkeyAt
    rw [hcurrent]
    simpa [unset,hnonempty] using hkey
  · obtain ⟨o,ho,rfl⟩ := map_eq_some_iff.mp hkeyAt
    have := closedLayoutOk_key (by simpa using hclosed) ho
    rwa [Nat.zero_add] at this

section

variable (h : Kept env strict w₀ w)

include h

theorem keeps_resumeStream (hs : StreamOk env w.objects w.appended s) :
    Keeps env strict w₀ (resumeStream env plan r s w) fun a w' =>
      w' = w ∧ StreamOk env w.objects w.appended a ∧ Keyed env r a ∧ a.appendIntent = none := by
  unfold resumeStream
  refine sat_except h fun _ hlayout => ?_
  have hkeyed := keyed_of_layout hs hlayout
  have hsame : { s with objectKey := if s.objectKey = "" then objectKeyOf env r s.generation
      else s.objectKey } = s := by
    rw [if_neg (hs.key_ne_empty (keyAt_current s))]
  rw [hsame]
  refine sat_bind (keeps_settleIntent h hs hkeyed) ?_
  rintro settled w ⟨rfl,hsettled⟩
  refine sat_skip (keeps_verifyMetadata h settled r) fun _ => ?_
  exact ⟨rfl,hsettled⟩

theorem keeps_getSinkStream :
    Keeps env strict w₀ (getSinkStream env plan w) fun a w' => w' = w ∧ a = w.persisted := by
  unfold getSinkStream
  refine sat_io h h.crash ?_
  refine sat_let fun stored hstored => ?_
  cases stored with
  | none => exact ⟨rfl,hstored⟩
  | some stream =>
    refine sat_except h fun _ _ => ?_
    refine sat_guard h fun _ => ?_
    exact ⟨rfl,hstored⟩

theorem keeps_loadStream (hsafe : Safe r) :
    Keeps env strict w₀ (loadStream env plan r w) fun a w' =>
      w' = w ∧ StreamOk env w.objects w.appended a ∧ Keyed env r a ∧ a.appendIntent = none := by
  unfold loadStream
  refine sat_then (keeps_getSinkStream h) fun stored hstored => ?_
  cases stored with
  | none => exact keeps_adoptStream h hstored.symm hsafe
  | some p => exact keeps_resumeStream h (h.inv.disk.stream p hstored.symm)

end

theorem not_arrived {log : List (Nat × List UInt8)} (h : s.appendIntent = none) :
    ¬ Arrived log s := by
  rintro ⟨i,hi,-⟩
  cases h.symm.trans hi

theorem keeps_getStream (hsound : strict → EnvSound env) (h : Inv env strict w) (hsafe : Safe r) :
    Keeps env strict w (getStream env plan r w) fun s w' =>
      Current env strict w r s w' ∧ w'.cached = some (s, r) ∧
        (w.cached = some (s, r) ∨ s.appendIntent = none) := by
  have hstart := Kept.start h
  unfold getStream
  refine sat_let fun cached hcached => ?_
  cases cached with
  | some entry =>
    obtain ⟨current,cachedResource⟩ := entry
    refine sat_guard hstart fun hresource => ?_
    have hresource : cachedResource = r := by simpa using hresource
    subst hresource
    exact ⟨hstart.current hcached.symm,hcached.symm,.inl hcached.symm⟩
  | none =>
    refine sat_bind (keeps_loadStream hstart hsafe) ?_
    rintro s w ⟨rfl,hs,hkeyed,hnone⟩
    refine (keeps_storeStream hsound hstart hs hsafe hkeyed
      (fun harrived => absurd harrived (not_arrived hnone)) _).post ?_
    rintro _ w' ⟨rfl,hw',hkept⟩
    exact ⟨hkept.current hw',hw',.inr hnone⟩

theorem keeps_closeGeneration (hsound : strict → EnvSound env) (h : Current env strict w₀ r s w)
    (hposition : 0 < s.position) (hidle : strict → s.appendIntent = none) :
    Keeps env strict w₀ (closeGeneration env plan r s w) fun a w' =>
      Current env strict w₀ r a w' ∧ w'.cached = some (a, r) ∧ a.currentClosed = true := by
  have hkept := h.kept
  have hs := h.stream
  unfold closeGeneration
  refine sat_then (keeps_head hkept _ _) fun reply hseen => ?_
  rw [hs.bytes_eq] at hseen
  cases reply with
  | error e => exact hkept
  | ok metadata =>
    refine sat_except hkept fun _ _ => ?_
    refine sat_guard hkept fun _ => ?_
    refine sat_guard hkept fun _ => ?_
    rw [hseen.size metadata rfl,hseen.crc metadata rfl]
    have hkeyed := hs.keyed_closedStream h.keyed (content w.appended s.generation).length
      (env.crc64 (content w.appended s.generation))
    obtain hnone | ⟨i,hi⟩ := eq_none_or_eq_some s.appendIntent
    · refine (keeps_storeStream hsound hkept (hs.close hnone hposition) h.safe hkeyed
        (fun harrived => absurd harrived (not_arrived hnone)) _).post ?_
      rintro _ w' ⟨rfl,hw',hkept'⟩
      exact ⟨hkept'.current hw',hw',rfl⟩
    have hstrict : ¬ strict := by
      intro hstrict
      cases hi.symm.trans (hidle hstrict)
    have hnamed : (closedStream s (content w.appended s.generation).length
        (env.crc64 (content w.appended s.generation))).sinkName = "oss" := hs.named
    have hinvalid := validateSinkStream_closed
      (s := closedStream s (content w.appended s.generation).length
        (env.crc64 (content w.appended s.generation)))
      (show s.appendIntent.isSome by rw [hi]; rfl) rfl
    refine (sat_storeStream hnamed (absurd · hstrict) (fun _ => hkept)
      (fun hstrict _ => hkept.refuse hstrict) hkept.crash (absurd · hinvalid) _).post ?_
    rintro _ _ ⟨-,-,hok⟩
    exact absurd hok hinvalid

theorem keeps_nextGeneration (h : Current env strict w₀ r s w) (hclosed : s.currentClosed = true) :
    Keeps env strict w₀ (nextGeneration env r s w) fun a w' =>
      Current env strict w₀ r a w' ∧ a = nextStream env r s := by
  unfold nextGeneration
  refine sat_except h.kept fun _ _ => ?_
  obtain ⟨hs,hkeyed⟩ := h.stream.next hclosed h.safe h.keyed
  refine ⟨⟨h.kept,hs,h.safe,hkeyed,?_⟩,rfl⟩
  intro hsome
  rw [show (nextStream env r s).appendIntent = none from h.stream.intent_none_of_closed hclosed]
    at hsome
  cases hsome

theorem appendExceedsObjectLimit_eq_false {position length limit : Int} :
    appendExceedsObjectLimit position length limit = false ↔
      position ≤ limit ∧ position + length ≤ limit := by
  simp only [appendExceedsObjectLimit,Bool.or_eq_false_iff,decide_eq_false_iff_not,not_lt]
  omega

theorem keeps_prepareGeneration (hsound : strict → EnvSound env) (h : Current env strict w₀ r s w)
    {length : Int} (hlength : 0 < length) (hfits : length ≤ env.cfg.maxObjectBytes)
    (hidle : strict → s.appendIntent.isSome →
      appendExceedsObjectLimit s.position length env.cfg.maxObjectBytes = false) :
    Keeps env strict w₀ (prepareGeneration env plan r length s w) fun a w' =>
      Current env strict w₀ r a w' ∧ a.currentClosed = false ∧
        a.position + length ≤ env.cfg.maxObjectBytes := by
  unfold prepareGeneration
  refine sat_bind (Q := fun a w' => Current env strict w₀ r a w' ∧ a.currentClosed = false ∧
    (a = s ∨ a.position = 0)) ?_ ?_
  · refine sat_ite (fun hclosed => ?_) fun hopen => ?_
    · refine (keeps_nextGeneration h hclosed).post ?_
      rintro _ w' ⟨h',rfl⟩
      exact ⟨h',rfl,.inr rfl⟩
    · exact ⟨h,by simpa using hopen,.inl rfl⟩
  rintro a w₁ ⟨h₁,hopen,hcase⟩
  refine sat_ite (fun hexceeds => ?_) fun hwithin => ?_
  · have hposition : 0 < a.position := by
      have hlimit := appendExceedsObjectLimit_eq_false.not.mp (by simpa using hexceeds)
      omega
    have hnone : strict → a.appendIntent = none := by
      intro hstrict
      rcases hcase with rfl | hzero
      · obtain hnone | ⟨i,hi⟩ := eq_none_or_eq_some a.appendIntent
        · exact hnone
        · rw [hidle hstrict (by rw [hi]; rfl)] at hexceeds
          cases hexceeds
      · omega
    refine sat_bind (keeps_closeGeneration hsound h₁ hposition hnone) ?_
    rintro closed w₂ ⟨h₂,-,hclosed⟩
    refine (keeps_nextGeneration h₂ hclosed).post ?_
    rintro _ w₃ ⟨h₃,rfl⟩
    exact ⟨h₃,rfl,(Int.zero_add length).trans_le hfits⟩
  · have hlimit := appendExceedsObjectLimit_eq_false.mp (by simpa using hwithin)
    exact ⟨h₁,hopen,hlimit.2⟩

theorem keeps_recordIntent (hsound : strict → EnvSound env) (h : Current env strict w₀ r s w)
    (hopen : s.currentClosed = false) {data : List UInt8} (hdata : 0 < data.length)
    (hlimit : s.position + data.length ≤ env.cfg.maxObjectBytes) :
    Keeps env strict w₀ (recordIntent env plan r data s w) fun a w' =>
      Kept env strict w₀ w' ∧ w'.cached = some (a, r) ∧
        a.appendIntent = some ⟨a.position,data.length,env.sha256 data,0,0⟩ := by
  unfold recordIntent
  refine sat_guard h.kept fun hmatch => ?_
  obtain hnone | ⟨i,hi⟩ := eq_none_or_eq_some s.appendIntent
  · have hs := h.stream.record hnone hopen hdata hlimit
    refine (keeps_storeStream hsound h.kept hs h.safe h.keyed ?_ _).post ?_
    · rintro ⟨_,⟨⟩,harrived⟩
      have hposition := h.stream.settled_position hnone
      change s.position + (data.length : Int) = (content w.appended s.generation).length at harrived
      omega
    · rintro _ w' ⟨rfl,hw',hkept⟩
      exact ⟨hkept,hw',rfl⟩
  have hi' : i = ⟨s.position,data.length,env.sha256 data,0,0⟩ := by simpa [hi] using hmatch
  have hsame : { s with
      appendIntent := some ⟨s.position,data.length,env.sha256 data,0,0⟩ } = s := by
    rw [← hi',← hi]
  have hcached := h.held (by rw [hi]; rfl)
  rw [hsame]
  refine (keeps_storeStream hsound h.kept h.stream h.safe h.keyed
    (fun harrived => h.kept.landed ⟨s,r,hcached,harrived⟩) _).post ?_
  rintro _ w' ⟨rfl,hw',hkept⟩
  exact ⟨hkept,hw',hi.trans (congrArg some hi')⟩

structure After (env : Env) (strict : Prop) (data : List UInt8) (w₀ w : World) : Prop where
  inv : Inv env strict w
  grown : (w.appended = w₀.appended ∧ (Landed w → Landed w₀)) ∨
    ∃ generation, w.appended = w₀.appended ++ [(generation, data)]

structure Torn (env : Env) (strict : Prop) (data : List UInt8) (w₀ w : World) : Prop where
  disk : DiskInv env strict w
  grown : w.appended = w₀.appended ∨ ∃ generation, w.appended = w₀.appended ++ [(generation, data)]

abbrev Sends {α : Type} (env : Env) (strict : Prop) (data : List UInt8) (w₀ : World)
    (m : Result World SinkError α) (Q : α → World → Prop) : Prop :=
  m.Sat Q (fun _ w => After env strict data w₀ w) (Torn env strict data w₀)

variable {data : List UInt8} {i : AppendIntent}

theorem Kept.after (h : Kept env strict w₀ w) : After env strict data w₀ w :=
  ⟨h.inv,.inl ⟨h.appended,h.landed⟩⟩

theorem Keeps.sends {m : Result World SinkError α} {Q : α → World → Prop}
    (h : Keeps env strict w₀ m Q) : Sends env strict data w₀ m Q :=
  h.mono (fun _ _ => id) (fun _ _ hkept => hkept.after) fun _ hcrash => ⟨hcrash.1,.inl hcrash.2⟩

namespace After

variable (h : After env strict data w₀ w)

include h

theorem torn : Torn env strict data w₀ w := ⟨h.inv.disk,h.grown.imp_left And.left⟩

theorem deleteCachedStream : After env strict data w₀ w.deleteCachedStream := by
  refine ⟨h.inv.deleteCachedStream,h.grown.imp_left fun hsame => ⟨hsame.1,?_⟩⟩
  exact fun hlanded => absurd hlanded (not_landed_deleteCachedStream w)

theorem refuse (hstrict : ¬ strict) :
    After env strict data w₀ { w with refused := w.refused ++ [s] } :=
  ⟨h.inv.refuse hstrict,h.grown⟩

end After

section Appending

variable (hcached : w.cached = some (s, r)) (hintent : s.appendIntent = some i)
  (hlength : i.length = data.length)

include hcached hintent hlength

theorem Kept.appendAt (h : Kept env strict w₀ w) (metadata : Metadata) :
    After env strict data w₀ (w.appendAt s.generation s.objectKey data s.position metadata) ∧
      (w.appendAt s.generation s.objectKey data s.position metadata).cached = some (s, r) := by
  have hs := h.inv.streamOk hcached
  obtain ⟨hpersisted,hsafe,hkeyed⟩ := h.inv.cache s r hcached
  unfold World.appendAt
  split_ifs with hsize
  · rw [hs.bytes_eq] at hsize
    have hs' := hs.appended hintent hlength hsize.symm
      (((w.objects.lookup s.objectKey).map (·.metadata)).getD metadata)
    refine ⟨⟨⟨⟨?_,?_,?_,h.inv.disk.accepted⟩,?_⟩,?_⟩,hcached⟩
    · intro hnone
      cases hpersisted.symm.trans hnone
    · intro p hp
      cases hpersisted.symm.trans hp
      exact hs'
    · rw [pairwise_append]
      refine ⟨h.inv.disk.sorted,pairwise_singleton _ _,?_⟩
      intro entry hentry new hnew
      rw [mem_singleton.mp hnew]
      exact hs.latest entry hentry
    · intro c r' hc
      cases hcached.symm.trans hc
      exact ⟨hpersisted,hsafe,hkeyed⟩
    · right
      exact ⟨s.generation,by rw [h.appended]⟩
  · exact ⟨h.after,hcached⟩

theorem sends_append (h : Kept env strict w₀ w) (metadata : Metadata) :
    Sends env strict data w₀ (append plan s data metadata w) fun reply w' =>
      After env strict data w₀ w' ∧ w'.cached = some (s, r) ∧
        (reply.2 = none → Arrived w'.appended s) := by
  obtain ⟨hafter,hcached'⟩ := h.appendAt hcached hintent hlength metadata
  have hs := h.inv.streamOk hcached
  unfold append
  refine sat_catchError ?_
  refine sat_let fun size hsize => ?_
  refine sat_bind (Q := fun _ w' =>
    w' = w.appendAt s.generation s.objectKey data s.position metadata) ?_ ?_
  · refine sat_perform (fun _ => rfl) ?_ ?_
    · intro n _
      split_ifs
      · exact ⟨h.after,hcached,nofun⟩
      · exact ⟨hafter,hcached',nofun⟩
    · intro n _
      split_ifs
      · exact h.after.torn
      · exact hafter.torn
  rintro _ _ rfl
  refine sat_ite (fun heq => ⟨hafter,hcached',fun _ => ?_⟩) fun _ => ⟨hafter,hcached',nofun⟩
  rw [hsize] at heq
  rw [World.appendAt,if_pos heq]
  refine ⟨i,hintent,?_⟩
  rw [hs.bytes_eq] at heq
  rw [content_append_same,length_append,← heq,hlength]
  rfl

theorem sends_recoverAppendResult (h : After env strict data w₀ w) (next : Int)
    (appendErr : Option SinkError) :
    Sends env strict data w₀
      (recoverAppendResult env plan r s next (s.position + data.length) appendErr w) fun a w' =>
        w' = w ∧ a = s.position + data.length ∧ Arrived w.appended s := by
  have hs := h.inv.streamOk hcached
  unfold recoverAppendResult
  refine sat_then (sat_head h.torn _ _) fun reply hseen => ?_
  rw [hs.bytes_eq] at hseen
  cases reply with
  | ok metadata =>
    refine sat_skip (sat_onError (sat_ofExcept (fun _ _ => rfl) ?_)) fun _ => ?_
    · exact fun _ _ => h.deleteCachedStream
    refine sat_ite (fun heq => ⟨rfl,rfl,i,hintent,?_⟩) fun _ => ?_
    · rw [hlength,← heq,hseen.size metadata rfl]
    · refine sat_set ?_
      exact sat_ite (fun _ => h.deleteCachedStream) fun _ => h.deleteCachedStream
  | error e =>
    refine sat_skip (sat_attempt rfl h h.torn) fun _ => ?_
    refine sat_set ?_
    exact sat_ite (fun _ => h.deleteCachedStream) fun _ => h.deleteCachedStream

theorem sends_appendData (h : Kept env strict w₀ w) :
    Sends env strict data w₀ (appendData env plan r data s w) fun a w' =>
      After env strict data w₀ w' ∧ w'.cached = some (s, r) ∧ a = s.position + data.length ∧
        Arrived w'.appended s := by
  unfold appendData
  refine sat_guard h.after fun _ => ?_
  refine sat_bind (sends_append hcached hintent hlength h _) ?_
  rintro reply w₁ ⟨h₁,hcached₁,harrived⟩
  refine sat_ite (fun _ => ?_) fun hreply => ?_
  · refine (sends_recoverAppendResult hcached₁ hintent hlength h₁ _ _).post ?_
    rintro a w₁ ⟨rfl,rfl,harrived⟩
    exact ⟨h₁,hcached₁,rfl,harrived⟩
  · rw [not_or] at hreply
    exact ⟨h₁,hcached₁,not_not.mp hreply.2,harrived (by simpa using hreply.1)⟩

structure Acked (env : Env) (strict : Prop) (data : List UInt8) (w₀ w : World) : Prop where
  inv : Inv env strict w
  settled : ¬ Landed w
  present : (w.appended = w₀.appended ∧ Landed w₀) ∨
    ∃ generation, w.appended = w₀.appended ++ [(generation, data)]

theorem sends_storeAppended (hsound : strict → EnvSound env) (h : After env strict data w₀ w)
    (harrived : Arrived w.appended s) :
    Sends env strict data w₀ (storeStream plan .putAppended
      { s with position := s.position + data.length, appendIntent := none } r w) fun _ w' =>
        Acked env strict data w₀ w' := by
  obtain ⟨-,hsafe,hkeyed⟩ := h.inv.cache s r hcached
  have hs := (h.inv.streamOk hcached).settle
  obtain ⟨_,hi,heq⟩ := id harrived
  cases hintent.symm.trans hi
  rw [← heq,hlength] at hs
  have hput := h.inv.disk.put hs
  refine (sat_storeStream hs.named (fun hstrict => hs.valid (hsound hstrict)) (fun _ => h)
    (fun hstrict _ => h.refuse hstrict) h.torn
    (fun _ => ⟨hput,h.grown.imp_left And.left⟩) _).post ?_
  rintro _ _ ⟨rfl,rfl,-⟩
  refine ⟨h.inv.store hs hsafe hkeyed,?_,?_⟩
  · rintro ⟨_,_,⟨⟩,_,⟨⟩,-⟩
  · exact h.grown.imp_left fun hsame => ⟨hsame.1,hsame.2 ⟨s,r,hcached,harrived⟩⟩

end Appending

theorem safe_of_validateResource (h : validateResource env r = .ok ()) : Safe r := by
  obtain ⟨_,hrules,-⟩ := bind_eq_ok.mp h
  have hrules := reject_eq_ok.mp hrules
  simp only [mem_cons,not_mem_nil,or_false,forall_eq_or_imp,forall_eq] at hrules
  exact hrules.2

def Unblocked (env : Env) (length : Int) (w : World) : Prop :=
  ∀ c r, w.cached = some (c, r) → c.appendIntent.isSome →
    appendExceedsObjectLimit c.position length env.cfg.maxObjectBytes = false

theorem sends_consumeData (hsound : strict → EnvSound env) (h : Inv env strict w)
    (hdata : 0 < data.length) (hfree : strict → Unblocked env data.length w) (r : Resource) :
    Sends env strict data w (consumeData env plan r data w) fun _ w' =>
      Acked env strict data w w' := by
  have hstart := Kept.start h
  unfold consumeData
  refine sat_guard hstart.after fun hsmall => ?_
  refine sat_except hstart.after fun _ hvalid => ?_
  refine sat_bind (keeps_getStream hsound h (safe_of_validateResource hvalid)).sends ?_
  rintro s w₁ ⟨h₁,-,hsource⟩
  have hidle : strict → s.appendIntent.isSome →
      appendExceedsObjectLimit s.position data.length env.cfg.maxObjectBytes = false := by
    intro hstrict hsome
    rcases hsource with hcached | hnone
    · exact hfree hstrict s r hcached hsome
    · rw [hnone] at hsome
      cases hsome
  refine sat_bind (keeps_prepareGeneration hsound h₁ (Int.natCast_pos.mpr hdata)
    (by simpa using hsmall) hidle).sends ?_
  rintro prepared w₂ ⟨h₂,hopen,hlimit⟩
  refine sat_bind (keeps_recordIntent hsound h₂ hopen hdata hlimit).sends ?_
  rintro recorded w₃ ⟨h₃,hcached₃,hintent⟩
  refine sat_bind (sends_appendData hcached₃ hintent rfl h₃) ?_
  rintro next w₄ ⟨h₄,hcached₄,rfl,harrived⟩
  refine sat_bind (sends_storeAppended hcached₄ hintent rfl hsound h₄ harrived) ?_
  exact fun _ _ hacked => hacked

theorem sends_consume (hsound : strict → EnvSound env) (h : Inv env strict w)
    (plan : Site → Fate) (batch : Batch)
    (hfree : strict → Unblocked env (encodeBatch env.time.formatNano batch).length w) :
    Sends env strict (encodeBatch env.time.formatNano batch) w (consume env plan batch w)
      fun _ w' => (batch.items = [] ∧ w' = w) ∨
        (batch.items ≠ [] ∧ Acked env strict (encodeBatch env.time.formatNano batch) w w') := by
  unfold consume
  cases hitems : batch.items with
  | nil => exact .inl ⟨rfl,rfl⟩
  | cons first rest =>
    have hne : batch.items ≠ [] := by
      rw [hitems]
      exact cons_ne_nil first rest
    refine sat_guard (Kept.start h).after fun _ => ?_
    refine (sends_consumeData hsound h (encodeBatch_length_pos env.time.formatNano hne) hfree
      _).post ?_
    exact fun _ _ hacked => .inr ⟨cons_ne_nil first rest,hacked⟩

section

variable (h : Kept env strict w₀ w)

include h

theorem keeps_verifyClosedObjects (r : Resource) (objects : List ClosedObject) (index : Nat) :
    Keeps env strict w₀ (verifyClosedObjects env plan r index objects w) fun _ w' => w' = w := by
  induction objects generalizing index with
  | nil => exact rfl
  | cons o rest ih =>
    unfold verifyClosedObjects
    refine sat_except h fun _ _ => ?_
    refine sat_guard h fun _ => ?_
    refine sat_then (keeps_head h _ _) fun reply _ => ?_
    cases reply with
    | error e => exact h
    | ok metadata =>
      refine sat_guard h fun _ => ?_
      refine sat_except h fun _ _ => ?_
      exact ih (index + 1)

theorem Kept.setMarkers (markers : GoMap (List UInt8)) :
    Kept env strict w₀ { w with markers := markers } :=
  ⟨⟨⟨h.inv.disk.fresh,h.inv.disk.stream,h.inv.disk.sorted,h.inv.disk.accepted⟩,h.inv.cache⟩,
    h.appended,h.landed⟩

theorem keeps_publishMarker (key : String) (raw : List UInt8) :
    Keeps env strict w₀ (publishMarker plan key raw w) fun _ w' =>
      ∃ markers, w' = { w with markers := markers } := by
  have hput : ∃ markers, w.putMarker key raw = { w with markers := markers } := by
    unfold World.putMarker
    split
    · exact ⟨w.markers,rfl⟩
    · exact ⟨_,rfl⟩
  have hsame : ∃ markers, w = { w with markers := markers } := ⟨w.markers,rfl⟩
  have heffect (n : Nat) : ∃ markers, (if n = 0 then w else w.putMarker key raw) =
      { w with markers := markers } := by
    split_ifs
    · exact hsame
    · exact hput
  unfold publishMarker
  refine sat_bind (Q := fun _ w' => ∃ markers, w' = { w with markers := markers }) ?_ ?_
  · unfold writeMarker
    refine sat_catchError ?_
    refine sat_let fun _ _ => ?_
    refine sat_bind (Q := fun _ w' => ∃ markers, w' = { w with markers := markers }) ?_ ?_
    · refine sat_perform (fun _ => hput) (fun n _ => heffect n) ?_
      intro n _
      obtain ⟨markers,heq⟩ := heffect n
      rw [heq]
      exact (h.setMarkers markers).crash
    · intro _ _ hmarkers
      exact hmarkers
  rintro failure _ ⟨markers,rfl⟩
  have hkept := h.setMarkers markers
  cases failure with
  | none => exact ⟨markers,rfl⟩
  | some cause =>
    refine sat_skip (sat_catchError (sat_attempt rfl hkept hkept.crash)) fun _ => ?_
    refine sat_let fun existing _ => ?_
    cases existing with
    | none => exact hkept
    | some raw' => exact sat_check (fun _ => ⟨markers,rfl⟩) fun _ => hkept

end

theorem keeps_recordFinalized (hsound : strict → EnvSound env) (h : Kept env strict w₀ w)
    (hcached : w.cached = some (s, r)) (revision : Nat) :
    Keeps env strict w₀ (recordFinalized plan s revision w) fun _ w' => Kept env strict w₀ w' := by
  have hs := (h.inv.streamOk hcached).finalized revision
  have hput := h.inv.disk.put hs
  refine sat_bind (sat_putSinkStream hs.named (fun hstrict => hs.valid (hsound hstrict))
    (fun _ => h) (fun hstrict _ => h.refuse hstrict) h.crash (fun _ => ⟨hput,h.appended⟩) _) ?_
  rintro _ _ ⟨rfl,-⟩
  refine ⟨⟨{ hput with },?_⟩,h.appended,?_⟩
  · intro c r hc
    cases hc
  · exact fun hlanded => absurd hlanded (not_landed_deleteCachedStream _)

def Settled (w : World) : Prop :=
  ∀ c r, w.cached = some (c, r) → c.appendIntent.isSome → c.position ≤ 0

theorem keeps_finalize (hsound : strict → EnvSound env) (h : Inv env strict w)
    (hsettled : strict → Settled w) (request : FinalizeRequest) :
    Keeps env strict w (finalize env plan request w) fun _ w' => Kept env strict w w' := by
  have hstart := Kept.start h
  unfold finalize
  refine sat_except hstart fun _ hvalid => ?_
  refine sat_except hstart fun _ _ => ?_
  refine sat_io hstart hstart.crash ?_
  refine sat_bind (keeps_getStream hsound h (safe_of_validateResource hvalid)) ?_
  rintro s w₁ ⟨h₁,hcached₁,hsource⟩
  refine sat_bind (Q := fun a w' => Kept env strict w w' ∧
    w'.cached = some (a, request.resource)) ?_ ?_
  · refine sat_ite (fun hposition => ?_) fun _ => ⟨h₁.kept,hcached₁⟩
    have hidle : strict → s.appendIntent = none := by
      intro hstrict
      rcases hsource with hcached | hnone
      · obtain hnone | ⟨i,hi⟩ := eq_none_or_eq_some s.appendIntent
        · exact hnone
        · have hle := hsettled hstrict s _ hcached (by rw [hi]; rfl)
          omega
      · exact hnone
    refine (keeps_closeGeneration hsound h₁ hposition hidle).post ?_
    rintro closed w₂ ⟨h₂,hcached₂,-⟩
    exact ⟨h₂.kept,hcached₂⟩
  rintro closed w₂ ⟨h₂,hcached₂⟩
  refine sat_skip (keeps_verifyClosedObjects h₂ _ _ _) fun _ => ?_
  refine sat_guard h₂ fun _ => ?_
  refine sat_except h₂ fun raw _ => ?_
  refine sat_bind (keeps_publishMarker h₂ _ raw) ?_
  rintro _ _ ⟨markers,rfl⟩
  exact keeps_recordFinalized hsound (h₂.setMarkers markers) hcached₂ _

end Programs

end OpenSandbox.NodeAgent.OssSink
