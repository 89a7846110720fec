import OpenSandbox.NodeAgent.Pipeline.Routes

namespace OpenSandbox.NodeAgent.Pipeline

open List

def Phase.exit? : Phase → Option Exit
  | .draining x _ | .reporting x | .closing x | .clearing x | .stopped x => some x
  | _ => none

def Entry.consumed : Entry → List Admitted
  | .consume _ batch => batch
  | _ => []

def Entry.acked : Entry → List Admitted
  | .acknowledged _ batch => batch
  | _ => []

namespace Worker

def consumed (w : Worker) : List Admitted := w.calls.flatMap Entry.consumed

def acked (w : Worker) : List Admitted := w.calls.flatMap Entry.acked

def Reads (w : Worker) (read : List Admitted) : Prop :=
  w.sent = read ++ w.input ∨ w.inputClosed = true ∧ w.input = [] ∧ read <+: w.sent

def EndsAfter (w : Worker) (e : StreamEnd) (position : Nat) : Prop :=
  ∃ x, w.sent = w.consumed ++ [x] ∧ x.event = .ended e ∧ x.position = position

def Tail (w : Worker) : Next → Prop
  | .looping => w.Reads w.consumed
  | .ending e => w.input = [] ∧ w.EndsAfter e w.endPosition
  | .returning => w.inputClosed = true ∧ w.consumed <+: w.sent

def Left (w : Worker) : Exit → Prop
  | .returned => w.acked = w.consumed ∧
      ((∃ e p, w.EndsAfter e p) ∨ w.inputClosed = true ∧ w.consumed <+: w.sent)
  | _ => w.consumed <+: w.sent

def Finishes (w : Worker) (e : StreamEnd) : Prop :=
  w.acked = w.consumed ∧ w.input = [] ∧ w.EndsAfter e w.endPosition

def Shape (w : Worker) : Prop :=
  match w.phase with
  | .waiting => w.calls = [] ∧ w.items = [] ∧ w.Reads []
  | .idle => w.acked = w.consumed ∧ w.Reads (w.consumed ++ w.items)
  | .consuming next | .acknowledging next => w.acked ++ w.items = w.consumed ∧ w.Tail next
  | .releasing _ next => w.acked = w.consumed ∧ w.items = [] ∧ w.Tail next
  | .loadingIntent e | .finalizing e _ | .recordingSink e _ | .endingSource e _
  | .recordingSource e _ => w.Finishes e
  | .draining x _ | .reporting x | .closing x | .clearing x | .stopped x => w.Left x

structure Tidy (w : Worker) : Prop where
  small : w.input.length ≤ 1
  plain : ∀ a ∈ w.consumed ++ w.items, State.isEnd a.event = false

structure Sound (w : Worker) : Prop where
  shape : w.Shape
  tidy : w.Tidy

end Worker

def Effect.advanced (e : Effect) : Worker :=
  { e.worker with calls := e.worker.calls ++ e.logged }

namespace Worker

variable {w : Worker}

theorem Reads.prefix_sent {read : List Admitted} (h : w.Reads read) : read <+: w.sent := by
  rcases h with h | ⟨-,-,h⟩
  · rw [h]
    exact prefix_append _ _
  · exact h

variable {e : StreamEnd}

theorem EndsAfter.prefix_sent {p : Nat} (h : w.EndsAfter e p) : w.consumed <+: w.sent := by
  obtain ⟨x,hx,-,-⟩ := h
  rw [hx]
  exact prefix_append _ _

variable {next : Next}

theorem Tail.prefix_sent (h : w.Tail next) : w.consumed <+: w.sent := by
  cases next with
  | looping => exact Reads.prefix_sent h
  | ending e => exact h.2.prefix_sent
  | returning => exact h.2

theorem consumed_fallible (h : w.Shape) (hfallible : fallible w.phase = true) :
    w.consumed <+: w.sent := by
  cases hphase : w.phase <;> simp only [Shape,hphase] at h <;> rw [hphase] at hfallible
  case consuming | acknowledging => exact h.2.prefix_sent
  case loadingIntent | finalizing | recordingSink | endingSource | recordingSource =>
    exact h.2.2.prefix_sent
  all_goals cases hfallible

theorem advanced_quietly (w : Worker) : w.quietly.advanced = w := by
  simp only [Effect.advanced,quietly,append_nil]

theorem sound_exit (h : w.Tidy) (x : Exit) (hleft : w.Left x) : (w.exit x).advanced.Sound := by
  rw [exit,advanced_quietly]
  exact ⟨hleft,h.small,h.plain⟩

theorem sound_proceed (h : w.Tidy) (next : Next) (hacked : w.acked = w.consumed)
    (hitems : w.items = []) (htail : w.Tail next) : (w.proceed next).advanced.Sound := by
  cases next with
  | looping =>
    rw [proceed,advanced_quietly]
    refine ⟨⟨hacked,?_⟩,h.small,h.plain⟩
    change w.Reads (w.consumed ++ w.items)
    rwa [hitems,append_nil]
  | ending e =>
    rw [proceed,advanced_quietly]
    exact ⟨⟨hacked,htail.1,htail.2⟩,h.small,h.plain⟩
  | returning => exact sound_exit h .returned ⟨hacked,.inr htail⟩

theorem consumed_flush (w : Worker) (next : Next) :
    (w.flush next).advanced.consumed = w.consumed ++ w.items := by
  simp [Effect.advanced,flush,quietly,consumed,Entry.consumed]

theorem acked_flush (w : Worker) (next : Next) : (w.flush next).advanced.acked = w.acked := by
  simp [Effect.advanced,flush,quietly,acked,Entry.acked]

theorem sound_flush (h : w.Tidy) (next : Next) (hacked : w.acked = w.consumed)
    (htail : (w.flush next).advanced.Tail next) : (w.flush next).advanced.Sound := by
  refine ⟨⟨?_,htail⟩,h.small,?_⟩
  · rw [acked_flush,consumed_flush,hacked]
    rfl
  rw [consumed_flush]
  exact forall_mem_append.mpr ⟨h.plain,fun a ha => h.plain a (mem_append_right _ ha)⟩

theorem tail_looping (h : w.Reads (w.consumed ++ w.items)) :
    (w.flush .looping).advanced.Tail .looping := by
  change Reads _ (w.flush .looping).advanced.consumed
  rwa [consumed_flush]

theorem tail_flush (h : w.Reads (w.consumed ++ w.items)) (hready : w.Ready next) :
    (w.flush next).advanced.Tail next := by
  rcases hready with rfl | ⟨rfl,hclosed⟩
  · exact tail_looping h
  · refine ⟨hclosed,?_⟩
    rw [consumed_flush]
    exact h.prefix_sent

theorem tail_proceed (h : w.Reads w.consumed) (hready : w.Ready next) : w.Tail next := by
  rcases hready with rfl | ⟨rfl,hclosed⟩
  · exact h
  · exact ⟨hclosed, h.prefix_sent⟩

theorem Sound.taken {a : Admitted} {rest : List Admitted} (h : w.Sound) (hphase : w.phase = .idle)
    (hinput : w.input = a :: rest) :
    w.acked = w.consumed ∧ rest = [] ∧ w.sent = w.consumed ++ w.items ++ [a] := by
  have hshape := h.shape
  simp only [Shape,hphase] at hshape
  obtain ⟨hacked,hreads⟩ := hshape
  have hrest : rest = [] := by
    have hsmall := h.tidy.small
    rw [hinput] at hsmall
    exact length_eq_zero_iff.mp (by simpa using hsmall)
  refine ⟨hacked,hrest,?_⟩
  rcases hreads with hreads | ⟨-,hempty,-⟩
  · rw [hreads,hinput,hrest]
  · rw [hempty] at hinput
    cases hinput

theorem Tidy.queued {a : Admitted} {d : Delivery} (h : w.Tidy) (hevent : a.event = .delivery d) :
    Tidy { w with input := [], items := w.items ++ [a] } := by
  refine ⟨Nat.zero_le 1,?_⟩
  change ∀ b ∈ w.consumed ++ (w.items ++ [a]), State.isEnd b.event = false
  rw [← append_assoc]
  refine forall_mem_append.mpr ⟨h.plain,forall_mem_singleton.mpr ?_⟩
  rw [hevent]
  rfl

theorem reads_queued {a : Admitted} (hsent : w.sent = w.consumed ++ w.items ++ [a]) :
    Reads { w with input := [], items := w.items ++ [a] } (w.consumed ++ (w.items ++ [a])) :=
  .inl (by simp [hsent])

theorem consumed_quiet {e : Effect} (h : ∀ entry ∈ e.logged, entry.consumed = []) :
    e.advanced.consumed = e.worker.consumed := by
  have hnone : e.logged.flatMap Entry.consumed = [] := flatMap_eq_nil_iff.mpr h
  simp only [consumed,Effect.advanced,flatMap_append,hnone,append_nil]

theorem acked_quiet {e : Effect} (h : ∀ entry ∈ e.logged, entry.acked = []) :
    e.advanced.acked = e.worker.acked := by
  have hnone : e.logged.flatMap Entry.acked = [] := flatMap_eq_nil_iff.mpr h
  simp only [acked,Effect.advanced,flatMap_append,hnone,append_nil]

structure Marks (w : Worker) (e : StreamEnd) (f : Effect) : Prop where
  fixed : Fixed w f.worker
  input : f.worker.input = w.input
  items : f.worker.items = w.items
  position : f.worker.endPosition = w.endPosition
  consumed : ∀ entry ∈ f.logged, entry.consumed = []
  acked : ∀ entry ∈ f.logged, entry.acked = []
  phase : (∃ intent, f.worker.phase = .finalizing e intent ∨
      f.worker.phase = .recordingSink e intent ∨ f.worker.phase = .endingSource e intent ∨
      f.worker.phase = .recordingSource e intent) ∨
    ∃ x, f.worker.phase = .draining x none

variable {f : Effect}

theorem Marks.sound (h : w.Tidy) (hw : w.Finishes e) (hmarks : Marks w e f) : f.advanced.Sound := by
  have hconsumed : f.advanced.consumed = w.consumed := by
    rw [consumed_quiet hmarks.consumed]
    simp only [Worker.consumed,hmarks.fixed.calls]
  have hacked : f.advanced.acked = w.acked := by
    rw [acked_quiet hmarks.acked]
    simp only [Worker.acked,hmarks.fixed.calls]
  have hsent : f.advanced.sent = w.sent := hmarks.fixed.sent
  have hinput : f.advanced.input = w.input := hmarks.input
  have hends (p : Nat) : f.advanced.EndsAfter e p ↔ w.EndsAfter e p := by
    rw [EndsAfter,EndsAfter,hsent,hconsumed]
  have hfinishes : f.advanced.Finishes e := by
    refine ⟨by rw [hacked,hconsumed]; exact hw.1,by rw [hinput]; exact hw.2.1,?_⟩
    rw [hends]
    have hposition : f.advanced.endPosition = w.endPosition := hmarks.position
    rw [hposition]
    exact hw.2.2
  refine ⟨?_,by rw [hinput]; exact h.small,?_⟩
  · rcases hmarks.phase with ⟨intent,hphase⟩ | ⟨x,hphase⟩
    · have hphase : f.advanced.phase = .finalizing e intent ∨
        f.advanced.phase = .recordingSink e intent ∨ f.advanced.phase = .endingSource e intent ∨
        f.advanced.phase = .recordingSource e intent := hphase
      rcases hphase with hphase | hphase | hphase | hphase <;> simp only [Shape,hphase] <;>
        exact hfinishes
    · have hphase : f.advanced.phase = .draining x none := hphase
      simp only [Shape,hphase]
      cases x with
      | returned => exact ⟨hfinishes.1,.inl ⟨e,_,hfinishes.2.2⟩⟩
      | cancelled | failed => exact hfinishes.2.2.prefix_sent
  · have hitems : f.advanced.items = w.items := hmarks.items
    rw [hconsumed,hitems]
    exact h.plain

variable {cfg : Config} {v : View}

theorem Resumes.finishes {intent : FinalizeIntent} {put : Option FinalizeIntent}
    (h : Resumes cfg v w e intent put) (hshape : w.Shape) : w.Finishes e := by
  cases h with
  | fresh _ hphase | stored _ hphase | recorded _ hphase =>
    simp only [Shape,hphase] at hshape
    exact hshape

variable {w' : Worker}

theorem Tail.congr (h : w.Tail next) (hconsumed : w'.consumed = w.consumed)
    (hfixed : w'.sent = w.sent) (hclosed : w'.inputClosed = w.inputClosed)
    (hinput : w'.input = w.input) (hposition : w'.endPosition = w.endPosition) : w'.Tail next := by
  cases next <;>
    simpa only [Tail,Reads,EndsAfter,hconsumed,hfixed,hclosed,hinput,hposition] using h

theorem sound_acknowledged (h : w.Tidy) (hacked : w.acked ++ w.items = w.consumed)
    (htail : w.Tail next) :
    Sound { w with
      phase := .releasing w.items next
      items := []
      calls := w.calls ++ [.acknowledged w.stream w.items] } := by
  have hconsumed : Worker.consumed { w with
      phase := .releasing w.items next
      items := []
      calls := w.calls ++ [.acknowledged w.stream w.items] } = w.consumed := by
    simp [consumed,Entry.consumed]
  refine ⟨⟨?_,rfl,htail.congr hconsumed rfl rfl rfl rfl⟩,h.small,?_⟩
  · rw [hconsumed,← hacked]
    simp [acked,Entry.acked]
  · rw [hconsumed]
    intro a ha
    exact h.plain a (mem_append_left _ (by simpa using ha))

variable {x : Exit}

theorem Left.congr (h : w.Left x) (hcalls : w'.calls = w.calls) (hsent : w'.sent = w.sent)
    (hclosed : w'.inputClosed = w.inputClosed) : w'.Left x := by
  cases x <;> simpa only [Left,EndsAfter,consumed,acked,hcalls,hsent,hclosed] using h

theorem shape_exit (h : w.phase.exit? = some x) : w.Shape ↔ w.Left x := by
  unfold Shape
  cases hphase : w.phase <;> rw [hphase] at h <;> cases h <;> exact Iff.rfl

theorem Sound.left (h : w.Sound) (hw : w.phase.exit? = some x) (hw' : w'.phase.exit? = some x)
    (hfixed : Fixed w w') (hinput : w'.input.length ≤ w.input.length)
    (hitems : w'.items ⊆ w.items) : w'.Sound := by
  have hconsumed : w'.consumed = w.consumed := by rw [consumed,consumed,hfixed.calls]
  refine ⟨?_,hinput.trans h.tidy.small,?_⟩
  · rw [shape_exit hw']
    exact ((shape_exit hw).mp h.shape).congr hfixed.calls hfixed.sent hfixed.inputClosed
  rw [hconsumed]
  exact forall_mem_append.mpr ⟨fun a ha => h.tidy.plain a (mem_append_left _ ha),
    fun a ha => h.tidy.plain a (mem_append_right _ (hitems ha))⟩

theorem advanced_silent (h : f.logged = []) : f.advanced = f.worker := by
  rw [Effect.advanced,h,append_nil]

theorem Turn.sound {op : WorkerOp} (h : w.Sound) (hturn : w.Turn cfg v op f) :
    f.advanced.Sound := by
  have hshape := h.shape
  have hfixed := hturn.fixed
  cases hturn.change with
  | started hphase =>
    simp only [Shape,hphase] at hshape
    obtain ⟨hcalls,hitems,hreads⟩ := hshape
    rw [advanced_quietly]
    refine ⟨⟨?_,?_⟩,h.tidy.small,h.tidy.plain⟩
    · simp [acked,consumed,hcalls]
    · change w.Reads (w.consumed ++ w.items)
      rwa [hitems,consumed,hcalls]
  | unstarted hphase =>
    simp only [Shape,hphase] at hshape
    refine sound_exit h.tidy .cancelled ?_
    simp [Left,consumed,hshape.1]
  | interrupted hphase =>
    simp only [Shape,hphase] at hshape
    refine sound_exit h.tidy .cancelled ?_
    exact (prefix_append _ _).trans hshape.2.prefix_sent
  | flushed next hphase hready =>
    simp only [Shape,hphase] at hshape
    exact sound_flush h.tidy next hshape.1 (tail_flush hshape.2 hready)
  | proceeded next hphase =>
    rcases hphase with ⟨hphase,hitems,hready⟩ | hphase <;> simp only [Shape,hphase] at hshape
    · rw [hitems,append_nil] at hshape
      exact sound_proceed h.tidy next hshape.1 hitems (tail_proceed hshape.2 hready)
    · exact sound_proceed h.tidy next hshape.1 hshape.2.1 hshape.2.2
  | queued a rest d hphase hinput hevent =>
    obtain ⟨hacked,rfl,hsent⟩ := h.taken hphase hinput
    rw [advanced_quietly]
    refine ⟨?_,h.tidy.queued hevent⟩
    simp only [Shape,hphase]
    exact ⟨hacked,reads_queued hsent⟩
  | filled a rest d hphase hinput hevent =>
    obtain ⟨hacked,rfl,hsent⟩ := h.taken hphase hinput
    exact sound_flush (h.tidy.queued hevent) .looping hacked (tail_looping (reads_queued hsent))
  | endFlushed a rest e hphase hinput hevent =>
    obtain ⟨hacked,rfl,hsent⟩ := h.taken hphase hinput
    have htidy : Tidy { w with input := [], endPosition := a.position } :=
      ⟨Nat.zero_le 1,h.tidy.plain⟩
    refine sound_flush htidy (.ending e) hacked ⟨rfl,a,?_,hevent,rfl⟩
    rwa [consumed_flush]
  | endTaken a rest e hphase hinput hevent hitems =>
    obtain ⟨hacked,rfl,hsent⟩ := h.taken hphase hinput
    rw [hitems,append_nil] at hsent
    have htidy : Tidy { w with input := [], endPosition := a.position } :=
      ⟨Nat.zero_le 1,h.tidy.plain⟩
    exact sound_proceed htidy (.ending e) hacked hitems ⟨rfl,a,hsent,hevent,rfl⟩
  | retried =>
    rwa [advanced_quietly]
  | consumed next hphase | released a left next hphase =>
    simp only [Shape,hphase] at hshape
    rw [advanced_silent rfl]
    exact ⟨hshape,h.tidy.small,h.tidy.plain⟩
  | acknowledged next hphase =>
    simp only [Shape,hphase] at hshape
    exact sound_acknowledged h.tidy hshape.1 hshape.2
  | finalized e intent hphase =>
    simp only [Shape,hphase] at hshape
    exact Marks.sound h.tidy hshape ⟨hfixed,rfl,rfl,rfl,forall_mem_singleton.mpr rfl,
      forall_mem_singleton.mpr rfl,.inl ⟨_,.inr (.inl rfl)⟩⟩
  | endAcknowledged e intent hphase =>
    simp only [Shape,hphase] at hshape
    exact Marks.sound h.tidy hshape ⟨hfixed,rfl,rfl,rfl,forall_mem_singleton.mpr rfl,
      forall_mem_singleton.mpr rfl,.inl ⟨_,.inr (.inr (.inr rfl))⟩⟩
  | sinkCalled e intent put hr =>
    exact Marks.sound h.tidy (hr.finishes hshape) ⟨hfixed,rfl,rfl,rfl,
      forall_mem_singleton.mpr rfl,forall_mem_singleton.mpr rfl,.inl ⟨intent,.inl rfl⟩⟩
  | sourceCalled e intent put hr =>
    exact Marks.sound h.tidy (hr.finishes hshape) ⟨hfixed,rfl,rfl,rfl,forall_mem_nil _,
      forall_mem_nil _,.inl ⟨intent,.inr (.inr (.inl rfl))⟩⟩
  | resumedDone e intent put hr =>
    exact Marks.sound h.tidy (hr.finishes hshape) ⟨hfixed,rfl,rfl,rfl,forall_mem_nil _,
      forall_mem_nil _,.inr ⟨.returned,rfl⟩⟩
  | recordedDone e intent hphase =>
    simp only [Shape,hphase] at hshape
    exact Marks.sound h.tidy hshape ⟨hfixed,rfl,rfl,rfl,forall_mem_nil _,forall_mem_nil _,
      .inr ⟨.returned,rfl⟩⟩
  | gaveUp x hfallible hx =>
    refine sound_exit h.tidy x ?_
    have hprefix := consumed_fallible hshape hfallible
    cases x with
    | returned => exact absurd rfl hx
    | cancelled | failed => exact hprefix
  | itemDrained x a items hphase hitems =>
    have hexit : w.phase.exit? = some x := by rw [hphase]; rfl
    rw [advanced_silent rfl]
    refine h.left hexit hexit hfixed le_rfl ?_
    rw [hitems]
    exact subset_cons_self _ _
  | inputPicked x a rest hphase hitems hinput =>
    rw [advanced_silent rfl]
    refine h.left (by rw [hphase]; rfl) rfl hfixed ?_ (List.Subset.refl _)
    rw [hinput]
    exact Nat.le_succ _
  | inputDrained x a hphase | drained x hphase | reported x hphase | closedDone x hphase
  | cleared x hphase =>
    rw [advanced_silent rfl]
    exact h.left (by rw [hphase]; rfl) rfl hfixed le_rfl (List.Subset.refl _)

theorem shape_mono (h : w.Shape) (hphase : w'.phase = w.phase) (hcalls : w'.calls = w.calls)
    (hitems : w'.items = w.items) (hreads : ∀ read, w.Reads read → w'.Reads read)
    (hends : ∀ e, w.input = [] ∧ w.EndsAfter e w.endPosition →
      w'.input = [] ∧ w'.EndsAfter e w'.endPosition) (hleft : ∀ x, w.Left x → w'.Left x)
    (hreturns : w.inputClosed = true ∧ w.consumed <+: w.sent →
      w'.inputClosed = true ∧ w'.consumed <+: w'.sent) : w'.Shape := by
  have hconsumed : w'.consumed = w.consumed := by rw [consumed,consumed,hcalls]
  have hacked : w'.acked = w.acked := by rw [acked,acked,hcalls]
  have htail (next : Next) : w.Tail next → w'.Tail next := by
    cases next with
    | looping =>
      intro htail
      change w'.Reads w'.consumed
      rw [hconsumed]
      exact hreads _ htail
    | ending e => exact hends e
    | returning => exact hreturns
  have hfinishes (e : StreamEnd) : w.Finishes e → w'.Finishes e := by
    rintro ⟨hac,hinput,hafter⟩
    exact ⟨by rw [hacked,hconsumed]; exact hac,hends e ⟨hinput,hafter⟩⟩
  unfold Shape at h ⊢
  rw [hphase]
  cases hwphase : w.phase <;> simp only [hwphase] at h ⊢
  case waiting => exact ⟨by rw [hcalls]; exact h.1,by rw [hitems]; exact h.2.1,hreads _ h.2.2⟩
  case idle =>
    rw [hacked,hconsumed,hitems]
    exact ⟨h.1,hreads _ h.2⟩
  case consuming next | acknowledging next =>
    rw [hacked,hconsumed,hitems]
    exact ⟨h.1,htail next h.2⟩
  case releasing left next =>
    rw [hacked,hconsumed,hitems]
    exact ⟨h.1,h.2.1,htail next h.2.2⟩
  case loadingIntent e | finalizing e _ | recordingSink e _ | endingSource e _
    | recordingSource e _ => exact hfinishes e h
  all_goals exact hleft _ h

theorem Sound.close (h : w.Sound) : Sound { w with inputClosed := true } := by
  refine ⟨shape_mono h.shape rfl rfl rfl ?_ ?_ ?_ ?_,h.tidy.small,h.tidy.plain⟩
  · rintro read (hread | ⟨-,hinput,hread⟩)
    · exact .inl hread
    · exact .inr ⟨rfl,hinput,hread⟩
  · exact fun e he => he
  · intro x hx
    cases x with
    | returned => exact ⟨hx.1,hx.2.imp_right fun hclosed => ⟨rfl,hclosed.2⟩⟩
    | cancelled | failed => exact hx
  · exact fun hreturns => ⟨rfl,hreturns.2⟩

theorem Sound.takeInput {a : Admitted} {rest : List Admitted} (h : w.Sound)
    (hclosed : w.inputClosed = true) (hinput : w.input = a :: rest) :
    Sound { w with input := rest } := by
  have hrest : rest = [] := by
    have hsmall := h.tidy.small
    rw [hinput] at hsmall
    exact length_eq_zero_iff.mp (by simpa using hsmall)
  subst hrest
  refine ⟨shape_mono h.shape rfl rfl rfl ?_ ?_ ?_ ?_,Nat.zero_le 1,h.tidy.plain⟩
  · intro read hread
    exact .inr ⟨hclosed,rfl, hread.prefix_sent⟩
  · rintro e ⟨hempty,-⟩
    rw [hempty] at hinput
    cases hinput
  · intro x hx
    exact hx.congr rfl rfl rfl
  · exact fun hreturns => hreturns

theorem Sound.send (h : w.Sound) (hinput : w.input = []) (hopen : w.inputClosed = false)
    (hends : ∀ x ∈ w.sent, State.isEnd x.event = false) (a : Admitted) :
    Sound { w with input := w.input ++ [a], sent := w.sent ++ [a] } := by
  have hopened {P : Prop} (hclosed : w.inputClosed = true) : P := by
    rw [hopen] at hclosed
    cases hclosed
  have hnotEnd {e : StreamEnd} {p : Nat} {P : Prop} (hafter : w.EndsAfter e p) : P := by
    obtain ⟨x,hsent,hevent,-⟩ := hafter
    have hx := hends x (by rw [hsent]; simp)
    rw [hevent] at hx
    cases hx
  refine ⟨shape_mono h.shape rfl rfl rfl ?_ ?_ ?_ ?_,by rw [hinput]; exact le_rfl,h.tidy.plain⟩
  · rintro read (hread | ⟨hclosed,-,-⟩)
    · refine .inl ?_
      rw [hread,append_assoc]
    · exact hopened hclosed
  · exact fun e he => hnotEnd he.2
  · intro x hx
    cases x with
    | returned =>
      rcases hx.2 with ⟨e,p,hafter⟩ | ⟨hclosed,-⟩
      · exact hnotEnd hafter
      · exact hopened hclosed
    | cancelled | failed => exact hx.trans (prefix_append _ _)
  · exact fun hreturns => hopened hreturns.1

end Worker

end OpenSandbox.NodeAgent.Pipeline
