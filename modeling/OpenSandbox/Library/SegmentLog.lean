import Mathlib.Tactic

namespace SegmentLog

open List

variable {β : Type}

def content (log : List (Nat × List β)) (segment : Nat) : List β :=
  (log.filter fun entry => entry.1 = segment).flatMap (·.2)

theorem content_append_same (log : List (Nat × List β)) (segment : Nat) (data : List β) :
    content (log ++ [(segment, data)]) segment = content log segment ++ data := by
  simp [content,filter_append,flatMap_append]

theorem content_append_other (log : List (Nat × List β)) {segment other : Nat}
    (h : segment ≠ other) (data : List β) :
    content (log ++ [(segment, data)]) other = content log other := by
  simp [content,filter_append,h]

theorem content_eq_nil {log : List (Nat × List β)} {segment : Nat}
    (h : ∀ entry ∈ log, entry.1 < segment) : content log segment = [] := by
  have hfilter : (log.filter fun entry => entry.1 = segment) = [] := by
    rw [filter_eq_nil_iff]
    intro entry hentry
    simpa using (h entry hentry).ne
  rw [content,hfilter]
  rfl

end SegmentLog
