import OpenSandbox.Egress.Registry

namespace OpenSandbox.Fleetnft

open Registry List String

def sanitizeRune (r : Char) : Char :=
  if ('a' ≤ r ∧ r ≤ 'z') ∨ ('0' ≤ r ∧ r ≤ '9') ∨ r = '_' then r else '_'

def sanitize (id : String) : String :=
  String.ofList ((GoText.toLower id).toList.map sanitizeRune)

def subjectChain (s : Subject) : String := "subj_" ++ sanitize s.name

inductive Family where
  | v4
  | v6
  deriving DecidableEq

def Family.text : Family → String
  | .v4 => "v4"
  | .v6 => "v6"

inductive SetKind where
  | allow
  | deny
  | dyn
  deriving DecidableEq

def SetKind.text : SetKind → String
  | .allow => "_allow_"
  | .deny => "_deny_"
  | .dyn => "_dyn_"

def setName (kind : SetKind) (s : Subject) (fam : Family) : String :=
  subjectChain s ++ kind.text ++ fam.text

def allowSetName : Subject → Family → String := setName .allow
def denySetName : Subject → Family → String := setName .deny
def dynSetName : Subject → Family → String := setName .dyn

def staticSetNames (s : Subject) : List String :=
  [allowSetName s .v4,allowSetName s .v6,denySetName s .v4,denySetName s .v6]

def allSetNames (s : Subject) : List String :=
  staticSetNames s ++ [dynSetName s .v4,dynSetName s .v6]

def ipSetType (name : String) : Family := if "_v6".toList <:+ name.toList then .v6 else .v4

def suffix (kind : SetKind) (fam : Family) : String := kind.text ++ fam.text

theorem setName_eq (kind : SetKind) (s : Subject) (fam : Family) :
    setName kind s fam = subjectChain s ++ suffix kind fam := append_assoc

theorem suffix_tail (kind : SetKind) (fam : Family) (xs : List Char) :
    ((xs ++ (suffix kind fam).toList).reverse).take 4 =
      (suffix kind fam).toList.reverse.take 4 := by
  cases kind <;> cases fam <;> simp [suffix,SetKind.text,Family.text]

theorem suffix_inj {kind kind' : SetKind} {fam fam' : Family}
    (h : (suffix kind fam).toList.reverse.take 4 = (suffix kind' fam').toList.reverse.take 4) :
    kind = kind' ∧ fam = fam' := by
  revert h
  cases kind <;> cases kind' <;> cases fam <;> cases fam' <;> decide

theorem setName_inj {kind kind' : SetKind} {s s' : Subject} {fam fam' : Family}
    (h : setName kind s fam = setName kind' s' fam') :
    kind = kind' ∧ fam = fam' ∧ subjectChain s = subjectChain s' := by
  rw [setName_eq,setName_eq] at h
  have htail : ((subjectChain s).toList ++ (suffix kind fam).toList).reverse.take 4 =
      ((subjectChain s').toList ++ (suffix kind' fam').toList).reverse.take 4 := by
    rw [← toList_append,h,toList_append]
  rw [suffix_tail,suffix_tail] at htail
  obtain ⟨rfl,rfl⟩ := suffix_inj htail
  exact ⟨rfl,rfl,(String.append_left_inj _).mp h⟩

theorem mem_allSetNames {s : Subject} {name : String} :
    name ∈ allSetNames s ↔ ∃ kind fam, name = setName kind s fam := by
  constructor
  · intro h
    simp only [allSetNames,staticSetNames,cons_append,nil_append,mem_cons,not_mem_nil,or_false] at h
    rcases h with h | h | h | h | h | h <;> exact ⟨_,_,h⟩
  · rintro ⟨kind,fam,rfl⟩
    cases kind <;> cases fam <;> simp [allSetNames,staticSetNames,allowSetName,denySetName,
      dynSetName]

end OpenSandbox.Fleetnft
