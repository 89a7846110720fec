import OpenSandbox.Egress.Vault.Store

namespace OpenSandbox.Vault

open GoText

structure InjectionHeader where
  name : String
  value : String
  deriving DecidableEq

structure InjectionSubstitution where
  placeholder : String
  value : String
  surfaces : List String
  deriving DecidableEq

structure ActiveBinding where
  name : String
  matching : Match
  headers : List InjectionHeader
  substitutions : List InjectionSubstitution
  deriving DecidableEq

structure ActiveSnapshot where
  revision : BitVec 64
  bindings : List ActiveBinding
  redactions : List String

inductive SnapshotError where
  | notFound
  | unknownCredential (name : String)
  | unsupportedAuthType (type : String)
  | resolve (reason : String)
  deriving DecidableEq

def upperHex (n : Nat) : Char := if n < 10 then Char.ofNat (48 + n) else Char.ofNat (55 + n)

def isUnreserved (b : UInt8) : Bool :=
  let c := Char.ofNat b.toNat
  isAlnum c || ('A' ≤ c && c ≤ 'Z') || c = '-' || c = '_' || c = '.' || c = '~'

def escapeByte (b : UInt8) : List Char :=
  if isUnreserved b then [Char.ofNat b.toNat]
  else if b = 32 then ['+']
  else ['%',upperHex (b.toNat / 16),upperHex (b.toNat % 16)]

def queryEscape (value : String) : String :=
  String.ofList (value.toList.flatMap fun c => (String.utf8EncodeChar c).flatMap escapeByte)

def plusToPercent (value : String) : String :=
  String.ofList (value.toList.flatMap fun c => if c = '+' then ['%','2','0'] else [c])

def isHexDigit (c : Char) : Bool :=
  ('0' ≤ c && c ≤ '9') || ('a' ≤ c && c ≤ 'f') || ('A' ≤ c && c ≤ 'F')

def lowerHexByte (c : Char) : Char :=
  if 'A' ≤ c ∧ c ≤ 'F' then Char.ofNat (c.toNat + 32) else c

def lowercaseEscapes : List Char → List Char
  | '%' :: a :: b :: rest =>
      if isHexDigit a && isHexDigit b then
        '%' :: lowerHexByte a :: lowerHexByte b :: lowercaseEscapes rest
      else '%' :: lowercaseEscapes (a :: b :: rest)
  | c :: rest => c :: lowercaseEscapes rest
  | [] => []

def lowercasePercentEscapes (value : String) : String :=
  String.ofList (lowercaseEscapes value.toList)

def jsonASCIIRune (c : Char) : List Char :=
  if c = '\\' then ['\\','\\']
  else if c = '"' then ['\\','"']
  else if c.toNat = 8 then ['\\','b']
  else if c.toNat = 12 then ['\\','f']
  else if c = '\n' then ['\\','n']
  else if c = '\r' then ['\\','r']
  else if c = '\t' then ['\\','t']
  else if c.toNat < 0x20 then GoJson.escapeCode c.toNat
  else if c.toNat < 0x80 then [c]
  else if c.toNat ≤ 0xFFFF then GoJson.escapeCode c.toNat
  else
    let v := c.toNat - 0x10000
    GoJson.escapeCode (0xD800 + v / 1024) ++ GoJson.escapeCode (0xDC00 + v % 1024)

def jsonASCIIEncodedStringContent (value : String) : String :=
  String.ofList (value.toList.flatMap jsonASCIIRune)

def jsonEncodedStringContent (value : String) : String :=
  String.ofList (value.toList.flatMap GoJson.escapeRune)

def substitutionRedactionVariants (value : String) : List String :=
  let formEncoded := queryEscape value
  let urlEncoded := plusToPercent formEncoded
  [value,urlEncoded,lowercasePercentEscapes urlEncoded,formEncoded,
    lowercasePercentEscapes formEncoded,jsonEncodedStringContent value,
    jsonASCIIEncodedStringContent value]

section Render

variable {Ctx Src : Type} (sources : Sources Ctx Src) (ctx : Ctx)

def resolveCredentialValue (credentials : GoMap (Record Src)) (name : String) :
    Except SnapshotError String :=
  match credentials.lookup name with
  | none => .error (.unknownCredential name)
  | some c =>
      match sources.resolve ctx c.source with
      | .error reason => .error (.resolve reason)
      | .ok value => .ok value

abbrev Rendered (α : Type) := List α × List String

def renderEach {α β : Type} (credentials : GoMap (Record Src)) (ref : α → String)
    (render : α → String → β × List String) : List α → Except SnapshotError (Rendered β)
  | [] => .ok ([], [])
  | a :: rest => do
      let value ← resolveCredentialValue sources ctx credentials (ref a)
      let (out, redactions) ← renderEach credentials ref render rest
      return ((render a value).1 :: out, (render a value).2 ++ redactions)

def renderAuthorization (credentials : GoMap (Record Src)) (scheme : String) (auth : Auth) :
    Except SnapshotError (Rendered InjectionHeader) := do
  let value ← resolveCredentialValue sources ctx credentials auth.credential
  let rendered := scheme ++ value
  return ([⟨"Authorization",rendered⟩], [value,rendered])

def renderInjectionHeaders (credentials : GoMap (Record Src)) (auth : Auth) :
    Except SnapshotError (Rendered InjectionHeader) :=
  if auth.type = "bearer" then renderAuthorization sources ctx credentials "Bearer " auth
  else if auth.type = "basic" then renderAuthorization sources ctx credentials "Basic " auth
  else if auth.type = "apiKey" then do
    let value ← resolveCredentialValue sources ctx credentials auth.credential
    return ([⟨auth.name,value⟩], [value])
  else if auth.type = "customHeaders" then
    renderEach sources ctx credentials (·.credential) (fun h value => (⟨h.name,value⟩, [value]))
      auth.headers
  else if auth.type = "passthrough" then .ok ([], [])
  else .error (.unsupportedAuthType auth.type)

def renderSubstitutions (credentials : GoMap (Record Src)) (auth : Auth) :
    Except SnapshotError (Rendered InjectionSubstitution) :=
  renderEach sources ctx credentials (·.credential)
    (fun s value =>
      (⟨s.placeholder,value,s.surfaces⟩, s.placeholder :: substitutionRedactionVariants value))
    auth.substitutions

def renderBinding (credentials : GoMap (Record Src)) (b : Binding) :
    Except SnapshotError (ActiveBinding × List String) := do
  let (headers, values) ← renderInjectionHeaders sources ctx credentials b.auth
  let (substitutions, substitutionValues) ← renderSubstitutions sources ctx credentials b.auth
  return (⟨b.name,b.matching,headers,substitutions⟩, values ++ substitutionValues)

def redactionBefore (a b : String) : Prop :=
  if a.utf8ByteSize ≠ b.utf8ByteSize then b.utf8ByteSize < a.utf8ByteSize else a ≤ b

instance : DecidableRel redactionBefore := fun a b => by
  unfold redactionBefore
  infer_instance

def sortRedactions (values : List String) : List String :=
  ((values.filter (· ≠ "")).eraseDups).insertionSort redactionBefore

def sortedBindings (bindings : GoMap Binding) : List Binding :=
  (bindings.keys.insertionSort (· ≤ ·)).filterMap bindings.lookup

def Store.activeSnapshot (s : Store Src) : Except SnapshotError ActiveSnapshot :=
  if s.present = false then .error .notFound
  else do
    let rendered ← (sortedBindings s.bindings).mapM (renderBinding sources ctx s.credentials)
    return ⟨s.revision,rendered.map (·.1),sortRedactions (rendered.flatMap (·.2))⟩

end Render

end OpenSandbox.Vault
