import OpenSandbox.Ingress.Endpoint
import OpenSandbox.Library.Decimal
import OpenSandbox.Library.GoText

namespace OpenSandbox.Ingress

open List Decimal

def isBase36 (c : Char) : Bool := isDigit c || 'a' ≤ c && c ≤ 'z'

def isHex (c : Char) : Bool := isDigit c || 'a' ≤ c && c ≤ 'f'

def parseUint36 (s : List Char) : Option Nat :=
  let n := s.foldl (fun n c => 36 * n + (c.toNat - if isDigit c then 48 else 87)) 0
  if n < 2 ^ 64 then some n else none

def parseExpiresB36 (s : List Char) : Option Nat :=
  if s = [] ∨ 13 < s.length ∨ !s.all isBase36 then none
  else if 1 < s.length ∧ s.head? = some '0' then none
  else parseUint36 s

def validateSignatureFormat (s : List Char) : Bool :=
  s.length = 9 && (s.take 8).all isHex && (s.drop 8).all isBase36

def unsignedPart (s : List Char) : List Char :=
  if s.head? = some '-' ∨ s.head? = some '+' then s.tail else s

def atoi (s : List Char) : Option Int :=
  let digits := unsignedPart s
  if digits = [] ∨ !digits.all isDigit then none
  else
    let n : Int := if s.head? = some '-' then -value digits else value digits
    if -2 ^ 63 ≤ n ∧ n < 2 ^ 63 then some n else none

def parsePortSegment (s : List Char) : Option Int :=
  if 1 < s.length ∧ s.head? = some '0' then none
  else (atoi s).filter fun p => 1 ≤ p ∧ p ≤ 65535

structure ParsedRoute where
  sandboxID : List Char
  port : Int
  expiresB36 : List Char
  signature : List Char
  requestURI : List Char
  uriParsedAsOSEP : Bool

def splitN (sep : Char) : Nat → List Char → List (List Char)
  | 0, _ => []
  | 1, s => [s]
  | n + 2, s =>
    if sep ∈ s then
      s.takeWhile (· ≠ sep) :: splitN sep (n + 1) (s.dropWhile (· ≠ sep)).tail
    else [s]

def trimPrefix (pre s : List Char) : List Char :=
  if pre.isPrefixOf s then s.drop pre.length else s

def requestURI (rest : List (List Char)) : List Char := '/' :: rest.headD []

def parseURILegacy (path : List Char) : Option ParsedRoute :=
  match splitN '/' 3 (trimPrefix ['/'] path) with
  | id :: port :: rest =>
    if id = [] then none
    else (parsePortSegment port).map fun p => ⟨id,p,[],[],requestURI rest,false⟩
  | _ => none

def parseURIRoute (path : List Char) : Option ParsedRoute :=
  if path = [] then none
  else
    match splitN '/' 5 (trimPrefix ['/'] path) with
    | id :: port :: expires :: signature :: rest =>
      match parsePortSegment port with
      | some p =>
        if id ≠ [] ∧ (parseExpiresB36 expires).isSome ∧ validateSignatureFormat signature then
          some ⟨id,p,expires,signature,requestURI rest,true⟩
        else parseURILegacy path
      | none => parseURILegacy path
    | _ => parseURILegacy path

structure Request where
  path : List Char
  secureAccess : Option String

def EndpointInfo.accessVerificationRequired (info : EndpointInfo) : Bool :=
  info.secureAccessToken ≠ ""

def checkIngressSecureAccess (verify : Option (ParsedRoute → Bool)) (info : EndpointInfo)
    (header : Option String) (route : ParsedRoute) : Bool :=
  if !info.accessVerificationRequired then true
  else
    match header with
    | some token => GoText.trimSpace token = GoText.trimSpace info.secureAccessToken
    | none =>
      route.signature ≠ [] && GoText.trimSpace (String.ofList route.expiresB36) ≠ "" &&
        verify.any (· route)

structure SandboxHost where
  ingressKey : List Char
  port : Int
  endpoint : String
  requestURI : List Char

section

variable (provider : String → Except ProviderError EndpointInfo)
  (verify : Option (ParsedRoute → Bool)) (r : Request)

def doGetSandboxHostDefinition : Option SandboxHost :=
  (parseURIRoute r.path).bind fun route =>
    if route.sandboxID = [] ∨ route.port = 0 then none
    else
      (provider (String.ofList route.sandboxID)).toOption.bind fun info =>
        let reparsed := if !info.accessVerificationRequired && route.uriParsedAsOSEP then
            parseURILegacy r.path
          else some route
        reparsed.bind fun route =>
          if checkIngressSecureAccess verify info r.secureAccess route then
            some ⟨route.sandboxID,route.port,info.endpoint,route.requestURI⟩
          else none

def forwardedPath : Option (List Char) :=
  (doGetSandboxHostDefinition provider verify r).map fun host =>
    if host.requestURI ≠ [] then host.requestURI else r.path

end

theorem splitN_append {sep : Char} {a : List Char} (h : sep ∉ a) (n : Nat) (b : List Char) :
    splitN sep (n + 2) (a ++ sep :: b) = a :: splitN sep (n + 1) b := by
  have hne : ∀ c ∈ a, decide (c ≠ sep) = true := fun c hc =>
    decide_eq_true fun heq => h (heq ▸ hc)
  rw [splitN,if_pos (mem_append_right a mem_cons_self),takeWhile_append_of_pos hne,
    dropWhile_append_of_pos hne]
  simp

theorem splitN_single {sep : Char} {a : List Char} (h : sep ∉ a) (n : Nat) :
    splitN sep (n + 1) a = [a] := by
  cases n with
  | zero => rfl
  | succ n => rw [splitN,if_neg h]

theorem splitN_tail {sep : Char} {n : Nat} {s x y : List Char} {xs : List (List Char)}
    (h : splitN sep (n + 2) s = x :: y :: xs) :
    ∃ b, splitN sep (n + 1) b = y :: xs ∧ b.length < s.length := by
  rw [splitN] at h
  split_ifs at h with hsep
  · refine ⟨_,(cons.inj h).2,?_⟩
    have hdrop : s.dropWhile (· ≠ sep) ≠ [] := by simpa [dropWhile_eq_nil_iff] using hsep
    have hle := (dropWhile_suffix (fun c => decide (c ≠ sep)) (l := s)).length_le
    have hpos := length_pos_iff.mpr hdrop
    rw [length_tail]
    omega
  · cases h

theorem splitN_rest_lt {sep : Char} {s expires signature : List Char} {more : List (List Char)}
    (h : splitN sep 3 s = expires :: signature :: more) : (more.headD []).length < s.length := by
  obtain ⟨b,hb,hlt⟩ := splitN_tail h
  cases more with
  | nil => exact (Nat.zero_le _).trans_lt hlt
  | cons rest more =>
    obtain ⟨c,hc,hlt'⟩ := splitN_tail hb
    cases hc
    exact hlt'.trans hlt

def signedPrefix (app : List Char) : Bool :=
  match splitN '/' 4 app with
  | [] :: expires :: signature :: _ =>
    (parseExpiresB36 expires).isSome && validateSignatureFormat signature
  | _ => false

section

variable {id port app : List Char} {route : ParsedRoute} (hid : '/' ∉ id) (hport : '/' ∉ port)
  (happ : app = [] ∨ app.head? = some '/')

include hid hport happ

theorem splitN_route (n : Nat) :
    splitN '/' (n + 3) (trimPrefix ['/'] ('/' :: (id ++ '/' :: (port ++ app)))) =
      id :: port :: (splitN '/' (n + 2) app).tail := by
  have htrim : trimPrefix ['/'] ('/' :: (id ++ '/' :: (port ++ app))) =
      id ++ '/' :: (port ++ app) := rfl
  rw [htrim,splitN_append hid]
  cases app with
  | nil =>
    rw [append_nil,splitN_single hport]
    rfl
  | cons c rest =>
    obtain rfl : c = '/' := by simpa using happ
    rw [splitN_append hport]
    rfl

theorem parseURILegacy_route
    (h : parseURILegacy ('/' :: (id ++ '/' :: (port ++ app))) = some route) :
    route.sandboxID = id ∧ route.uriParsedAsOSEP = false ∧
      route.requestURI = if app = [] then ['/'] else app := by
  rw [parseURILegacy,splitN_route hid hport happ 0] at h
  dsimp only at h
  split_ifs at h
  obtain ⟨p,-,rfl⟩ := Option.map_eq_some_iff.mp h
  refine ⟨rfl,rfl,?_⟩
  cases app with
  | nil => rfl
  | cons c rest =>
    obtain rfl : c = '/' := by simpa using happ
    rfl

theorem parseURIRoute_unsigned (hsigned : signedPrefix app = false) :
    parseURIRoute ('/' :: (id ++ '/' :: (port ++ app))) =
      parseURILegacy ('/' :: (id ++ '/' :: (port ++ app))) := by
  rw [parseURIRoute,if_neg (cons_ne_nil _ _),splitN_route hid hport happ 2]
  rw [signedPrefix] at hsigned
  cases app with
  | nil => rfl
  | cons c rest =>
    obtain rfl : c = '/' := by simpa using happ
    rw [show splitN '/' 4 ('/' :: rest) = [] :: splitN '/' 3 rest from rfl] at hsigned ⊢
    generalize splitN '/' 3 rest = parts at hsigned ⊢
    split
    · next heq =>
      cases heq
      split
      · refine if_neg fun hall => ?_
        simp [hall.2] at hsigned
      · rfl
    · rfl

theorem parseURIRoute_signed (hsigned : signedPrefix app = true)
    (h : parseURIRoute ('/' :: (id ++ '/' :: (port ++ app))) = some route) :
    route.sandboxID = id ∧ route.uriParsedAsOSEP = true ∧ route.requestURI ≠ [] ∧
      route.requestURI ≠ app := by
  have hlegacy : parseURILegacy ('/' :: (id ++ '/' :: (port ++ app))) = some route →
      id ≠ [] ∧ parsePortSegment port ≠ none := by
    rw [parseURILegacy,splitN_route hid hport happ 0]
    dsimp only
    intro h
    split_ifs at h with hempty
    refine ⟨hempty,fun hnone => ?_⟩
    rw [hnone] at h
    cases h
  rw [parseURIRoute,if_neg (cons_ne_nil _ _),splitN_route hid hport happ 2] at h
  rw [signedPrefix] at hsigned
  cases app with
  | nil => cases hsigned
  | cons c rest =>
    obtain rfl : c = '/' := by simpa using happ
    rw [show splitN '/' 4 ('/' :: rest) = [] :: splitN '/' 3 rest from rfl] at hsigned h
    split at hsigned
    · next expires signature more heq =>
      rw [heq] at h
      have hlt := splitN_rest_lt (cons.inj heq).2
      rw [Bool.and_eq_true] at hsigned
      dsimp only [tail_cons] at h
      split at h
      · split_ifs at h with hall
        · cases h
          refine ⟨rfl,rfl,cons_ne_nil _ _,fun hsame => hlt.ne ?_⟩
          exact congrArg length (cons.inj hsame).2
        · exact absurd ⟨(hlegacy h).1,hsigned⟩ hall
      · next hnone => exact absurd hnone (hlegacy h).2
    · cases hsigned

end

theorem uri_path_kept_iff (provider : String → Except ProviderError EndpointInfo)
    (verify : Option (ParsedRoute → Bool)) (r : Request) (info : EndpointInfo)
    (id port app forwarded : List Char) (hid : '/' ∉ id) (hport : '/' ∉ port)
    (happ : app = [] ∨ app.head? = some '/')
    (hpath : r.path = '/' :: (id ++ '/' :: (port ++ app)))
    (hinfo : provider (String.ofList id) = .ok info)
    (hserve : forwardedPath provider verify r = some forwarded) :
    (forwarded = if app = [] then ['/'] else app) ↔
      (info.accessVerificationRequired = true → signedPrefix app = false) := by
  obtain ⟨host,hhost,rfl⟩ := Option.map_eq_some_iff.mp hserve
  obtain ⟨route,hroute,hhost⟩ := Option.bind_eq_some_iff.mp hhost
  split_ifs at hhost
  obtain ⟨info',hinfo',hhost⟩ := Option.bind_eq_some_iff.mp hhost
  obtain ⟨final,hfinal,hhost⟩ := Option.bind_eq_some_iff.mp hhost
  split_ifs at hhost
  cases hhost
  rw [hpath] at hroute hfinal
  have hplain (hlegacy : parseURILegacy ('/' :: (id ++ '/' :: (port ++ app))) = some final) :
      (if final.requestURI ≠ [] then final.requestURI else r.path) =
        if app = [] then ['/'] else app := by
    rw [(parseURILegacy_route hid hport happ hlegacy).2.2,if_pos]
    split_ifs with hempty
    · exact cons_ne_nil _ _
    · exact hempty
  cases hsigned : signedPrefix app with
  | false =>
    rw [parseURIRoute_unsigned hid hport happ hsigned] at hroute
    refine iff_of_true (hplain ?_) fun _ => rfl
    split_ifs at hfinal
    · exact hfinal
    · exact hroute.trans hfinal
  | true =>
    obtain ⟨hsame,hosep,hne,huri⟩ := parseURIRoute_signed hid hport happ hsigned hroute
    rw [hsame,hinfo] at hinfo'
    cases hinfo'
    rw [hosep,Bool.and_true] at hfinal
    cases hsecured : info.accessVerificationRequired with
    | false =>
      rw [hsecured] at hfinal
      exact iff_of_true (hplain hfinal) nofun
    | true =>
      rw [hsecured] at hfinal
      cases hfinal
      refine iff_of_false (fun heq => huri ?_) fun h => nomatch h rfl
      have happ : app ≠ [] := by
        rintro rfl
        cases hsigned
      rwa [if_pos hne,if_neg happ] at heq

def signedShape : Request := ⟨"/s/80/0/00000000a/x".toList,some "t"⟩

theorem uri_path_kept_unsecured : ∃ forwarded,
    forwardedPath (fun _ => .ok ⟨"10.0.0.1",""⟩) none signedShape = some forwarded ∧
      forwarded = "/0/00000000a/x".toList := by
  have hserve : (forwardedPath (fun _ => .ok ⟨"10.0.0.1",""⟩) none signedShape).isSome := by
    decide +kernel
  obtain ⟨forwarded,h⟩ := Option.isSome_iff_exists.mp hserve
  refine ⟨forwarded,h,?_⟩
  exact (uri_path_kept_iff _ none signedShape ⟨"10.0.0.1",""⟩ "s".toList "80".toList
    "/0/00000000a/x".toList forwarded (by decide) (by decide) (.inr rfl) rfl rfl h).mpr nofun

theorem uri_path_cut :
    forwardedPath (fun _ => .ok ⟨"10.0.0.1","t"⟩) none signedShape = some "/x".toList := by
  decide +kernel

def parseRouteToken (label : List Char) : Option ParsedRoute :=
  match (label.splitOn '-').reverse with
  | [port,id] =>
    if id = [] then none
    else (parsePortSegment port).map fun p => ⟨id,p,[],[],[],false⟩
  | signature :: expires :: port :: id =>
    let id := ['-'].intercalate id.reverse
    if validateSignatureFormat signature ∧ (parseExpiresB36 expires).isSome ∧ id ≠ [] then
      (parsePortSegment port).map fun p => ⟨id,p,expires,signature,[],false⟩
    else none
  | _ => none

def hostLabel (s : List Char) : List Char :=
  ((trimPrefix "http://".toList (trimPrefix "https://".toList s)).splitOn '.').headD []

def parseHostRoute (s : List Char) : Option ParsedRoute :=
  (parseRouteToken (hostLabel s)).or <|
    match ((hostLabel s).splitOn '-').reverse with
    | port :: id =>
      if id.getLast?.all (· = []) then none
      else (atoi port).map fun p => ⟨['-'].intercalate id.reverse,p,[],[],[],false⟩
    | [] => none

theorem isBase36_ne {c : Char} (h : isBase36 c = true) : c ≠ '-' ∧ c ≠ '.' ∧ c ≠ ':' := by
  refine ⟨?_,?_,?_⟩ <;> rintro rfl <;> revert h <;> decide

theorem hostLabel_eq {s : List Char} (h : ∀ c ∈ s, c ≠ '.' ∧ c ≠ ':') : hostLabel s = s := by
  have htrim {pre : List Char} (hpre : ':' ∈ pre) : trimPrefix pre s = s := if_neg fun hp =>
    (h _ (List.IsPrefix.subset ( isPrefixOf_iff_prefix.mp hp) hpre)).2 rfl
  rw [hostLabel,htrim (by decide),htrim (by decide),
    splitOn_eq_singleton fun hdot => (h _ hdot).1 rfl]
  rfl

theorem plain_append {a b : List Char} (ha : ∀ c ∈ a, c ≠ '.' ∧ c ≠ ':')
    (hb : ∀ c ∈ b, isBase36 c = true) : ∀ c ∈ a ++ '-' :: b, c ≠ '.' ∧ c ≠ ':' := by
  rw [forall_mem_append,forall_mem_cons]
  exact ⟨ha,by decide,fun c hc => (isBase36_ne (hb c hc)).2⟩

theorem splitOn_reverse {a b : List Char} (h : ∀ c ∈ b, isBase36 c = true) :
    ((a ++ '-' :: b).splitOn '-').reverse = b :: (a.splitOn '-').reverse := by
  have hb : b.splitOn '-' = [b] := splitOn_eq_singleton fun hdash => (isBase36_ne (h _ hdash)).1 rfl
  rw [splitOn,splitOnP_append_cons _ _ rfl,reverse_append]
  exact congrArg (·.reverse ++ _) hb

theorem atoi_digits {s : List Char} (hne : s ≠ []) (hall : ∀ c ∈ s, isDigit c = true)
    (hrange : value s < 2 ^ 63) : atoi s = some (value s : Int) := by
  have hsign (c : Char) (hc : isDigit c = false) : s.head? ≠ some c := fun h =>
    Bool.false_ne_true (hc.symm.trans (hall c (mem_of_mem_head? h)))
  have hunsigned : unsignedPart s = s := if_neg (not_or.mpr ⟨hsign '-' rfl,hsign '+' rfl⟩)
  have hdigits : ¬ (s = [] ∨ (!s.all isDigit) = true) := by simpa [hne] using hall
  have hint : (-2 ^ 63 : Int) ≤ value s ∧ (value s : Int) < 2 ^ 63 := by omega
  simp only [atoi,hunsigned,if_neg hdigits,if_neg (hsign '-' rfl),if_pos hint]

section

variable {p : Nat} (hp : p ≤ 65535)

theorem isBase36_formatUint : ∀ c ∈ (formatUint p).toList, isBase36 c = true := fun _ hc =>
  Bool.or_eq_true_iff.mpr (.inl (isDigit_of_mem_formatUint hc))

include hp

theorem atoi_formatUint : atoi (formatUint p).toList = some (p : Int) := by
  have hvalue := value_formatUint p
  rw [atoi_digits (formatUint_ne_nil p) (fun _ => isDigit_of_mem_formatUint) (by omega),hvalue]

theorem parsePortSegment_formatUint (hpos : 1 ≤ p) :
    parsePortSegment (formatUint p).toList = some (p : Int) := by
  rw [parsePortSegment,if_neg,atoi_formatUint hp]
  · exact Option.filter_eq_some_iff.mpr ⟨rfl,by simp; omega⟩
  · rintro ⟨-,hzero⟩
    have := head_formatUint hzero
    omega

end

theorem isBase36_of_expires {s : List Char} (h : (parseExpiresB36 s).isSome) :
    ∀ c ∈ s, isBase36 c = true := by
  rw [parseExpiresB36] at h
  split_ifs at h with hbad hzero
  · cases h
  · cases h
  · simpa using (not_or.mp (not_or.mp hbad).2).2

theorem isBase36_of_signature {s : List Char} (h : validateSignatureFormat s = true) :
    ∀ c ∈ s, isBase36 c = true := by
  intro c hc
  rw [validateSignatureFormat,Bool.and_eq_true,Bool.and_eq_true] at h
  rcases mem_append.mp (take_append_drop 8 s ▸ hc) with hhex | hlast
  · have hhex := all_eq_true.mp h.1.2 c hhex
    simp only [isHex,isBase36,Bool.or_eq_true,Bool.and_eq_true,decide_eq_true_eq] at hhex ⊢
    exact hhex.imp_right fun hle => ⟨hle.1,Char.le_trans hle.2 (by decide)⟩
  · exact all_eq_true.mp h.2 c hlast

def writtenPort (s : List Char) : List Char :=
  ((hostLabel s).splitOn '-').reverse.getD
    (if (parseRouteToken (hostLabel s)).any (·.signature ≠ []) then 2 else 0) []

theorem atoi_of_parsePortSegment {s : List Char} {p : Int} (h : parsePortSegment s = some p) :
    atoi s = some p := by
  rw [parsePortSegment] at h
  split_ifs at h
  exact (Option.filter_eq_some_iff.mp h).1

theorem atoi_writtenPort {s : List Char} {route : ParsedRoute}
    (h : parseHostRoute s = some route) : atoi (writtenPort s) = some route.port := by
  rw [parseHostRoute] at h
  rw [writtenPort]
  cases htoken : parseRouteToken (hostLabel s) with
  | some token =>
    rw [htoken] at h
    cases h
    rw [parseRouteToken] at htoken
    generalize ((hostLabel s).splitOn '-').reverse = parts at htoken ⊢
    split at htoken
    · split_ifs at htoken
      obtain ⟨p,hp,rfl⟩ := Option.map_eq_some_iff.mp htoken
      exact atoi_of_parsePortSegment hp
    · dsimp only at htoken
      split_ifs at htoken with hsigned
      obtain ⟨p,hp,rfl⟩ := Option.map_eq_some_iff.mp htoken
      rw [if_pos]
      · exact atoi_of_parsePortSegment hp
      · refine decide_eq_true ?_
        rintro rfl
        exact absurd hsigned.1 (by decide)
    · cases htoken
  | none =>
    rw [htoken,Option.none_or] at h
    generalize ((hostLabel s).splitOn '-').reverse = parts at h ⊢
    split at h
    · split_ifs at h
      obtain ⟨p,hp,rfl⟩ := Option.map_eq_some_iff.mp h
      exact hp
    · cases h

section

variable {id : List Char} {p : Nat} (hid : ∀ c ∈ id, c ≠ '.' ∧ c ≠ ':') (hpos : 1 ≤ p)
  (hp : p ≤ 65535)

include hid hpos hp

theorem parseHostRoute_unsigned (hne : id ≠ []) (hfirst : id.head? ≠ some '-') :
    parseHostRoute (id ++ '-' :: (formatUint p).toList) = some ⟨id,p,[],[],[],false⟩ := by
  have hjoin : ['-'].intercalate (id.splitOn '-').reverse.reverse = id := by
    rw [reverse_reverse,intercalate_splitOn]
  have hstart : (id.splitOn '-').reverse.getLast?.all (· = []) = false := by
    obtain ⟨c,cs,rfl⟩ := exists_cons_of_ne_nil hne
    rw [getLast?_reverse,GoText.splitOn_cons,if_neg (by simpa using hfirst),head?_modifyHead,
      head?_eq_some_head (splitOn_ne_nil _ _)]
    rfl
  have hlength : validateSignatureFormat (formatUint p).toList = false := by
    have hlen := length_formatUint_le (k := 5) (by decide) (hp.trans_lt (by decide))
    have hnine : (formatUint p).toList.length ≠ 9 := by omega
    simp [validateSignatureFormat,hnine]
  rw [parseHostRoute,hostLabel_eq (plain_append hid isBase36_formatUint),parseRouteToken,
    splitOn_reverse isBase36_formatUint]
  generalize (id.splitOn '-').reverse = parts at hjoin hstart ⊢
  match parts with
  | [] => cases hstart
  | [only] =>
    obtain rfl : only = id := by simpa using hjoin
    simp [hne,parsePortSegment_formatUint hp hpos]
  | _ :: _ :: _ =>
    simp only [hlength,Bool.false_eq_true,false_and,reduceIte,Option.none_or,hstart,
      atoi_formatUint hp,Option.map_some,hjoin]

theorem parseHostRoute_signed {expires signature : List Char} (hne : id ≠ [])
    (hexpires : (parseExpiresB36 expires).isSome)
    (hsignature : validateSignatureFormat signature = true) :
    parseHostRoute (id ++ '-' :: (formatUint p).toList ++ '-' :: expires ++ '-' :: signature) =
      some ⟨id,p,expires,signature,[],false⟩ := by
  have hlast := isBase36_of_signature hsignature
  have hmiddle := isBase36_of_expires hexpires
  rw [parseHostRoute,
    hostLabel_eq (plain_append (plain_append (plain_append hid isBase36_formatUint) hmiddle) hlast),
    parseRouteToken,splitOn_reverse hlast,splitOn_reverse hmiddle,
    splitOn_reverse isBase36_formatUint]
  simp [hsignature,hexpires,hne,intercalate_splitOn,parsePortSegment_formatUint hp hpos]

end

theorem digits_of_atoi {s : List Char} {p : Int} (h : atoi s = some p) (hpos : 1 ≤ p)
    (hplus : s.head? ≠ some '+') : ∀ c ∈ s, isDigit c = true := by
  simp only [atoi] at h
  split_ifs at h with hbad hneg hrange
  · cases h
    omega
  · rw [unsignedPart,if_neg (not_or.mpr ⟨hneg,hplus⟩)] at hbad
    simpa using (not_or.mp hbad).2

theorem plain_port_iff {s : List Char} {p : Int} (h : atoi s = some p) :
    (1 ≤ p ∧ p ≤ 65535 ∧ (∀ c ∈ s, isDigit c = true) ∧ s.head? ≠ some '0') ↔
      (parsePortSegment s).isSome ∧ s.head? ≠ some '+' := by
  rw [parsePortSegment,h]
  constructor
  · rintro ⟨hpos,hmax,hdigits,hzero⟩
    refine ⟨?_,fun hplus => ?_⟩
    · simp [hzero,hpos,hmax,Option.filter]
    · exact absurd (hdigits _ (mem_of_mem_head? hplus)) (by decide)
  · rintro ⟨hsome,hplus⟩
    split_ifs at hsome with hlead
    · cases hsome
    · have hrange : 1 ≤ p ∧ p ≤ 65535 := by simpa [Option.filter] using hsome
      refine ⟨hrange.1,hrange.2,digits_of_atoi h hrange.1 hplus,fun hzero => ?_⟩
      obtain ⟨rest,rfl⟩ := head?_eq_some_iff.mp hzero
      cases rest with
      | nil =>
        cases h
        exact absurd hrange.1 (by decide)
      | cons _ _ => exact hlead ⟨by simp,rfl⟩

theorem host_labels_parse_back (s : List Char) (route : ParsedRoute) :
    (∀ (id expires signature : List Char) (p : Nat), id ≠ [] → id.head? ≠ some '-' →
      (∀ c ∈ id, c ≠ '.' ∧ c ≠ ':') → 1 ≤ p → p ≤ 65535 →
        parseHostRoute (id ++ '-' :: (formatUint p).toList) = some ⟨id,p,[],[],[],false⟩ ∧
        ((parseExpiresB36 expires).isSome → validateSignatureFormat signature = true →
          parseHostRoute (id ++ '-' :: (formatUint p).toList ++ '-' :: expires ++
            '-' :: signature) = some ⟨id,p,expires,signature,[],false⟩)) ∧
    (parseHostRoute s = some route →
      ((1 ≤ route.port ∧ route.port ≤ 65535 ∧ (∀ c ∈ writtenPort s, isDigit c = true) ∧
          (writtenPort s).head? ≠ some '0') ↔
        (parsePortSegment (writtenPort s)).isSome ∧ (writtenPort s).head? ≠ some '+')) := by
  refine ⟨fun id expires signature p hne hfirst hid hpos hp => ⟨?_,fun hexpires hsig => ?_⟩,
    fun h => plain_port_iff (atoi_writtenPort h)⟩
  · exact parseHostRoute_unsigned hid hpos hp hne hfirst
  · exact parseHostRoute_signed hid hpos hp hne hexpires hsig

theorem host_port_unchecked :
    (parseHostRoute "a-b-99999".toList).map (·.port) = some 99999 ∧
      (parseHostRoute "a-+80".toList).map (·.port) = some 80 := by
  decide +kernel

end OpenSandbox.Ingress
