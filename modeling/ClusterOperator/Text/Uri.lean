import ClusterOperator.Text.PercentEncoding

namespace ClusterOperator.Text

section Parse

def isUnreserved (c : Char) : Bool := c.isAlphanum || "-._~".toList.contains c

def isSubDelim (c : Char) : Bool := "!$&'()*+,;=".toList.contains c

def isNameChar (c : Char) : Bool := isUnreserved c || isSubDelim c

def isPasswordChar (c : Char) : Bool := isNameChar c || c = ':'

def isPathChar (c : Char) : Bool := isPasswordChar c || c = '@' || c = '/'

def isQueryChar (c : Char) : Bool := isPathChar c || c = '?'

def isAuthorityChar (c : Char) : Bool := !"/?#".toList.contains c

def isScheme (l : List Char) : Bool :=
  l.head?.any Char.isAlpha && l.all fun c => c.isAlphanum || "+-.".toList.contains c

structure Userinfo where
  user : List UInt8
  password : Option (List UInt8)
deriving DecidableEq

structure Authority where
  userinfo : Option Userinfo
  host : String
  port : Option String
deriving DecidableEq

structure Uri where
  scheme : String
  authority : Authority
  path : String
deriving DecidableEq

def parseUserinfo (l : List Char) : Option Userinfo :=
  (decode isNameChar (cutAt ':' l).1).bind fun user =>
    match (cutAt ':' l).2 with
    | none => some ⟨user, none⟩
    | some password => (decode isPasswordChar password).map fun password => ⟨user, some password⟩

def parseHost (userinfo : Option Userinfo) (l : List Char) : Option Authority :=
  if (decode isNameChar (cutAt ':' l).1).isSome && (cutAt ':' l).2.all (fun port => port.all Char.isDigit) then
    some ⟨userinfo, String.ofList (cutAt ':' l).1, (cutAt ':' l).2.map String.ofList⟩
  else none

def parseAuthority (l : List Char) : Option Authority :=
  match (cutAt '@' l).2 with
  | none => parseHost none l
  | some host => (parseUserinfo (cutAt '@' l).1).bind fun userinfo => parseHost (some userinfo) host

def parsePath (l : List Char) : Option String :=
  let beforeFragment := cutAt '#' l
  let beforeQuery := cutAt '?' beforeFragment.1
  if (decode isPathChar beforeQuery.1).isSome && beforeQuery.2.all (fun query => (decode isQueryChar query).isSome) &&
      beforeFragment.2.all (fun fragment => (decode isQueryChar fragment).isSome) then
    some (String.ofList beforeQuery.1)
  else none

def Uri.parse (s : String) : Option Uri :=
  let scheme := (cutAt ':' s.toList).1
  ((cutAt ':' s.toList).2.bind fun rest => rest.dropPrefix? "//".toList).bind fun rest =>
    if isScheme scheme then
      (parseAuthority (rest.takeWhile isAuthorityChar)).bind fun authority =>
        (parsePath (rest.dropWhile isAuthorityChar)).map fun path => ⟨String.ofList scheme, authority, path⟩
    else none

lemma isAlphanum_iff {c : Char} :
    c.isAlphanum = true ↔ (c.isUpper = true ∨ c.isLower = true) ∨ c.isDigit = true := by
  change (c.isUpper || c.isLower || c.isDigit) = true ↔ _
  rw [Bool.or_eq_true, Bool.or_eq_true]

lemma lt_of_isAlphanum {c : Char} (h : c.isAlphanum = true) : c.toNat < 128 := by
  have hbound {d : Char} (hle : c.val ≤ d.val) (hd : d.toNat < 128) : c.toNat < 128 :=
    lt_of_le_of_lt (UInt32.le_iff_toNat_le.mp hle) hd
  rcases isAlphanum_iff.mp h with (h | h) | h
  · exact hbound (d := 'Z') (of_decide_eq_true h).2 (by decide)
  · exact hbound (d := 'z') (of_decide_eq_true (Bool.and_eq_true_iff.mp h).2) (by decide)
  · exact hbound (d := '9') (of_decide_eq_true (Bool.and_eq_true_iff.mp h).2) (by decide)

lemma lt_of_contains {l : List Char} (hl : l.all (fun c => c.toNat < 128) = true) {c : Char}
    (h : l.contains c = true) : c.toNat < 128 :=
  of_decide_eq_true (List.all_eq_true.mp hl c (List.contains_iff_mem.mp h))

lemma isNameChar_lt {c : Char} (h : isNameChar c = true) : c.toNat < 128 := by
  simp only [isNameChar, isUnreserved, isSubDelim, Bool.or_eq_true] at h
  rcases h with (h | h) | h
  · exact lt_of_isAlphanum h
  · exact lt_of_contains (by decide) h
  · exact lt_of_contains (by decide) h

lemma isPasswordChar_lt {c : Char} (h : isPasswordChar c = true) : c.toNat < 128 := by
  rw [isPasswordChar, Bool.or_eq_true, decide_eq_true_eq] at h
  rcases h with h | rfl
  · exact isNameChar_lt h
  · decide

variable {u p host port : List Char}

lemma parseUserinfo_append (hu : ∀ c ∈ u, isNameChar c = true) (hp : ∀ c ∈ p, isPasswordChar c = true) :
    parseUserinfo (u ++ ':' :: p) =
      some ⟨u.flatMap String.utf8EncodeChar, some (p.flatMap String.utf8EncodeChar)⟩ := by
  have hcolon : ':' ∉ u := fun h => absurd (hu _ h) (by decide)
  rw [parseUserinfo, cutAt_append hcolon, decode_of_allowed (by decide) hu, Option.bind_some]
  dsimp only
  rw [decode_of_allowed (by decide) hp, Option.map_some]

lemma parseHost_append (userinfo : Option Userinfo) (hhost : ∀ c ∈ host, isNameChar c = true)
    (hport : ∀ c ∈ port, c.isDigit = true) : parseHost userinfo (host ++ ':' :: port) =
      some ⟨userinfo, String.ofList host, some (String.ofList port)⟩ := by
  have hcolon : ':' ∉ host := fun h => absurd (hhost _ h) (by decide)
  rw [parseHost, cutAt_append hcolon, decode_of_allowed (by decide) hhost]
  have hall : port.all Char.isDigit = true := List.all_eq_true.mpr hport
  simp only [Option.isSome_some, Option.all_some, hall, Bool.and_self, if_true, Option.map_some]

lemma parseAuthority_append (hu : ∀ c ∈ u, isNameChar c = true) (hp : ∀ c ∈ p, isPasswordChar c = true)
    (hhost : ∀ c ∈ host, isNameChar c = true) (hport : ∀ c ∈ port, c.isDigit = true) :
    parseAuthority (u ++ ':' :: p ++ '@' :: (host ++ ':' :: port)) =
      some ⟨some ⟨u.flatMap String.utf8EncodeChar, some (p.flatMap String.utf8EncodeChar)⟩,
        String.ofList host, some (String.ofList port)⟩ := by
  have hat : '@' ∉ u ++ ':' :: p := by
    intro h
    rcases List.mem_append.mp h with h | h
    · exact absurd (hu _ h) (by decide)
    · rcases List.mem_cons.mp h with h | h
      · exact absurd h (by decide)
      · exact absurd (hp _ h) (by decide)
  rw [parseAuthority, cutAt_append hat]
  dsimp only
  rw [parseUserinfo_append hu hp, Option.bind_some, parseHost_append _ hhost hport]

lemma eq_of_parseHost {userinfo : Option Userinfo} {l : List Char} {authority : Authority}
    (h : parseHost userinfo l = some authority) : authority.userinfo = userinfo := by
  unfold parseHost at h
  split at h
  · cases h
    rfl
  · cases h

lemma of_parseAuthority {l : List Char} {authority : Authority} {user password : List UInt8}
    (h : parseAuthority l = some authority) (huser : authority.userinfo = some ⟨user, some password⟩) :
    ∃ u p rest, l = u ++ ':' :: (p ++ '@' :: rest) ∧ ':' ∉ u ∧ '@' ∉ p ∧
      decode isNameChar u = some user ∧ decode isPasswordChar p = some password := by
  unfold parseAuthority at h
  cases hcut : cutAt '@' l with
  | mk info host =>
    rw [hcut] at h
    cases host with
    | none =>
      rw [eq_of_parseHost h] at huser
      cases huser
    | some host =>
      obtain ⟨userinfo, hinfo, h⟩ := Option.bind_eq_some_iff.mp h
      rw [eq_of_parseHost h, Option.some.injEq] at huser
      subst huser
      obtain ⟨rfl, hat⟩ := eq_of_cutAt hcut
      obtain ⟨user', huser, hinfo⟩ := Option.bind_eq_some_iff.mp hinfo
      cases hcolon : cutAt ':' info with
      | mk u p =>
        rw [hcolon] at huser hinfo
        cases p with
        | none => cases hinfo
        | some p =>
          obtain ⟨password', hpassword, hinfo⟩ := Option.map_eq_some_iff.mp hinfo
          cases hinfo
          obtain ⟨rfl, hnot⟩ := eq_of_cutAt hcolon
          refine ⟨u, p, host, by simp, hnot, fun hp => hat (by simp [hp]), huser, hpassword⟩

lemma allowed_of_parseAuthority {l rest : List Char} {authority : Authority}
    (hl : l <+: u ++ ':' :: (p ++ '@' :: rest)) (h : parseAuthority l = some authority)
    (huser : authority.userinfo =
      some ⟨u.flatMap String.utf8EncodeChar, some (p.flatMap String.utf8EncodeChar)⟩) :
    (∀ c ∈ u, isNameChar c = true) ∧ ∀ c ∈ p, isPasswordChar c = true := by
  obtain ⟨u', p', rest', rfl, hcolon, hat, hu, hp⟩ := of_parseAuthority h huser
  obtain ⟨hule, hu⟩ := length_decode (fun c => isNameChar_lt) hu
  obtain ⟨hple, hp⟩ := length_decode (fun c => isPasswordChar_lt) hp
  have hulen := length_le_flatMap_utf8EncodeChar u
  have hplen := length_le_flatMap_utf8EncodeChar p
  obtain rfl : u' = u :=
    eq_of_prefix ((List.prefix_append u' _).trans hl) hcolon (hulen.trans hule)
  rw [List.prefix_append_right_inj, List.cons_prefix_cons] at hl
  obtain rfl : p' = p := eq_of_prefix ((List.prefix_append p' _).trans hl.2) hat (hplen.trans hple)
  exact ⟨hu (le_antisymm hule hulen), hp (le_antisymm hple hplen)⟩

end Parse

section RoundTrip

variable {scheme u p host port : String}

def compose (scheme u p host port : String) : String :=
  scheme ++ "://" ++ u ++ ":" ++ p ++ "@" ++ host ++ ":" ++ port ++ "/"

def ParsesTo (s u p host port : String) : Prop :=
  ∃ uri, Uri.parse s = some uri ∧
    uri.authority = ⟨some ⟨bytes u, some (bytes p)⟩, host, some port⟩

def authorityText (u p host port : String) : List Char :=
  u.toList ++ ':' :: p.toList ++ '@' :: (host.toList ++ ':' :: port.toList)

lemma toList_compose : (compose scheme u p host port).toList =
    scheme.toList ++ ':' :: ("//".toList ++ (authorityText u p host port ++ ['/'])) := by
  simp [compose, authorityText]

lemma parse_compose (hscheme : isScheme scheme.toList = true) : Uri.parse (compose scheme u p host port) =
    (parseAuthority ((authorityText u p host port ++ ['/']).takeWhile isAuthorityChar)).bind fun authority =>
      (parsePath ((authorityText u p host port ++ ['/']).dropWhile isAuthorityChar)).map fun path =>
        ⟨scheme, authority, path⟩ := by
  have hcolon : ':' ∉ scheme.toList := by
    intro h
    have hall := (Bool.and_eq_true_iff.mp hscheme).2
    exact absurd (List.all_eq_true.mp hall _ h) (by decide)
  rw [Uri.parse, toList_compose, cutAt_append hcolon]
  dsimp only
  rw [Option.bind_some, List.dropPrefix?_append_of_beq _ (beq_self_eq_true _), Option.bind_some, if_pos hscheme,
    String.ofList_toList]

lemma isAuthorityChar_of {P : Char → Bool} (hP : "/?#".toList.all (fun c => !P c) = true) {c : Char}
    (h : P c = true) : isAuthorityChar c = true := by
  rw [isAuthorityChar, Bool.not_eq_true', Bool.eq_false_iff]
  intro hc
  have hnot := List.all_eq_true.mp hP c (List.contains_iff_mem.mp hc)
  rw [h] at hnot
  cases hnot

lemma isAuthorityChar_authorityText (hu : ∀ c ∈ u.toList, isNameChar c = true)
    (hp : ∀ c ∈ p.toList, isPasswordChar c = true) (hhost : ∀ c ∈ host.toList, isNameChar c = true)
    (hport : ∀ c ∈ port.toList, c.isDigit = true) :
    ∀ c ∈ authorityText u p host port, isAuthorityChar c = true := by
  intro c hc
  simp only [authorityText, List.mem_append, List.mem_cons] at hc
  rcases hc with (hc | rfl | hc) | rfl | hc | rfl | hc
  · exact isAuthorityChar_of (by decide) (hu c hc)
  · decide
  · exact isAuthorityChar_of (by decide) (hp c hc)
  · decide
  · exact isAuthorityChar_of (by decide) (hhost c hc)
  · decide
  · exact isAuthorityChar_of (by decide) (hport c hc)

theorem parsesTo_compose_iff (hscheme : isScheme scheme.toList = true)
    (hhost : ∀ c ∈ host.toList, isNameChar c = true) (hport : ∀ c ∈ port.toList, c.isDigit = true) :
    ParsesTo (compose scheme u p host port) u p host port ↔
      (∀ c ∈ u.toList, isNameChar c = true) ∧ ∀ c ∈ p.toList, isPasswordChar c = true := by
  rw [ParsesTo, parse_compose hscheme]
  constructor
  · rintro ⟨uri, hparse, huri⟩
    obtain ⟨authority, hauthority, hparse⟩ := Option.bind_eq_some_iff.mp hparse
    obtain ⟨path, -, rfl⟩ := Option.map_eq_some_iff.mp hparse
    have hprefix : (authorityText u p host port ++ ['/']).takeWhile isAuthorityChar <+:
        u.toList ++ ':' :: (p.toList ++ '@' :: (host.toList ++ ':' :: port.toList ++ ['/'])) := by
      have htext : authorityText u p host port ++ ['/'] =
          u.toList ++ ':' :: (p.toList ++ '@' :: (host.toList ++ ':' :: port.toList ++ ['/'])) := by
        simp [authorityText]
      rw [← htext]
      exact List.takeWhile_prefix _
    exact allowed_of_parseAuthority hprefix hauthority (congrArg Authority.userinfo huri)
  · rintro ⟨hu, hp⟩
    have hall := isAuthorityChar_authorityText hu hp hhost hport
    have hslash : ¬ isAuthorityChar '/' = true := by decide
    rw [List.takeWhile_append_of_pos hall, List.dropWhile_append_of_pos hall, List.takeWhile_cons_of_neg hslash,
      List.dropWhile_cons_of_neg hslash, List.append_nil, authorityText, parseAuthority_append hu hp hhost hport]
    refine ⟨_, rfl, ?_⟩
    rw [String.ofList_toList, String.ofList_toList]
    rfl

end RoundTrip

end ClusterOperator.Text
