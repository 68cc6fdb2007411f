import OpenProof.GatewayHeaders

namespace OpenProof.SessionCredentials
open Foundation Http GatewayRequests GatewayHeaders ApplicationHttp OAuthHttp

def cookieItems (cookie : Text) : List Text := ((cookie.splitOn (ch ';')).map trimmed).filter fun item => !item.isEmpty

def sessionValue (item : Text) : Option Text :=
  match splitAt (ch '=') item with
  | (name,some value) => if name == kSessionCookie then some value else none
  | (_,none) => none

def cookiesOf (request : HttpRequest) : List Text := (request.header "cookie").elim [] cookieItems

def sessionValues (request : HttpRequest) : List Text := (cookiesOf request).filterMap sessionValue

def otherCookies (request : HttpRequest) : List Text := (cookiesOf request).filter fun item => (sessionValue item).isNone

-- A Bearer or DPoP authorization header whose credential has no blank in it.
structure WellFormed (authorization credential : Text) : Prop where
  scheme : authorization = Text.of "Bearer " ++ credential ∨ authorization = Text.of "DPoP " ++ credential
  given : credential ≠ []
  space : ch ' ' ∉ credential
  tab : ch '\t' ∉ credential

def Unblanked (credential : Text) : Prop := credential ≠ [] ∧ ch ' ' ∉ credential ∧ ch '\t' ∉ credential

theorem refused_iff {start credential : Text} (given : start ≠ []) :
    (start.isEmpty || credential.isEmpty || credential.contains (ch ' ') || credential.contains (ch '\t')) = false ↔
      Unblanked credential := by
  simp [Unblanked,given,and_assoc]

theorem bearerCredential_after (given : start ≠ [])
    (chosen : (if (Text.of "Bearer ").isPrefixOf authorization then Text.of "Bearer "
      else if (Text.of "DPoP ").isPrefixOf authorization then Text.of "DPoP " else []) = start)
    (begins : start <+: authorization) :
    bearerCredential authorization = some credential ↔ authorization = start ++ credential ∧ Unblanked credential := by
  obtain ⟨rest,rfl⟩ := begins
  unfold bearerCredential
  simp only [chosen,List.drop_left]
  rw [← refused_iff given]
  cases refused : start.isEmpty || rest.isEmpty || rest.contains (ch ' ') || rest.contains (ch '\t') with
  | true =>
    simp only [if_true,reduceCtorEq,List.append_cancel_left_eq,false_iff,not_and]
    rintro rfl fine
    rw [refused] at fine
    cases fine
  | false =>
    simp only [Bool.false_eq_true,if_false,Option.some.injEq,List.append_cancel_left_eq]
    constructor
    · rintro rfl
      exact ⟨rfl,refused⟩
    · exact And.left

theorem bearerCredential_iff :
    bearerCredential authorization = some credential ↔ WellFormed authorization credential := by
  have apart : ∀ credential,(Text.of "Bearer ").isPrefixOf (Text.of "DPoP " ++ credential) = false := fun _ => rfl
  by_cases bearer : (Text.of "Bearer ").isPrefixOf authorization = true
  · rw [bearerCredential_after (by decide) (if_pos bearer) (List.isPrefixOf_iff_prefix.mp bearer)]
    constructor
    · exact fun ⟨whole,given,space,tab⟩ => ⟨.inl whole,given,space,tab⟩
    · rintro ⟨scheme,given,space,tab⟩
      rcases scheme with whole | whole
      · exact ⟨whole,given,space,tab⟩
      · rw [whole,apart] at bearer
        cases bearer
  · by_cases dpop : (Text.of "DPoP ").isPrefixOf authorization = true
    · rw [bearerCredential_after (by decide) ((if_neg bearer).trans (if_pos dpop)) (List.isPrefixOf_iff_prefix.mp dpop)]
      constructor
      · exact fun ⟨whole,given,space,tab⟩ => ⟨.inr whole,given,space,tab⟩
      · rintro ⟨scheme,given,space,tab⟩
        rcases scheme with whole | whole
        · exact absurd (List.isPrefixOf_iff_prefix.mpr ⟨credential,whole.symm⟩) bearer
        · exact ⟨whole,given,space,tab⟩
    · have none : bearerCredential authorization = none := by
        unfold bearerCredential
        simp [bearer,dpop]
      rw [none]
      constructor
      · exact fun taken => by cases taken
      · rintro ⟨scheme,-,-,-⟩
        rcases scheme with whole | whole
        · exact absurd (List.isPrefixOf_iff_prefix.mpr ⟨credential,whole.symm⟩) bearer
        · exact absurd (List.isPrefixOf_iff_prefix.mpr ⟨credential,whole.symm⟩) dpop

def valuesIn (items : List Text) : List Text := ((items.map trimmed).filter fun item => !item.isEmpty).filterMap sessionValue

def othersIn (items : List Text) : List Text :=
  ((items.map trimmed).filter fun item => !item.isEmpty).filter fun item => (sessionValue item).isNone

theorem items_cons (item : Text) (rest : List Text) :
    (trimmed item = [] ∧ valuesIn (item :: rest) = valuesIn rest ∧ othersIn (item :: rest) = othersIn rest) ∨
    (∃ value,splitAt (ch '=') (trimmed item) = (kSessionCookie,some value) ∧
      valuesIn (item :: rest) = value :: valuesIn rest ∧ othersIn (item :: rest) = othersIn rest) ∨
    ((trimmed item).isEmpty = false ∧ sessionValue (trimmed item) = none ∧
      valuesIn (item :: rest) = valuesIn rest ∧ othersIn (item :: rest) = trimmed item :: othersIn rest) := by
  cases shape : trimmed item with
  | nil => exact .inl ⟨rfl,by simp [valuesIn,shape],by simp [othersIn,shape]⟩
  | cons byte bytes =>
    cases value : sessionValue (byte :: bytes) with
    | none => exact .inr (.inr ⟨rfl,rfl,by simp [valuesIn,shape,value],by simp [othersIn,shape,value]⟩)
    | some found =>
      refine .inr (.inl ⟨found,?_,by simp [valuesIn,shape,value],by simp [othersIn,shape,value]⟩)
      unfold sessionValue at value
      split at value
      · rename_i name given parts
        split_ifs at value with named
        cases value
        rw [parts,beq_iff_eq.mp named]
      · cases value

theorem scanCookies_iff :
    ∀ {token : Option Text} {retained : List Text},scanCookies token retained items = some (taken,kept) ↔
      kept = retained ++ othersIn items ∧ (token = taken ∧ valuesIn items = [] ∨
        token = none ∧ ∃ value,taken = some value ∧ valuesIn items = [value] ∧ sessionToken value = true) := by
  induction items with
  | nil =>
    intro token retained
    have stop : scanCookies token retained [] = some (token,retained) := rfl
    have none_left : valuesIn [] = [] := rfl
    have kept_all : othersIn [] = [] := rfl
    rw [stop,none_left,kept_all,List.append_nil,Option.some.injEq,Prod.mk.injEq]
    constructor
    · rintro ⟨rfl,rfl⟩
      exact ⟨rfl,.inl ⟨rfl,rfl⟩⟩
    · rintro ⟨rfl,⟨rfl,-⟩ | ⟨-,value,-,unlisted,-⟩⟩
      · exact ⟨rfl,rfl⟩
      · cases unlisted
  | cons item rest ih =>
    intro token retained
    rw [scanCookies]
    rcases items_cons item rest with ⟨empty,values,others⟩ | ⟨value,parts,values,others⟩ | ⟨nonempty,plain,values,others⟩
    · rw [values,others,empty]
      simpa [splitAt] using ih
    · rw [values,others,parts]
      simp only [beq_self_eq_true,if_true]
      by_cases bad : (!sessionToken value || token.isSome) = true
      · rw [if_pos bad]
        constructor
        · exact fun scanned => by cases scanned
        · rintro ⟨-,⟨-,listed⟩ | ⟨rfl,found,-,listed,valid⟩⟩
          · cases listed
          · obtain ⟨rfl,-⟩ := List.cons_eq_cons.mp listed
            simp [valid] at bad
      · rw [if_neg bad,ih]
        simp only [Bool.or_eq_true,Bool.not_eq_true',not_or,Bool.not_eq_false,Option.not_isSome_iff_eq_none] at bad
        obtain ⟨valid,rfl⟩ := bad
        constructor
        · rintro ⟨kept,⟨rfl,last⟩ | ⟨absent,-⟩⟩
          · exact ⟨kept,.inr ⟨rfl,value,rfl,by rw [last],valid⟩⟩
          · cases absent
        · rintro ⟨kept,⟨-,listed⟩ | ⟨-,found,rfl,listed,-⟩⟩
          · cases listed
          · obtain ⟨rfl,last⟩ := List.cons_eq_cons.mp listed
            exact ⟨kept,.inl ⟨rfl,last⟩⟩
    · rw [values,others]
      have next : retained ++ trimmed item :: othersIn rest = (retained ++ [trimmed item]) ++ othersIn rest := by simp
      rw [next,← ih]
      unfold sessionValue at plain
      split
      · rename_i name given parts
        rw [parts] at plain
        by_cases named : (name == kSessionCookie) = true
        · simp only [named,if_true,reduceCtorEq] at plain
        · rw [if_neg named]
      · rw [if_neg (by simp [nonempty])]

-- What is put back into the header reads as the cookies it was made of.
structure Plain (item : Text) : Prop where
  clean : trimmed item = item
  some_left : item.isEmpty = false
  whole : ch ';' ∉ item

theorem cookieItems_append : cookieItems (before ++ ch ';' :: after) = cookieItems before ++ cookieItems after := by
  rw [cookieItems,List.splitOn_append_cons_self,List.map_append,List.filter_append]
  rfl

theorem cookieItems_single (plain : Plain item) : cookieItems item = [item] := by
  simp [cookieItems,List.splitOn_eq_singleton plain.whole,plain.clean,plain.some_left]

theorem cookieItems_spaced (plain : Plain item) : cookieItems (ch ' ' :: item) = [item] := by
  have whole : ch ';' ∉ ch ' ' :: item := by simpa using ⟨by decide,plain.whole⟩
  have same : trimmed (ch ' ' :: item) = item := by
    unfold trimmed
    rw [List.dropWhile_cons_of_pos (by decide)]
    exact plain.clean
  simp [cookieItems,List.splitOn_eq_singleton whole,same,plain.some_left]

theorem cookieItems_rebuilt (items : List Text) : ∀ rebuilt : Text,rebuilt.isEmpty = false → (∀ item ∈ items,Plain item) →
    cookieItems (items.foldl (fun rebuilt item => (if rebuilt.isEmpty then rebuilt else rebuilt ++ "; ") ++ item) rebuilt) =
      cookieItems rebuilt ++ items := by
  induction items with
  | nil => exact fun rebuilt _ _ => (List.append_nil _).symm
  | cons item rest ih =>
    intro rebuilt begun plain
    have first := plain item List.mem_cons_self
    have literal : Text.of "; " = [ch ';',ch ' '] := by decide
    have shape : rebuilt ++ Text.of "; " ++ item = rebuilt ++ ch ';' :: ch ' ' :: item := by
      rw [literal,List.append_assoc]
      rfl
    rw [List.foldl_cons,begun]
    simp only [Bool.false_eq_true,if_false]
    rw [shape,ih _ (by simp) fun other listed => plain other (List.mem_cons_of_mem _ listed),cookieItems_append,
      cookieItems_spaced first]
    simp

theorem cookieItems_joined (plain : ∀ item ∈ items,Plain item) : cookieItems (joined items) = items := by
  cases items with
  | nil => decide
  | cons item rest =>
    have first := plain item List.mem_cons_self
    have started : joined (item :: rest) =
        rest.foldl (fun rebuilt item => (if rebuilt.isEmpty then rebuilt else rebuilt ++ "; ") ++ item) item := rfl
    rw [started,cookieItems_rebuilt rest item first.some_left fun other listed => plain other (List.mem_cons_of_mem _ listed),
      cookieItems_single first]
    rfl

theorem cookieItems_plain (cookie : Text) : ∀ item ∈ cookieItems cookie,Plain item := by
  intro item listed
  obtain ⟨raw,nonempty⟩ := List.mem_filter.mp listed
  obtain ⟨part,from_header,rfl⟩ := List.mem_map.mp raw
  exact ⟨trimmed_trimmed part,by simpa using nonempty,fun inside => mem_splitOn_free part from_header (mem_trimmed inside)⟩

section
variable {request : HttpRequest} {token : Option Text} {e : Error}

theorem valuesIn_cookie (cookie : Text) : valuesIn (cookie.splitOn (ch ';')) = (cookieItems cookie).filterMap sessionValue := rfl

def Presents (token : Option Text) (values : List Text) : Prop :=
  token = none ∧ values = [] ∨ ∃ value,token = some value ∧ values = [value] ∧ sessionToken value = true

theorem takeCookie_iff : (takeCookie request).1 = .ok token ↔ Presents token (sessionValues request) := by
  unfold takeCookie sessionValues cookiesOf
  cases request.header "cookie" with
  | none =>
    simp only [Option.elim_none,List.filterMap_nil,Presents,and_true,Except.ok.injEq]
    constructor
    · exact fun same => .inl same.symm
    · rintro (same | ⟨value,-,listed,-⟩)
      · exact same.symm
      · cases listed
  | some cookie =>
    have scans : ∀ kept,scanCookies none [] (cookie.splitOn (ch ';')) = some (token,kept) ↔
        kept = othersIn (cookie.splitOn (ch ';')) ∧ Presents token ((cookieItems cookie).filterMap sessionValue) := by
      intro kept
      rw [scanCookies_iff,valuesIn_cookie,List.nil_append]
      exact and_congr Iff.rfl (or_congr (and_congr eq_comm Iff.rfl) (and_iff_right rfl))
    simp only [Option.elim_some]
    constructor
    · intro taken
      split at taken
      · cases taken
      · rename_i found kept scanned
        cases taken
        exact ((scans kept).mp scanned).2
    · intro presents
      rw [(scans _).mpr ⟨rfl,presents⟩]

theorem takeCookie_error (refused : (takeCookie request).1 = .error e) : e = authenticationRequired := by
  unfold takeCookie at refused
  split at refused
  · cases refused
  · split at refused
    · cases refused
      rfl
    · cases refused

def Retained (before after : HttpRequest) : Prop :=
  after.header "cookie" = if otherCookies before = [] then none else some (joined (otherCookies before))

theorem takeCookie_retained (taken : (takeCookie request).1 = .ok token) : Retained request (takeCookie request).2 := by
  unfold takeCookie at taken ⊢
  unfold Retained otherCookies cookiesOf
  cases present : request.header "cookie" with
  | none => simp [present]
  | some cookie =>
    simp only [present,Option.elim_some] at taken ⊢
    split at taken
    · cases taken
    · rename_i found kept scanned
      have same : kept = (cookieItems cookie).filter fun item => (sessionValue item).isNone := by
        rw [((scanCookies_iff).mp scanned).1,List.nil_append]
        rfl
      simp only [← same]
      cases kept with
      | nil | cons => simp

theorem Retained.cookies (retained : Retained before after) :
    cookiesOf after = otherCookies before ∧ sessionValues after = [] := by
  have plain : ∀ item ∈ otherCookies before,Plain item := by
    intro item listed
    have among := (List.mem_filter.mp listed).1
    unfold cookiesOf at among
    cases present : before.header "cookie" with
    | none => simp [present] at among
    | some cookie =>
      rw [present] at among
      exact cookieItems_plain cookie item among
  have left : cookiesOf after = otherCookies before := by
    unfold cookiesOf
    rw [retained]
    split_ifs with empty
    · exact empty.symm
    · exact cookieItems_joined plain
  refine ⟨left,?_⟩
  rw [sessionValues,left,List.filterMap_eq_nil_iff]
  intro item listed
  exact Option.isNone_iff_eq_none.mp (List.mem_filter.mp listed).2

theorem cookies_unauthorized : cookiesOf (request.eraseHeader "authorization") = cookiesOf request := by
  unfold cookiesOf
  rw [header_eraseHeader,if_neg (by decide)]

theorem takeCookie_header (other : name ≠ Text.of "cookie") :
    (takeCookie request).2.header name = request.header name := by
  have apart : ¬Text.of "cookie" = name := fun same => other same.symm
  unfold takeCookie
  split
  · rfl
  · split
    · rw [header_eraseHeader,if_neg apart]
    · dsimp only
      split
      · rw [header_eraseHeader,if_neg apart]
      · rw [header_setHeader,if_neg apart]

theorem taken_bearer (present : request.header "authorization" = some authorization)
    (formed : WellFormed authorization credential) : takeSessionCredential request =
      (if sessionValues request = [] then .ok (some credential) else .error authenticationRequired,
        (takeCookie (request.eraseHeader "authorization")).2) := by
  have same : sessionValues (request.eraseHeader "authorization") = sessionValues request := by
    rw [sessionValues,cookies_unauthorized]
    rfl
  unfold takeSessionCredential
  rw [present]
  simp only [bearerCredential_iff.mpr formed]
  cases taken : (takeCookie (request.eraseHeader "authorization")).1 with
  | error e =>
    have named : sessionValues request ≠ [] := by
      intro unnamed
      have fine := takeCookie_iff.mpr (show Presents none (sessionValues (request.eraseHeader "authorization")) from
        .inl ⟨rfl,same.trans unnamed⟩)
      rw [taken] at fine
      cases fine
    rw [if_neg named,takeCookie_error taken]
  | ok token =>
    rcases same ▸ takeCookie_iff.mp taken with ⟨rfl,unnamed⟩ | ⟨value,rfl,named,-⟩
    · rw [if_pos unnamed]
    · rw [named,if_neg (by simp)]

theorem taken_malformed (present : request.header "authorization" = some authorization)
    (malformed : ∀ credential,¬WellFormed authorization credential) :
    takeSessionCredential request = (.error authenticationRequired,request.eraseHeader "authorization") := by
  have none : bearerCredential authorization = none := by
    cases found : bearerCredential authorization with
    | none => rfl
    | some credential => exact absurd (bearerCredential_iff.mp found) (malformed credential)
  unfold takeSessionCredential
  rw [present]
  simp only [none]

theorem taken_cookie (absent : request.header "authorization" = none) : takeSessionCredential request = takeCookie request := by
  unfold takeSessionCredential
  rw [absent]

def Source (request : HttpRequest) (token : Option Text) : Prop :=
  (∃ authorization credential,request.header "authorization" = some authorization ∧ WellFormed authorization credential ∧
    token = some credential ∧ sessionValues request = []) ∨
  request.header "authorization" = none ∧ Presents token (sessionValues request)

theorem taken_iff : (takeSessionCredential request).1 = .ok token ↔ Source request token := by
  unfold Source
  cases present : request.header "authorization" with
  | none =>
    rw [taken_cookie present,takeCookie_iff]
    simp
  | some authorization =>
    simp only [Option.some.injEq,exists_and_left,exists_eq_left',reduceCtorEq,false_and,or_false]
    by_cases formed : ∃ credential,WellFormed authorization credential
    · obtain ⟨credential,formed⟩ := formed
      rw [taken_bearer present formed]
      constructor
      · intro taken
        split_ifs at taken with unnamed
        cases taken
        exact ⟨credential,formed,rfl,unnamed⟩
      · rintro ⟨other,also,rfl,unnamed⟩
        have same := (bearerCredential_iff.mpr formed).symm.trans (bearerCredential_iff.mpr also)
        rw [if_pos unnamed,same]
    · rw [taken_malformed present (not_exists.mp formed)]
      constructor
      · exact fun taken => by cases taken
      · rintro ⟨credential,also,-,-⟩
        exact absurd ⟨credential,also⟩ formed

theorem taken_error (refused : (takeSessionCredential request).1 = .error e) : e = authenticationRequired := by
  cases present : request.header "authorization" with
  | none =>
    rw [taken_cookie present] at refused
    exact takeCookie_error refused
  | some authorization =>
    by_cases formed : ∃ credential,WellFormed authorization credential
    · obtain ⟨credential,formed⟩ := formed
      rw [taken_bearer present formed] at refused
      split_ifs at refused
      cases refused
      rfl
    · rw [taken_malformed present (not_exists.mp formed)] at refused
      cases refused
      rfl

-- What the request carries on: no authorization, the other cookies, and everything else as it was.
structure Relieved (before after : HttpRequest) : Prop where
  unauthorized : after.header "authorization" = none
  cookies : cookiesOf after = otherCookies before
  unnamed : sessionValues after = []
  absent : otherCookies before = [] → after.header "cookie" = none
  others : ∀ name : Text,name ≠ Text.of "authorization" → name ≠ Text.of "cookie" → after.header name = before.header name

theorem taken_relieved (taken : (takeSessionCredential request).1 = .ok token) :
    Relieved request (takeSessionCredential request).2 := by
  have relieved : ∀ {before : HttpRequest} {found : Option Text},before.header "authorization" = none →
      (takeCookie before).1 = .ok found → Relieved before (takeCookie before).2 := by
    intro before found absent cookies
    have retained := takeCookie_retained cookies
    refine ⟨?_,retained.cookies.1,retained.cookies.2,fun none => ?_,fun name _ other => takeCookie_header other⟩
    · rw [takeCookie_header (by decide),absent]
    · rw [retained,if_pos none]
  cases present : request.header "authorization" with
  | none =>
    rw [taken_cookie present] at taken ⊢
    exact relieved present taken
  | some authorization =>
    by_cases formed : ∃ credential,WellFormed authorization credential
    · obtain ⟨credential,formed⟩ := formed
      rw [taken_bearer present formed] at taken ⊢
      have same : otherCookies (request.eraseHeader "authorization") = otherCookies request := by
        rw [otherCookies,cookies_unauthorized]
        rfl
      split_ifs at taken with unnamed
      have found : (takeCookie (request.eraseHeader "authorization")).1 = .ok none := takeCookie_iff.mpr (.inl ⟨rfl,by
        rw [sessionValues,cookies_unauthorized]
        exact unnamed⟩)
      obtain ⟨gone,cookies,none_left,empty,others⟩ := relieved (by simp) found
      rw [same] at cookies empty
      refine ⟨gone,cookies,none_left,empty,fun name one two => ?_⟩
      rw [others name one two,header_eraseHeader,if_neg fun same => one same.symm]
    · rw [taken_malformed present (not_exists.mp formed)] at taken
      cases taken

-- Each request is one of three: it has one good credential, it has none at all, or it is refused.
theorem credential_classified (request : HttpRequest) :
    (∀ credential,(takeSessionCredential request).1 = .ok (some credential) ↔
      (∃ authorization,request.header "authorization" = some authorization ∧ WellFormed authorization credential ∧
        sessionValues request = []) ∨
      request.header "authorization" = none ∧ sessionValues request = [credential] ∧ sessionToken credential = true) ∧
    ((takeSessionCredential request).1 = .ok none ↔
      request.header "authorization" = none ∧ sessionValues request = []) ∧
    (∀ e,(takeSessionCredential request).1 = .error e → e = authenticationRequired) ∧
    ∀ token,(takeSessionCredential request).1 = .ok token → Relieved request (takeSessionCredential request).2 := by
  refine ⟨fun credential => ?_,?_,fun e refused => taken_error refused,fun token taken => taken_relieved taken⟩
  · rw [taken_iff]
    constructor
    · rintro (⟨authorization,found,present,formed,same,unnamed⟩ | ⟨absent,⟨same,-⟩ | ⟨value,same,named,valid⟩⟩)
      · cases same
        exact .inl ⟨authorization,present,formed,unnamed⟩
      · cases same
      · cases same
        exact .inr ⟨absent,named,valid⟩
    · rintro (⟨authorization,present,formed,unnamed⟩ | ⟨absent,named,valid⟩)
      · exact .inl ⟨authorization,credential,present,formed,rfl,unnamed⟩
      · exact .inr ⟨absent,.inr ⟨credential,rfl,named,valid⟩⟩
  · rw [taken_iff]
    constructor
    · rintro (⟨authorization,found,-,-,same,-⟩ | ⟨absent,⟨-,unnamed⟩ | ⟨value,same,-,-⟩⟩)
      · cases same
      · exact ⟨absent,unnamed⟩
      · cases same
    · exact fun ⟨absent,unnamed⟩ => .inr ⟨absent,.inl ⟨rfl,unnamed⟩⟩

end

def demoMixed : HttpRequest where
  method := .get
  target := "/"
  headers := (∅ : Map Text Text).insert "cookie" "a=1; ;\t__Host-openproof-session=abc;b"
  body := ""
  remoteAddress := ""
  correlation := ""

theorem credential_classified_mixed : (takeSessionCredential demoMixed).1 = .ok (some "abc") ∧
    cookiesOf (takeSessionCredential demoMixed).2 = otherCookies demoMixed := by
  have taken : (takeSessionCredential demoMixed).1 = .ok (some "abc") :=
    ((credential_classified demoMixed).1 "abc").mpr (.inr (by decide))
  exact ⟨taken,((credential_classified demoMixed).2.2.2 _ taken).cookies⟩

example : otherCookies demoMixed = [Text.of "a=1",Text.of "b"] := by decide

end OpenProof.SessionCredentials
