import OpenProof.Foundation

namespace OpenProof.HttpsUrls
open Foundation

def safeText (value : Text) (maximum : Nat) : Bool := !value.isEmpty && value.length ≤ maximum && !value.any isControl

structure HttpsUrl where
  host : Text
  port : Text
  target : Text
  deriving DecidableEq

def scheme : Text := "https://"

-- `rfind` and the two `substr`: what stands before the last occurrence and what after it.
def splitLast (symbol : UInt8) : Text → Option (Text × Text)
  | [] => none
  | byte :: rest => match splitLast symbol rest with
    | some (before,after) => some (byte :: before,after)
    | none => if byte == symbol then some ([],rest) else none

-- `std::from_chars` for `unsigned int`, all of it, in the range of ports.
def validPort (text : Text) : Bool :=
  let port := text.foldl (fun value digit => value * 10 + (digit.toNat - 48)) 0
  !text.isEmpty && text.all isDigit && port != 0 && port ≤ 65535

def splitAuthority (authority : Text) : Result (Text × Text) :=
  match splitLast (ch ':') authority with
  | some (host,port) =>
    if !validPort port then fail .invalidArgument "The OIDC endpoint port is invalid." else .ok (host,port)
  | none => .ok (authority,"443")

def endsAuthority (byte : UInt8) : Bool := byte == ch '/' || byte == ch '?'

def targetOf (path : Text) : Text :=
  let target := if path.isEmpty then [ch '/'] else path
  if target.head? == some (ch '?') then ch '/' :: target else target

def parseHttpsUrl (raw : Text) : Result HttpsUrl :=
  if !scheme.isPrefixOf raw || raw.length > 4096 || raw.contains (ch '#') then
    fail .invalidArgument "The OIDC endpoint URL is invalid."
  else
    let remaining := raw.drop scheme.length
    let authority := remaining.takeWhile fun byte => !endsAuthority byte
    let path := remaining.dropWhile fun byte => !endsAuthority byte
    if authority.isEmpty || authority.contains (ch '@') || authority.contains (ch '[') || authority.contains (ch ']') then
      fail .invalidArgument "The OIDC endpoint URL authority is invalid."
    else match splitAuthority authority with
      | .error e => .error e
      | .ok (host,port) =>
        if !safeText host 253 then fail .invalidArgument "The OIDC endpoint host is invalid."
        else
          if (targetOf path).head? != some (ch '/') || (targetOf path).contains (ch '\\') then
            fail .invalidArgument "The OIDC endpoint target is invalid."
          else .ok ⟨host,port,targetOf path⟩

inductive Verb where
  | get
  | post

def Verb.text : Verb → Text
  | .get => "GET"
  | .post => "POST"

-- What `httpsRequest` has written first, without the line ends.
def requestLine (verb : Verb) (url : HttpsUrl) : Text := verb.text ++ ch ' ' :: url.target ++ Text.of " HTTP/1.1"
def hostHeader (url : HttpsUrl) : Text := Text.of "Host: " ++ url.host

def Reassembles (raw : Text) (url : HttpsUrl) : Prop :=
  ∃ port path,(port = ch ':' :: url.port ∨ port = [] ∧ url.port = Text.of "443") ∧
    (path = url.target ∨ ch '/' :: path = url.target ∧ (path = [] ∨ path.head? = some (ch '?'))) ∧
    raw = scheme ++ url.host ++ port ++ path

def Clean (text : Text) : Prop := ∀ byte ∈ text,isBlankOrControl byte = false

def OneLine (text : Text) : Prop := ch '\r' ∉ text ∧ ch '\n' ∉ text

theorem clean_of_all (all : (text.all fun byte => !isBlankOrControl byte) = true) : Clean text := by
  simpa [Clean] using all

theorem splitLast_some (split : splitLast symbol text = some (before,after)) : text = before ++ symbol :: after := by
  induction text generalizing before with
  | nil => cases split
  | cons byte rest ih =>
    rw [splitLast] at split
    cases later : splitLast symbol rest with
    | some parts =>
      obtain ⟨first,last⟩ := parts
      rw [later] at split
      cases split
      rw [ih later,List.cons_append]
    | none =>
      rw [later] at split
      split_ifs at split with same
      cases split
      rw [eq_of_beq same,List.nil_append]

theorem splitAuthority_ok (split : splitAuthority authority = .ok (host,port)) :
    (authority = host ++ ch ':' :: port ∧ validPort port = true) ∨ authority = host ∧ port = Text.of "443" := by
  unfold splitAuthority at split
  split at split
  · rename_i before after found
    split at split
    · cases split
    · rename_i valid
      cases split
      exact .inl ⟨splitLast_some found,by simpa using valid⟩
  · cases split
    exact .inr ⟨rfl,rfl⟩

theorem digit_clean (digit : isDigit byte = true) : isBlankOrControl byte = false := by
  simp only [isDigit,isBlankOrControl,Bool.and_eq_true,decide_eq_true_eq,Bool.or_eq_false_iff,decide_eq_false_iff_not,
    beq_eq_false_iff_ne,ne_eq,UInt8.le_iff_toNat_le,← UInt8.toNat_inj] at digit ⊢
  have low : (ch '0').toNat = 48 := by decide
  have high : (ch '9').toNat = 57 := by decide
  have blank : (0x20 : UInt8).toNat = 32 := by decide
  have last : (0x7F : UInt8).toNat = 127 := by decide
  omega

theorem validPort_clean (valid : validPort port = true) : Clean port := by
  simp only [validPort,Bool.and_eq_true,List.all_eq_true] at valid
  exact fun byte inside => digit_clean (valid.1.1.2 byte inside)

theorem targetOf_reads (path : Text) :
    path = targetOf path ∨ ch '/' :: path = targetOf path ∧ (path = [] ∨ path.head? = some (ch '?')) := by
  cases path with
  | nil => exact .inr ⟨by decide,.inl rfl⟩
  | cons byte rest =>
    by_cases query : byte = ch '?'
    · subst query
      exact .inr ⟨by simp [targetOf],.inr rfl⟩
    · exact .inl (by simp [targetOf,query])

theorem parsed_reassembles (accepted : parseHttpsUrl raw = .ok url) : Reassembles raw url ∧ Clean url.port := by
  obtain ⟨shaped,accepted⟩ := passed accepted
  simp only [Bool.or_eq_true,not_or,Bool.not_eq_true,Bool.not_eq_false'] at shaped
  obtain ⟨rest,rfl⟩ := List.isPrefixOf_iff_prefix.mp shaped.1.1
  rw [List.drop_left] at accepted
  obtain ⟨-,accepted⟩ := passed accepted
  split at accepted
  · cases accepted
  rename_i host port divided
  obtain ⟨-,accepted⟩ := passed accepted
  obtain ⟨-,accepted⟩ := passed accepted
  cases accepted
  have whole := (List.takeWhile_append_dropWhile (p:=fun byte => !endsAuthority byte) (l:=rest)).symm
  generalize rest.takeWhile (fun byte => !endsAuthority byte) = authority at *
  generalize rest.dropWhile (fun byte => !endsAuthority byte) = path at *
  rcases splitAuthority_ok divided with ⟨split,valid⟩ | ⟨split,default⟩
  · refine ⟨⟨ch ':' :: port,path,.inl rfl,targetOf_reads path,?_⟩,validPort_clean valid⟩
    rw [whole,split]
    simp
  · refine ⟨⟨[],path,.inr ⟨rfl,default⟩,targetOf_reads path,?_⟩,?_⟩
    · rw [whole,split]
      simp
    · show Clean port
      rw [default]
      exact clean_of_all (by decide)

@[simp] theorem clean_append : Clean (one ++ two) ↔ Clean one ∧ Clean two := List.forall_mem_append

@[simp] theorem clean_cons : Clean (byte :: text) ↔ isBlankOrControl byte = false ∧ Clean text :=
  List.forall_mem_cons

@[simp] theorem clean_nil : Clean [] := List.forall_mem_nil _

theorem scheme_clean : Clean scheme := clean_of_all (by decide)

theorem clean_oneLine (clean : Clean text) : OneLine text :=
  ⟨fun inside => absurd (clean _ inside) (by decide),fun inside => absurd (clean _ inside) (by decide)⟩

@[simp] theorem oneLine_append : OneLine (one ++ two) ↔ OneLine one ∧ OneLine two := by
  simp only [OneLine,List.mem_append,not_or]
  tauto

@[simp] theorem oneLine_cons : OneLine (byte :: text) ↔ (ch '\r' ≠ byte ∧ ch '\n' ≠ byte) ∧ OneLine text := by
  simp only [OneLine,List.mem_cons,not_or]
  tauto

theorem lines_clean (host : Clean url.host) (target : Clean url.target) :
    (∀ verb,OneLine (requestLine verb url)) ∧ OneLine (hostHeader url) := by
  constructor
  · intro verb
    have start : OneLine verb.text := by cases verb <;> (unfold OneLine; decide)
    have version : OneLine (Text.of " HTTP/1.1") := by
      unfold OneLine
      decide
    simp only [requestLine,oneLine_append,oneLine_cons]
    exact ⟨⟨start,by decide,clean_oneLine target⟩,version⟩
  · rw [hostHeader,oneLine_append]
    refine ⟨?_,clean_oneLine host⟩
    unfold OneLine
    decide

-- The parts are clean exactly when the URL is; then both lines are lines.
theorem parsed_clean_iff {raw : Text} {url : HttpsUrl} (accepted : parseHttpsUrl raw = .ok url) :
    (Reassembles raw url ∧ (Clean url.host ∧ Clean url.port ∧ Clean url.target) ∧
      (∀ verb,OneLine (requestLine verb url)) ∧ OneLine (hostHeader url)) ↔ Clean raw := by
  obtain ⟨again,plain⟩ := parsed_reassembles accepted
  have parts := again
  obtain ⟨port,path,written,reached,rfl⟩ := parts
  have separators : isBlankOrControl (ch ':') = false ∧ isBlankOrControl (ch '/') = false := by decide
  have portClean : Clean port := by
    rcases written with rfl | ⟨rfl,-⟩
    · exact clean_cons.mpr ⟨separators.1,plain⟩
    · exact clean_nil
  have pathClean : Clean path ↔ Clean url.target := by
    rcases reached with same | ⟨same,-⟩
    · rw [same]
    · rw [← same,clean_cons]
      simp [separators.2]
  simp only [clean_append,scheme_clean,portClean,pathClean,true_and,and_true]
  constructor
  · rintro ⟨-,⟨host,-,target⟩,-⟩
    exact ⟨host,target⟩
  · rintro ⟨host,target⟩
    exact ⟨again,⟨host,plain,target⟩,lines_clean host target⟩

theorem parsed_clean_iff_token : ∃ url,(Reassembles "https://issuer.example:8443/token?a=b" url ∧
    (Clean url.host ∧ Clean url.port ∧ Clean url.target) ∧ (∀ verb,OneLine (requestLine verb url)) ∧ OneLine (hostHeader url)) := by
  have accepted : parseHttpsUrl "https://issuer.example:8443/token?a=b" = .ok ⟨"issuer.example","8443","/token?a=b"⟩ := by
    decide
  exact ⟨_,(parsed_clean_iff accepted).mpr (clean_of_all (by decide))⟩

-- A line end in the path passes, and the request has one header more.
theorem target_injects : parseHttpsUrl "https://issuer.example/jwks HTTP/1.1\x0d\nX-Role: admin\x0d\nX-Rest: " =
      .ok ⟨"issuer.example","443","/jwks HTTP/1.1\x0d\nX-Role: admin\x0d\nX-Rest: "⟩ ∧
    ¬OneLine (requestLine .get ⟨"issuer.example","443","/jwks HTTP/1.1\x0d\nX-Role: admin\x0d\nX-Rest: "⟩) := by
  constructor
  · decide
  · unfold OneLine
    decide

end OpenProof.HttpsUrls
