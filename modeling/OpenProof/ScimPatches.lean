import OpenProof.ScimHttp
import OpenProof.ScimReplacements

namespace OpenProof.ScimPatches
open AtomicPrograms Foundation ScimDirectory ScimWorld ScimService ScimRemovals ScimReplacements
open ScimHttp Http Identities
open IdentityProfiles (IdentityProfile)

def gives {α : Type} (name : Text) (read : Json → Option α) : Json → Option α
  | .object operation =>
    match jsonString operation "path",JsonObject.find operation "value" with
    | some path,some value => if path == name then read value else none
    | none,some (.object patch) => (JsonObject.find patch name).bind read
    | _,_ => none
  | _ => none

def named {α : Type} (name : Text) (read : Json → Option α) (operations : List Json) : Option α :=
  (operations.filterMap (gives name read)).getLast?

def asText : Json → Option Text
  | .string text => some text
  | _ => none

def asBool : Json → Option Bool
  | .bool value => some value
  | _ => none

def asEmail : Json → Option Text
  | .array items => (primaryOf none items).toOption.join
  | _ => none

section
variable {given next start last : Attributes} {operations : List Json} {α β : Type}

theorem named_folded {read : Json → Option α} {field : Attributes → β}
    (step : ∀ given operation next,patchOperation given operation = .ok next →
      field next = ((gives name read operation).map put).getD (field given))
    (accepted : operations.foldlM patchOperation start = .ok last) :
    field last = ((named name read operations).map put).getD (field start) := by
  induction operations generalizing start with
  | nil =>
    cases accepted
    rfl
  | cons operation rest ih =>
    obtain ⟨middle,first,further⟩ := bind_ok (by simpa only [List.foldlM_cons] using accepted)
    rw [ih further,step _ _ _ first]
    unfold named
    cases here : gives name read operation with
    | none => simp [List.filterMap_cons_none here]
    | some value =>
      rw [List.filterMap_cons_some here,List.getLast?_cons]
      cases (rest.filterMap (gives name read)).getLast? <;> rfl

theorem optionalString_text (read : optionalString object name maximum = .ok found) : (JsonObject.find object name).bind asText = found := by
  unfold optionalString at read
  split at read
  · cases read
    simp_all
  · cases read
    simp_all [asText]
  · split at read
    · cases read
      simp_all [asText]
    · cases read
  · cases read

theorem booleanValue_bool (read : booleanValue object name fallback = .ok value) :
    ((JsonObject.find object name).bind asBool).getD fallback = value := by
  unfold booleanValue at read
  split at read
  · cases read
    simp_all
  · cases read
    simp_all [asBool]
  · cases read
    simp_all [asBool]
  · cases read

theorem primaryEmail_email (read : primaryEmail object = .ok email) :
    (JsonObject.find object "emails").bind asEmail = email := by
  unfold primaryEmail at read
  split at read
  · cases read
    simp_all
  · cases read
    simp_all [asEmail]
  · simp_all [asEmail,Except.toOption]
  · cases read

theorem optionalString_path {operation : JsonObject} (read : optionalString operation name maximum = .ok path) : jsonString operation name = path := by
  have same := optionalString_text read
  unfold jsonString
  cases found : JsonObject.find operation name with
  | none => simpa [found] using same
  | some value =>
    cases value <;> simpa [found,asText] using same

structure Given (given : Attributes) (operation : Json) (next : Attributes) : Prop where
  userName : next.userName = ((gives "userName" asText operation).map id).getD given.userName
  externalId : next.externalId = ((gives "externalId" asText operation).map some).getD given.externalId
  active : next.active = ((gives "active" asBool operation).map id).getD given.active
  displayName : next.displayName = ((gives "displayName" asText operation).map some).getD given.displayName
  email : next.email = ((gives "emails" asEmail operation).map some).getD given.email

theorem or_given {given : Option α} : given.or value = (given.map some).getD value := by
  cases given <;> rfl

theorem patchObject_given {patch operation : JsonObject} (unpathed : jsonString operation "path" = none)
    (object : JsonObject.find operation "value" = some (.object patch))
    (accepted : patchObject given patch = .ok next) : Given given (.object operation) next := by
  unfold patchObject at accepted
  split at accepted
  · rename_i userName externalId displayName email active one two three four five
    cases accepted
    constructor
    · simp [gives,unpathed,object,optionalString_text one]
    · simp [gives,unpathed,object,optionalString_text two,or_given]
    · simp [gives,unpathed,object,booleanValue_bool five]
    · simp [gives,unpathed,object,optionalString_text three,or_given]
    · simp [gives,unpathed,object,primaryEmail_email four,or_given]
  · cases accepted

theorem patchPath_given {operation : JsonObject} (pathed : jsonString operation "path" = some path)
    (valued : JsonObject.find operation "value" = some value) (accepted : patchPath given path value = .ok next) : Given given (.object operation) next := by
  have one : Text.of "userName" ≠ Text.of "externalId" := by decide
  have two : Text.of "userName" ≠ Text.of "displayName" := by decide
  have three : Text.of "externalId" ≠ Text.of "displayName" := by decide
  unfold patchPath at accepted
  split at accepted
  · split at accepted
    · rename_i flag here
      obtain rfl := beq_iff_eq.mp here
      cases accepted
      constructor <;> simp [gives,pathed,valued,asText,asBool,asEmail]
    · cases accepted
  · split at accepted
    · rename_i text here
      obtain rfl := beq_iff_eq.mp here
      cases accepted
      constructor <;> simp [gives,pathed,valued,asText,asBool,asEmail,one,two]
    · split at accepted
      · rename_i text _ here
        obtain rfl := beq_iff_eq.mp here
        cases accepted
        constructor <;> simp [gives,pathed,valued,asText,asBool,asEmail,two.symm,three.symm]
      · split at accepted
        · rename_i text _ _ here
          obtain rfl := beq_iff_eq.mp here
          cases accepted
          constructor <;> simp [gives,pathed,valued,asText,asBool,asEmail,one.symm,three]
        · cases accepted
  · cases accepted

theorem patchOperation_given (accepted : patchOperation given operation = .ok next) : Given given operation next := by
  unfold patchOperation at accepted
  split at accepted
  · rename_i operation
    split at accepted
    · rename_i op path called found
      have pathed := optionalString_path found
      split at accepted
      · cases accepted
      · split at accepted
        · rename_i patch object
          exact patchObject_given pathed object accepted
        · rename_i path value valued
          exact patchPath_given pathed valued accepted
        · cases accepted
    · cases accepted
  · cases accepted

structure Patched (start : Attributes) (operations : List Json) (last : Attributes) : Prop where
  userName : last.userName = ((named "userName" asText operations).map id).getD start.userName
  externalId : last.externalId = ((named "externalId" asText operations).map some).getD start.externalId
  active : last.active = ((named "active" asBool operations).map id).getD start.active
  displayName : last.displayName = ((named "displayName" asText operations).map some).getD start.displayName
  email : last.email = ((named "emails" asEmail operations).map some).getD start.email

theorem patched (accepted : operations.foldlM patchOperation start = .ok last) : Patched start operations last where
  userName := named_folded (fun _ _ _ taken => (patchOperation_given taken).userName) accepted
  externalId := named_folded (fun _ _ _ taken => (patchOperation_given taken).externalId) accepted
  active := named_folded (fun _ _ _ taken => (patchOperation_given taken).active) accepted
  displayName := named_folded (fun _ _ _ taken => (patchOperation_given taken).displayName) accepted
  email := named_folded (fun _ _ _ taken => (patchOperation_given taken).email) accepted

end

section
variable {α : Type} {w : ScimState}

theorem errorResponse_status (e : Error) : (errorResponse e).status ≠ 200 := by
  change (if e.code = .alreadyExists then 409 else errorHttpStatus e.code) ≠ 200
  cases e.code <;> decide

def Accepted (p : Handler HttpResponse) (w : ScimState) : Prop := (answered (p.run exec w).1).status = 200

theorem orError_accepted (accepted : Accepted ((orError p).bind f) w) : ∃ a,(p.run exec w).1 = .ok a ∧
    ((orError p).bind f).run exec w = (f a).run exec (p.run exec w).2 := by
  unfold Accepted at accepted
  rw [Prog.run_bind,orError,Prog.run_mapError] at accepted ⊢
  generalize p.run exec w = outcome at accepted ⊢
  obtain ⟨result,later⟩ := outcome
  cases result with
  | ok a => exact ⟨a,rfl,rfl⟩
  | error e => exact absurd accepted (errorResponse_status e)

theorem need_accepted (accepted : Accepted ((need result).bind f) w) : ∃ a,result = .ok a ∧
    ((need result).bind f).run exec w = (f a).run exec w := by
  obtain ⟨a,done,onward⟩ := orError_accepted accepted
  rw [Prog.run_check] at done onward
  exact ⟨a,done,onward⟩

end

section
variable {organization : OrganizationId} {id : IdentityId} {given : Attributes} {w : ScimState} {view : UserView}

theorem hydrate_run : ((hydrate organization record).run exec w).2 = w := by
  unfold hydrate
  simp only [ask,Prog.bind_eq,Prog.run_perform_bind,exec,Prog.check_ok,Prog.ret_bind]
  cases w.identities.findById organization record.id with
  | none | some => rfl

theorem hydrate_view (done : ((hydrate organization record).run exec w).1 = .ok view) : view.record = record ∧
    statusOf organization record.id w = some view.status ∧ view.profile = w.profiles.find record.id := by
  unfold hydrate at done
  simp only [ask,Prog.bind_eq,Prog.run_perform_bind,exec,Prog.check_ok,Prog.ret_bind] at done
  unfold statusOf
  cases found : w.identities.findById organization record.id with
  | none =>
    rw [found] at done
    cases done
  | some identity =>
    rw [found] at done
    cases done
    exact ⟨rfl,rfl,rfl⟩

theorem user_run : ((user organization id).run exec w).2 = w := by
  unfold user
  rw [Prog.bind_eq,Prog.run_bind,requireUser_run]
  generalize restoredUser (w.users.find organization id) = found
  cases found with
  | error e => rfl
  | ok found =>
    cases found with
    | none => rfl
    | some record => exact hydrate_run

theorem nullIfEmpty_restored (restored : restoredUser (some row) = .ok found) :
    nullIfEmpty row.externalId = row.externalId := by
  unfold restoredUser UserRecord.create at restored
  dsimp only at restored
  split at restored
  · cases restored
  · rename_i valid
    simp only [Bool.or_eq_true,Bool.not_eq_true',not_or,Bool.not_eq_false] at valid
    have given := valid.1.2
    cases external : row.externalId with
    | none => rfl
    | some text =>
      have lettered : text.isEmpty = false := by
        simp only [external,validOptional,Option.all_some,validText,Bool.and_eq_true,Bool.not_eq_true'] at given
        exact given.1.1
      exact Option.filter_eq_some_iff.mpr ⟨rfl,by simp [lettered]⟩

theorem user_view (done : ((user organization id).run exec w).1 = .ok view) :
    w.users.find organization id = some view.record ∧ nullIfEmpty view.record.externalId = view.record.externalId ∧
      statusOf organization id w = some view.status ∧ view.profile = w.profiles.find id := by
  unfold user at done
  rw [Prog.bind_eq,Prog.run_bind,requireUser_run] at done
  cases listed : restoredUser (w.users.find organization id) with
  | error e =>
    rw [listed] at done
    cases done
  | ok found =>
    cases found with
    | none =>
      rw [listed] at done
      cases done
    | some record =>
      rw [listed] at done
      have stored := (restoredUser_same listed).symm
      obtain ⟨rfl,standing,shown⟩ := hydrate_view done
      have named := (Table.find_some stored).2.2
      rw [named] at standing shown
      exact ⟨stored,nullIfEmpty_restored (stored ▸ listed),standing,shown⟩

theorem recording_done (done : ((recording organization given record now).run exec w).1 = .ok view)
    (stored : w.users.find organization id = some record) (within : record.organization = organization) (same : record.id = id) :
    ∃ users : Table IdentityId,((recording organization given record now).run exec w).2 = { w with users := users } ∧
      users.find organization id = some { record with
        name := given.userName
        externalId := nullIfEmpty given.externalId
        updatedAt := now } := by
  unfold recording at done ⊢
  cases renamed : UserRecord.rename record given.userName given.externalId now with
  | error e =>
    rw [renamed] at done
    cases done
  | ok renamed_ =>
    rw [renamed] at done
    obtain rfl := Row.rename_spec renamed
    simp only [ask,Prog.bind_eq,Prog.check_ok,Prog.ret_bind,Prog.run_perform_bind,exec] at done ⊢
    rcases Table.save_cases "save SCIM user" _ w.users with ⟨e,failed⟩ | ⟨row,free,found,saved⟩
    · rw [failed] at done
      cases done
    · subst within
      subst same
      cases found.symm.trans stored
      rw [saved]
      simp only [Prog.check_ok,Prog.ret_bind,hydrate_run]
      exact ⟨_,rfl,by simp⟩

structure Replaced (organization : OrganizationId) (id : IdentityId) (given : Attributes) (before after : ScimState) :
    Prop where
  record : ∃ record now,before.users.find organization id = some record ∧
    after.users.find organization id = some { record with
      name := given.userName
      externalId := nullIfEmpty given.externalId
      updatedAt := now }
  status : statusOf organization id after = some (target given.active)
  member : ∃ current,memberOf organization id before = some current ∧ memberOf organization id after =
    some (if current.state = moved given.active then switched given.active current else current)
  profile : ∃ profile updated now now',profileThen id before = .ok (profile,now) ∧
    provisioned profile given.displayName given.userName given.email now' = .ok updated ∧
      after.profiles.find id = some updated

theorem replacing_done (done : ((replacing organization id given).run exec w).1 = .ok view) :
    Replaced organization id given w ((replacing organization id given).run exec w).2 := by
  rcases replacing_cases organization id given w with ⟨e,-,failed,-⟩ | ⟨e,failed,-⟩ | ⟨current,status,updated,passes⟩
  · cases failed.symm.trans done
  · cases failed.symm.trans done
  · obtain ⟨record,now,clock,listed,ran⟩ := passes_run passes
    rw [ran] at done ⊢
    have stored : w.users.find organization id = some record := (restoredUser_same listed).symm
    obtain ⟨-,within,same⟩ := Table.find_some stored
    obtain ⟨users,left,found⟩ := recording_done done stored within same
    rw [left]
    obtain ⟨profile,now',started,drafted⟩ := passes.drafted
    refine ⟨⟨record,now,stored,found⟩,(changeStatus_open passes.changing _).2,⟨current,passes.member,?_⟩,?_⟩
    · exact placed_member passes.member
    · refine ⟨profile,updated,now',now',started,drafted,?_⟩
      simp [ScimReplacements.stored,passes.identity]

end

def operationsIn (parse : Text → Option Json) (request : HttpRequest) : Result (List Json) :=
  parseObject parse request >>= operationsOf

def patching (parse : Text → Option Json) (organization : OrganizationId) (request : HttpRequest) (id : IdentityId)
    (w : ScimState) : Except HttpResponse HttpResponse × ScimState := (patchUser parse organization request id).run exec w

section
variable {parse : Text → Option Json} {organization : OrganizationId} {request : HttpRequest} {id : IdentityId}
  {w : ScimState} {operations : List Json}

theorem patchUser_accepted (accepted : (answered (patching parse organization request id w).1).status = 200)
    (listed : operationsIn parse request = .ok operations) : ∃ view given,
      ((user organization id).run exec w).1 = .ok view ∧ operations.foldlM patchOperation (attributesOf view) = .ok given ∧
        Replaced organization id given w (patching parse organization request id w).2 := by
  have accepted : Accepted (patchUser parse organization request id) w := accepted
  unfold patching
  unfold patchUser at accepted ⊢
  simp only [Prog.bind_eq,Prog.pure_eq] at accepted ⊢
  obtain ⟨view,shown,one⟩ := orError_accepted accepted
  rw [user_run] at one
  unfold Accepted at accepted
  rw [one] at accepted ⊢
  obtain ⟨body,parsed,two⟩ := need_accepted accepted
  rw [two] at accepted ⊢
  obtain ⟨operations',found,three⟩ := need_accepted accepted
  rw [three] at accepted ⊢
  obtain ⟨-,-,four⟩ := need_accepted accepted
  rw [four] at accepted ⊢
  obtain ⟨given,folded,five⟩ := need_accepted accepted
  rw [five] at accepted ⊢
  obtain ⟨reply,replaced,six⟩ := orError_accepted accepted
  rw [six]
  have same : operationsIn parse request = .ok operations' := by
    unfold operationsIn
    rw [parsed]
    exact found
  cases same.symm.trans listed
  exact ⟨view,given,shown,folded,replacing_done replaced⟩

end

def nameOf (organization : OrganizationId) (id : IdentityId) (w : ScimState) : Option Text :=
  (w.users.find organization id).map Row.name
def externalIdOf (organization : OrganizationId) (id : IdentityId) (w : ScimState) : Option Text :=
  (w.users.find organization id).bind Row.externalId
def profileText (field : IdentityProfile → Option Text) (id : IdentityId) (w : ScimState) : Option Text :=
  (w.profiles.find id).bind field
def profileFlag (field : IdentityProfile → Bool) (id : IdentityId) (w : ScimState) : Bool := (w.profiles.find id).any field

structure Framed (organization : OrganizationId) (id : IdentityId) (operations : List Json) (before after : ScimState) :
    Prop where
  userName : named "userName" asText operations = none → nameOf organization id after = nameOf organization id before
  externalId : named "externalId" asText operations = none →
    externalIdOf organization id after = externalIdOf organization id before
  status : named "active" asBool operations = none → statusOf organization id after = statusOf organization id before
  member : named "active" asBool operations = none → memberOf organization id after = memberOf organization id before
  displayName : named "displayName" asText operations = none →
    profileText (·.displayName) id after = profileText (·.displayName) id before
  email : named "emails" asEmail operations = none → profileText (·.email) id after = profileText (·.email) id before
  verified : profileText (·.email) id after = profileText (·.email) id before →
    profileFlag (·.emailVerified) id after = profileFlag (·.emailVerified) id before
  preferredUsername : profileText (·.preferredUsername) id after = profileText (·.preferredUsername) id before
  locale : profileText (·.locale) id after = profileText (·.locale) id before
  pictureUrl : profileText (·.pictureUrl) id after = profileText (·.pictureUrl) id before
  phoneNumber : profileText (·.phoneNumber) id after = profileText (·.phoneNumber) id before
  phoneNumberVerified : profileFlag (·.phoneNumberVerified) id after = profileFlag (·.phoneNumberVerified) id before
  avatarSource : profileText (some ·.avatarSource) id after = profileText (some ·.avatarSource) id before

structure Plain (operations : List Json) (record : UserRecord) (profile : IdentityProfile) : Prop where
  locale : profile.locale = none
  pictureUrl : profile.pictureUrl = none
  called : profile.preferredUsername = some ((named "userName" asText operations).getD record.name)
  verified : profile.emailVerified = true →
    profile.email = none ∨ ∃ email,named "emails" asEmail operations = some email ∧ profile.email ≠ some email

def Told (status : IdentityStatus) (state : MembershipState) : Prop :=
  status = .active ∧ state ≠ .suspended ∨ status = .suspended ∧ state ≠ .active

structure Harmless (organization : OrganizationId) (id : IdentityId) (operations : List Json) (w : ScimState) : Prop where
  plain : ∃ record profile,w.users.find organization id = some record ∧ w.profiles.find id = some profile ∧
    Plain operations record profile
  told : named "active" asBool operations = none → ∃ status current,statusOf organization id w = some status ∧
    memberOf organization id w = some current ∧ Told status current.state

section
variable {organization : OrganizationId} {id : IdentityId} {operations : List Json} {view : UserView}
  {given : Attributes}

theorem told_iff : Told status state ↔ status = target (status == .active) ∧ state ≠ moved (status == .active) := by
  cases status <;> cases state <;> simp [Told,target,moved]

theorem told_kept (silent : named "active" asBool operations = none)
    (standing : statusOf organization id before = some view.status)
    (found : memberOf organization id before = some current) (patched : Patched (attributesOf view) operations given)
    (replaced : Replaced organization id given before after) :
    statusOf organization id after = statusOf organization id before ∧
      memberOf organization id after = memberOf organization id before ↔ Told view.status current.state := by
  have active : given.active = (view.status == .active) := by
    rw [patched.active,silent]
    rfl
  obtain ⟨current',there,member⟩ := replaced.member
  cases found.symm.trans there
  rw [replaced.status,member,standing,found,told_iff,active]
  constructor
  · rintro ⟨status,kept⟩
    refine ⟨(Option.some.inj status).symm,fun other => ?_⟩
    rw [if_pos other] at kept
    have left : (switched (view.status == .active) current).state ≠ moved (view.status == .active) := switched_state
    apply left
    rw [Option.some.inj kept]
    exact other
  · rintro ⟨status,kept⟩
    rw [if_neg kept]
    exact ⟨congrArg some status.symm,rfl⟩

theorem profile_after (stored : before.profiles.find id = some profile)
    (replaced : Replaced organization id given before after) : ∃ now,after.profiles.find id = some { profile with
      displayName := given.displayName
      preferredUsername := some given.userName
      email := given.email.or profile.email
      emailVerified := if given.email.isSome then false else profile.emailVerified
      locale := none
      pictureUrl := none
      updatedAt := now } := by
  obtain ⟨profile',updated,now,now',started,drafted,found⟩ := replaced.profile
  unfold profileThen at started
  rw [stored] at started
  cases started
  exact ⟨now',found.trans (congrArg some (provisioned_spec drafted).2)⟩

theorem profile_made (absent : before.profiles.find id = none) (replaced : Replaced organization id given before after) :
    profileText (·.preferredUsername) id after ≠ profileText (·.preferredUsername) id before := by
  obtain ⟨profile,updated,now,now',started,drafted,found⟩ := replaced.profile
  unfold profileText
  rw [found,absent,(provisioned_spec drafted).2]
  exact nofun

theorem plain_iff (stored : before.profiles.find id = some profile) (shown : view.profile = some profile)
    (patched : Patched (attributesOf view) operations given)
    (replaced : Replaced organization id given before after) :
    ((profileText (·.email) id after = profileText (·.email) id before →
        profileFlag (·.emailVerified) id after = profileFlag (·.emailVerified) id before) ∧
      profileText (·.preferredUsername) id after = profileText (·.preferredUsername) id before ∧
        profileText (·.locale) id after = profileText (·.locale) id before ∧
          profileText (·.pictureUrl) id after = profileText (·.pictureUrl) id before) ↔
      Plain operations view.record profile := by
  obtain ⟨now,found⟩ := profile_after stored replaced
  have called : given.userName = (named "userName" asText operations).getD view.record.name := by
    rw [patched.userName,Option.map_id_fun]
    rfl
  have mailed : given.email = ((named "emails" asEmail operations).map some).getD profile.email := by
    rw [patched.email]
    simp [attributesOf,shown]
  unfold profileText profileFlag
  simp only [found,stored,Option.bind_some,Option.any_some]
  constructor
  · rintro ⟨verified,name,locale,picture⟩
    refine ⟨locale.symm,picture.symm,?_,?_⟩
    · rw [← name,called]
    · intro flagged
      by_contra spoiled
      simp only [not_or,not_exists,not_and,not_not] at spoiled
      obtain ⟨⟨email,old⟩,same⟩ := And.imp_left Option.ne_none_iff_exists'.mp spoiled
      have given_ : given.email = some email := by
        rw [mailed]
        cases new : named "emails" asEmail operations with
        | none => exact old
        | some other => exact congrArg some (Option.some.inj ((same other new).symm.trans old))
      have kept := verified (by simp [given_,old])
      rw [given_,flagged] at kept
      cases kept
  · rintro ⟨locale,picture,name,verified⟩
    refine ⟨?_,?_,locale.symm,picture.symm⟩
    · intro same
      cases flagged : profile.emailVerified with
      | false => simp
      | true =>
        rcases verified flagged with none_ | ⟨email,new,other⟩
        · have ungiven : given.email = none := by
            cases given_ : given.email with
            | none => rfl
            | some email => simp [given_,none_] at same
          simp [ungiven]
        · rw [mailed,new] at same
          exact absurd same.symm other
    · rw [name,called]

theorem unnamed_kept (found : before.users.find organization id = some view.record)
    (whole : nullIfEmpty view.record.externalId = view.record.externalId) (shown : view.profile = before.profiles.find id)
    (patched : Patched (attributesOf view) operations given) (replaced : Replaced organization id given before after) :
    (named "userName" asText operations = none → nameOf organization id after = nameOf organization id before) ∧
      (named "externalId" asText operations = none →
        externalIdOf organization id after = externalIdOf organization id before) ∧
      (named "displayName" asText operations = none →
        profileText (·.displayName) id after = profileText (·.displayName) id before) ∧
      (named "emails" asEmail operations = none → profileText (·.email) id after = profileText (·.email) id before) := by
  obtain ⟨record,now,there,left⟩ := replaced.record
  cases found.symm.trans there
  obtain ⟨profile,updated,_,_,started,drafted,stored⟩ := replaced.profile
  have made := (provisioned_spec drafted).2
  have began : before.profiles.find id = some profile ∨ before.profiles.find id = none ∧ profile.email = none := by
    unfold profileThen at started
    split at started
    · rename_i held
      cases started
      exact .inl held
    · rename_i held
      unfold IdentityProfile.create at started
      split at started
      · cases started
      · cases started
        exact .inr ⟨held,rfl⟩
  refine ⟨?_,?_,?_,?_⟩
  · intro silent
    unfold nameOf
    rw [left,found,patched.userName,silent]
    rfl
  · intro silent
    have kept : given.externalId = view.record.externalId := by
      rw [patched.externalId,silent]
      rfl
    unfold externalIdOf
    rw [left,found,kept]
    exact whole
  · intro silent
    unfold profileText
    rw [stored,made,← shown]
    exact patched.displayName.trans (by rw [silent]; rfl)
  · intro silent
    have kept : given.email = (before.profiles.find id).bind (·.email) := by
      rw [patched.email,silent,← shown]
      rfl
    unfold profileText
    rw [stored,made,← kept]
    rcases began with held | ⟨held,none_⟩
    · rw [held] at kept
      simp [kept]
    · rw [held] at kept
      simp [kept,none_]

theorem framed_iff (found : before.users.find organization id = some view.record)
    (whole : nullIfEmpty view.record.externalId = view.record.externalId)
    (standing : statusOf organization id before = some view.status) (shown : view.profile = before.profiles.find id)
    (patched : Patched (attributesOf view) operations given) (replaced : Replaced organization id given before after) :
    Framed organization id operations before after ↔ Harmless organization id operations before := by
  obtain ⟨userName,externalId,displayName,email⟩ := unnamed_kept found whole shown patched replaced
  obtain ⟨current,there,-⟩ := replaced.member
  constructor
  · intro framed
    constructor
    · cases stored : before.profiles.find id with
      | none => exact absurd framed.preferredUsername (profile_made stored replaced)
      | some profile =>
        refine ⟨view.record,profile,found,rfl,?_⟩
        apply (plain_iff stored (shown.trans stored) patched replaced).mp
        exact ⟨framed.verified,framed.preferredUsername,framed.locale,framed.pictureUrl⟩
    · intro silent
      refine ⟨view.status,current,standing,there,?_⟩
      exact (told_kept silent standing there patched replaced).mp ⟨framed.status silent,framed.member silent⟩
  · rintro ⟨⟨record,profile,listed,stored,plain⟩,told⟩
    cases found.symm.trans listed
    obtain ⟨verified,preferred,locale,picture⟩ := (plain_iff stored (shown.trans stored) patched replaced).mpr plain
    have kept : named "active" asBool operations = none → statusOf organization id after = statusOf organization id before ∧
        memberOf organization id after = memberOf organization id before := by
      intro silent
      obtain ⟨status,member,one,two,apart⟩ := told silent
      cases one.symm.trans standing
      cases two.symm.trans there
      exact (told_kept silent standing there patched replaced).mpr apart
    obtain ⟨now,after_⟩ := profile_after stored replaced
    exact {
      userName := userName
      externalId := externalId
      status := fun silent => (kept silent).1
      member := fun silent => (kept silent).2
      displayName := displayName
      email := email
      verified := verified
      preferredUsername := preferred
      locale := locale
      pictureUrl := picture
      phoneNumber := by simp [profileText,after_,stored]
      phoneNumberVerified := by simp [profileFlag,after_,stored]
      avatarSource := by simp [profileText,after_,stored] }

end

-- A PATCH changes only what it names where nothing is lost on the way through a replacement.
theorem patch_framed_iff {parse : Text → Option Json} {organization : OrganizationId} {request : HttpRequest}
    {id : IdentityId} {w : ScimState} {operations : List Json} (listed : operationsIn parse request = .ok operations)
    (accepted : (answered (patching parse organization request id w).1).status = 200) :
    Framed organization id operations w (patching parse organization request id w).2 ↔
      Harmless organization id operations w := by
  obtain ⟨view,given,read,folded,replaced⟩ := patchUser_accepted accepted listed
  obtain ⟨found,whole,standing,shown⟩ := user_view read
  exact framed_iff found whole standing shown (patched folded) replaced

section

def demoOperation : Json :=
  .object [(Text.of "op",.string "replace"),(Text.of "path",.string "displayName"),(Text.of "value",.string "Ann")]

def demoParse (_ : Text) : Option Json :=
  some (.object [(Text.of "schemas",.array [.string kPatchSchema]),(Text.of "Operations",.array [demoOperation])])

def demoRequest : HttpRequest where
  method := .patch
  target := "/scim/v2/Users/opi_E"
  headers := (∅ : Map Text Text).insert "content-type" "application/scim+json"
  body := "{}"
  remoteAddress := "10.0.0.1"
  correlation := "c"

def demoProfile (locale : Option Text) (emailVerified : Bool) : IdentityProfile where
  identity := ⟨"opi_E"⟩
  displayName := none
  preferredUsername := some "ann"
  email := some "ann@mail.org"
  emailVerified := emailVerified
  phoneNumber := none
  phoneNumberVerified := false
  locale := locale
  pictureUrl := none
  avatarSource := "auto"
  createdAt := 0
  updatedAt := 0

def demoWith (status : IdentityStatus) (profile : IdentityProfile) : ScimState :=
  { demoOwner status demoMembership with
    users := (Table.empty.add "insert SCIM user" ⟨⟨"opi_E"⟩,⟨"org"⟩,"ann",none,0,0⟩).2
    profiles := Profiles.empty.save profile }

def demoPatched (w : ScimState) : Except HttpResponse HttpResponse × ScimState :=
  patching demoParse ⟨"org"⟩ demoRequest ⟨"opi_E"⟩ w

theorem patch_unframed : (answered (demoPatched (demoWith .locked (demoProfile (some "fa") true))).1).status = 200 ∧
    operationsIn demoParse demoRequest = .ok [demoOperation] ∧
      statusOf ⟨"org"⟩ ⟨"opi_E"⟩ (demoPatched (demoWith .locked (demoProfile (some "fa") true))).2 = some .suspended ∧
        profileText (·.locale) ⟨"opi_E"⟩ (demoPatched (demoWith .locked (demoProfile (some "fa") true))).2 = none ∧
          profileFlag (·.emailVerified) ⟨"opi_E"⟩ (demoPatched (demoWith .locked (demoProfile (some "fa") true))).2 = false ∧
            ¬Framed ⟨"org"⟩ ⟨"opi_E"⟩ [demoOperation] (demoWith .locked (demoProfile (some "fa") true))
              (demoPatched (demoWith .locked (demoProfile (some "fa") true))).2 := by
  have accepted : (answered (demoPatched (demoWith .locked (demoProfile (some "fa") true))).1).status = 200 := by
    decide
  have left : profileText (·.locale) ⟨"opi_E"⟩ (demoPatched (demoWith .locked (demoProfile (some "fa") true))).2 = none := by
    decide
  refine ⟨accepted,rfl,by decide,left,by decide,?_⟩
  intro framed
  have had : profileText (·.locale) ⟨"opi_E"⟩ (demoWith .locked (demoProfile (some "fa") true)) = some (Text.of "fa") := by
    decide
  have kept := framed.locale
  rw [left,had] at kept
  cases kept

theorem patch_framed_plain : Framed ⟨"org"⟩ ⟨"opi_E"⟩ [demoOperation] (demoWith .active (demoProfile none false))
    (demoPatched (demoWith .active (demoProfile none false))).2 := by
  apply (patch_framed_iff rfl (by decide)).mpr
  constructor
  · refine ⟨⟨⟨"opi_E"⟩,⟨"org"⟩,"ann",none,0,0⟩,demoProfile none false,by decide,by decide,rfl,rfl,?_,nofun⟩
    decide
  · intro _
    exact ⟨.active,demoMembership,by decide,by decide,.inl ⟨rfl,nofun⟩⟩

end

end OpenProof.ScimPatches
