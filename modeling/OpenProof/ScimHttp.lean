import OpenProof.Http
import OpenProof.ScimService

namespace OpenProof.ScimHttp
open AtomicPrograms Foundation ScimDirectory ScimWorld ScimService AtomicPrograms.Prog Http Identities

def kUserSchema : Text := "urn:ietf:params:scim:schemas:core:2.0:User"
def kGroupSchema : Text := "urn:ietf:params:scim:schemas:core:2.0:Group"
def kErrorSchema : Text := "urn:ietf:params:scim:api:messages:2.0:Error"
def kPatchSchema : Text := "urn:ietf:params:scim:api:messages:2.0:PatchOp"
def kMaximumBody : Nat := 1024*1024

-- A handler that leaves early does so with the response it sends.
abbrev Handler (α : Type) := Prog ScimOp ScimOp.Ret HttpResponse α

def scimResponse (status : Nat) (body : Json) : HttpResponse :=
  secure (withType status "application/scim+json" (.json body))

def schemas (schema : Text) : Text × Json := (Text.of "schemas",.array [.string schema])

def scimType : ErrorCode → Option Text
  | .alreadyExists => some "uniqueness"
  | .invalidArgument => some "invalidValue"
  | .notFound => some "noTarget"
  | _ => none

def errorResponse (failure : Error) : HttpResponse :=
  let status := if failure.code = .alreadyExists then 409 else errorHttpStatus failure.code
  scimResponse status (.object (schemas kErrorSchema :: textField "status" (decimal status) ::
    textField "detail" failure.message :: (scimType failure.code).toList.map (textField "scimType")))

def invalidSyntax : Error := .because .invalidArgument "Invalid SCIM request."

def orError (p : ScimCall α) : Handler α := p.mapError errorResponse
def need (result : Result α) : Handler α := orError (check result)

def answered : Except HttpResponse HttpResponse → HttpResponse
  | .ok response => response
  | .error response => response

def optionalString (object : JsonObject) (name : Text) (maximum : Nat) : Result (Option Text) :=
  match JsonObject.find object name with
  | none => .ok none
  | some .null => .ok none
  | some (.string text) => if validText text maximum then .ok (some text) else .error (.plain .invalidArgument)
  | some _ => .error (.plain .invalidArgument)

def requiredString (object : JsonObject) (name : Text) (maximum : Nat) : Result Text :=
  match optionalString object name maximum with
  | .error e => .error e
  | .ok none => .error (.plain .invalidArgument)
  | .ok (some text) => .ok text

def booleanValue (object : JsonObject) (name : Text) (fallback : Bool) : Result Bool :=
  match JsonObject.find object name with
  | none => .ok fallback
  | some .null => .ok fallback
  | some (.bool value) => .ok value
  | some _ => .error (.plain .invalidArgument)

def primaryOf : Option Text → List Json → Result (Option Text)
  | first,[] => .ok first
  | first,.object item :: rest =>
    match requiredString item "value" 320 with
    | .error e => .error e
    | .ok value =>
      match JsonObject.find item "primary" with
      | none => primaryOf (first.or (some value)) rest
      | some (.bool true) => .ok (some value)
      | some (.bool false) => primaryOf (first.or (some value)) rest
      | some _ => .error (.plain .invalidArgument)
  | _,_ :: _ => .error (.plain .invalidArgument)

def primaryEmail (object : JsonObject) : Result (Option Text) :=
  match JsonObject.find object "emails" with
  | none => .ok none
  | some .null => .ok none
  | some (.array items) => primaryOf none items
  | some _ => .error (.plain .invalidArgument)

def memberOf : Json → Result IdentityId
  | .object item => (requiredString item "value" 256).map fun value => ⟨value⟩
  | _ => .error (.plain .invalidArgument)

def members (object : JsonObject) : Result (List IdentityId) :=
  match JsonObject.find object "members" with
  | none => .ok []
  | some .null => .ok []
  | some (.array items) => if items.length > 10000 then .error (.plain .invalidArgument) else items.mapM memberOf
  | some _ => .error (.plain .invalidArgument)

def versionTag (updatedAt : Instant) : Text := "W/\"" ++ decimal updatedAt ++ "\""

def validateIfMatch (request : HttpRequest) (updatedAt : Instant) : Result Unit :=
  match request.header "if-match" with
  | none => .ok ()
  | some condition =>
    if condition == Text.of "*" || condition == versionTag updatedAt then .ok ()
    else fail .failedPrecondition "The SCIM resource changed after the supplied If-Match version."

def isText (expected : Text) : Json → Bool
  | .string text => text == expected
  | _ => false

def containsSchema (value : Option Json) (expected : Text) : Bool :=
  match value with
  | some (.array items) => items.any (isText expected)
  | _ => false

def civil (day : Int) : Int × Nat × Nat :=
  let shifted := day + 719468
  let era := shifted.fdiv 146097
  let dayOfEra := (shifted - era*146097).toNat
  let yearOfEra := (dayOfEra - dayOfEra/1460 + dayOfEra/36524 - dayOfEra/146096)/365
  let dayOfYear := dayOfEra - (365*yearOfEra + yearOfEra/4 - yearOfEra/100)
  let month := (5*dayOfYear + 2)/153
  let year := (yearOfEra : Int) + era*400
  let month' := if month < 10 then month+3 else month-9
  (if month' ≤ 2 then year+1 else year,month',dayOfYear - (153*month + 2)/5 + 1)

-- `{:0width}`: the sign counts.
def padded (width : Nat) (value : Int) : Text :=
  let digits := decimal value.natAbs
  let sign : Text := if value < 0 then [ch '-'] else []
  sign ++ List.replicate (width - sign.length - digits.length) (ch '0') ++ digits

def toIso8601 (instant : Instant) : Text :=
  let day := instant.fdiv 86400000
  let (year,month,date) := civil day
  let time := (instant - day*86400000).toNat
  padded 4 year ++ "-" ++ padded 2 month ++ "-" ++ padded 2 date ++ "T" ++ padded 2 (time/3600000 : Nat) ++ ":"
    ++ padded 2 (time/60000 % 60 : Nat) ++ ":" ++ padded 2 (time/1000 % 60 : Nat) ++ "." ++ padded 3 (time % 1000 : Nat) ++ "Z"

def metaField (resourceType location : Text) (createdAt updatedAt : Instant) : Text × Json :=
  (Text.of "meta",.object [textField "resourceType" resourceType,textField "created" (toIso8601 createdAt),
    textField "lastModified" (toIso8601 updatedAt),textField "location" location,textField "version" (versionTag updatedAt)])

def emails (email : Text) : Text × Json :=
  (Text.of "emails",.array [.object [textField "value" email,(Text.of "primary",.bool true)]])

def userJson (value : UserView) : Json :=
  .object ([schemas kUserSchema,textField "id" value.record.id.value] ++
    value.record.externalId.toList.map (textField "externalId") ++
    [textField "userName" value.record.userName,(Text.of "active",.bool (value.status == .active))] ++
    (value.profile.bind fun profile => profile.displayName).toList.map (textField "displayName") ++
    (value.profile.bind fun profile => profile.email).toList.map emails ++
    [metaField "User" ("/scim/v2/Users/" ++ value.record.id.value) value.record.createdAt value.record.updatedAt])

def memberJson (member : IdentityId) : Json :=
  .object [textField "value" member.value,textField "$ref" ("/scim/v2/Users/" ++ member.value)]

def groupJson (value : GroupView) : Json :=
  .object ([schemas kGroupSchema,textField "id" value.record.id.value] ++
    value.record.externalId.toList.map (textField "externalId") ++
    [textField "displayName" value.record.displayName,(Text.of "members",.array (value.members.map memberJson)),
      metaField "Group" ("/scim/v2/Groups/" ++ value.record.id.value) value.record.createdAt value.record.updatedAt])

def userResponse (value : UserView) : HttpResponse :=
  (scimResponse 200 (userJson value)).setHeader "etag" (versionTag value.record.updatedAt)

def groupResponse (value : GroupView) : HttpResponse :=
  (scimResponse 200 (groupJson value)).setHeader "etag" (versionTag value.record.updatedAt)

def replaces (op : Text) : Bool := op == Text.of "replace" || op == Text.of "Replace"
def adds (op : Text) : Bool := op == Text.of "add" || op == Text.of "Add"
def removes (op : Text) : Bool := op == Text.of "remove" || op == Text.of "Remove"

def patchObject (given : Attributes) (patch : JsonObject) : Result Attributes :=
  match optionalString patch "userName" 320,optionalString patch "externalId" 1024,
      optionalString patch "displayName" 512,primaryEmail patch,booleanValue patch "active" given.active with
  | .ok userName,.ok externalId,.ok displayName,.ok email,.ok active =>
    .ok ⟨userName.getD given.userName,externalId.or given.externalId,active,displayName.or given.displayName,
      email.or given.email⟩
  | _,_,_,_,_ => .error invalidSyntax

def patchPath (given : Attributes) (path : Text) (value : Json) : Result Attributes :=
  match value with
  | .bool flag => if path == Text.of "active" then .ok { given with active := flag } else .error invalidSyntax
  | .string text =>
    if path == Text.of "userName" then .ok { given with userName := text }
    else if path == Text.of "displayName" then .ok { given with displayName := some text }
    else if path == Text.of "externalId" then .ok { given with externalId := some text }
    else .error invalidSyntax
  | _ => .error invalidSyntax

def patchOperation (given : Attributes) : Json → Result Attributes
  | .object operation =>
    match requiredString operation "op" 16,optionalString operation "path" 128 with
    | .ok op,.ok path =>
      if !replaces op then .error invalidSyntax
      else match path,JsonObject.find operation "value" with
        | none,some (.object patch) => patchObject given patch
        | some path,some value => patchPath given path value
        | _,_ => .error invalidSyntax
    | _,_ => .error invalidSyntax
  | _ => .error invalidSyntax

def attributesOf (current : UserView) : Attributes where
  userName := current.record.userName
  externalId := current.record.externalId
  active := current.status == .active
  displayName := current.profile.bind fun profile => profile.displayName
  email := current.profile.bind fun profile => profile.email

def removedMember (path : Text) : Option IdentityId :=
  let before : Text := "members[value eq \""
  if before.isPrefixOf path && (Text.of "\"]").isSuffixOf path then
    some ⟨(path.drop before.length).dropLast.dropLast⟩
  else none

def patchRemoval (given : GroupAttributes) (op path : Text) : Result GroupAttributes :=
  match removedMember path with
  | none => .error invalidSyntax
  | some member =>
    if removes op then .ok { given with members := given.members.filter fun other => other != member }
    else .error invalidSyntax

def patchGroupPath (given : GroupAttributes) (op path : Text) (value : Option Json) : Result GroupAttributes :=
  match value with
  | some (.string text) =>
    if replaces op && path == Text.of "displayName" then .ok { given with displayName := text }
    else if replaces op && path == Text.of "externalId" then .ok { given with externalId := some text }
    else patchRemoval given op path
  | some (.array items) =>
    if (replaces op || adds op) && path == Text.of "members" then
      (members [(Text.of "members",.array items)]).map fun parsed =>
        { given with members := if replaces op then parsed else given.members ++ parsed }
    else patchRemoval given op path
  | _ => patchRemoval given op path

def patchGroupOperation (given : GroupAttributes) : Json → Result GroupAttributes
  | .object operation =>
    match requiredString operation "op" 16,optionalString operation "path" 256 with
    | .ok op,.ok (some path) => patchGroupPath given op path (JsonObject.find operation "value")
    | _,_ => .error invalidSyntax
  | _ => .error invalidSyntax

def groupAttributesOf (current : GroupView) : GroupAttributes where
  displayName := current.record.displayName
  externalId := current.record.externalId
  members := current.members

variable (parse : Text → Option Json) (organization : OrganizationId)

def scimJson (type : Text) : Bool :=
  (Text.of "application/scim+json").isPrefixOf type || (Text.of "application/json").isPrefixOf type

def parseObject (request : HttpRequest) : Result JsonObject :=
  if request.body.isEmpty || request.body.length > kMaximumBody || !(request.header "content-type").any scimJson then
    .error (.plain .invalidArgument)
  else match parse request.body with
    | some (.object fields) => .ok fields
    | _ => .error (.plain .invalidArgument)

def operationsOf (body : JsonObject) : Result (List Json) :=
  match JsonObject.find body "Operations" with
  | some (.array operations) =>
    if containsSchema (JsonObject.find body "schemas") kPatchSchema then .ok operations else .error invalidSyntax
  | _ => .error invalidSyntax

def putAttributes (body : JsonObject) : Result Attributes :=
  match requiredString body "userName" 320 with
  | .error e => .error e
  | .ok userName =>
    match optionalString body "externalId" 1024,booleanValue body "active" true,optionalString body "displayName" 512,
        primaryEmail body with
    | .ok externalId,.ok active,.ok displayName,.ok email => .ok ⟨userName,externalId,active,displayName,email⟩
    | _,_,_,_ => .error invalidSyntax

def putGroupAttributes (body : JsonObject) : Result GroupAttributes :=
  match requiredString body "displayName" 512,members body with
  | .error e,_ => .error e
  | .ok _,.error e => .error e
  | .ok displayName,.ok members =>
    match optionalString body "externalId" 1024 with
    | .ok externalId => .ok ⟨displayName,externalId,members⟩
    | .error _ => .error invalidSyntax

-- `Api::user`, method by method.
def getUser (id : IdentityId) : Handler HttpResponse := do
  let value ← orError (user organization id)
  return userResponse value

def matchUser (request : HttpRequest) (id : IdentityId) : Handler Unit :=
  if (request.header "if-match").isSome then do
    let current ← orError (user organization id)
    need (validateIfMatch request current.record.updatedAt)
  else .ret ()

def deleteUser (request : HttpRequest) (id : IdentityId) : Handler HttpResponse := do
  matchUser organization request id
  orError (ScimService.removeUser organization id)
  return secure (.plain 204)

def putUser (request : HttpRequest) (id : IdentityId) : Handler HttpResponse := do
  matchUser organization request id
  let body ← need (parseObject parse request)
  let given ← need (putAttributes body)
  let value ← orError (replacing organization id given)
  return userResponse value

def patchUser (request : HttpRequest) (id : IdentityId) : Handler HttpResponse := do
  let current ← orError (user organization id)
  let body ← need (parseObject parse request)
  let operations ← need (operationsOf body)
  need (validateIfMatch request current.record.updatedAt)
  let given ← need (operations.foldlM patchOperation (attributesOf current))
  let updated ← orError (replacing organization id given)
  return userResponse updated

-- `Api::group`, its PUT and its PATCH.
def matchGroup (request : HttpRequest) (id : GroupId) : Handler Unit :=
  if (request.header "if-match").isSome then do
    let current ← orError (group organization id)
    need (validateIfMatch request current.record.updatedAt)
  else .ret ()

def putGroup (request : HttpRequest) (id : GroupId) : Handler HttpResponse := do
  matchGroup organization request id
  let body ← need (parseObject parse request)
  let given ← need (putGroupAttributes body)
  let value ← orError (regrouping organization id given)
  return groupResponse value

def patchGroup (request : HttpRequest) (id : GroupId) : Handler HttpResponse := do
  let current ← orError (group organization id)
  let body ← need (parseObject parse request)
  let operations ← need (operationsOf body)
  need (validateIfMatch request current.record.updatedAt)
  let given ← need (operations.foldlM patchGroupOperation (groupAttributesOf current))
  let updated ← orError (regrouping organization id given)
  return groupResponse updated

end OpenProof.ScimHttp
