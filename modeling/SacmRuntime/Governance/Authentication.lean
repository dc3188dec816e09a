import SacmRuntime.Governance.Listings

namespace SacmRuntime
open Session

structure Identity where
  subject : String
  issuer : String
  actorType : String := "user"
  serviceCredentialId : Option String := none

/-- What authentication takes from its surroundings: the variables of the
process, SHA-256, and the JWT library when it is installed. The library reads
the claims of a token that the issuer signed for the audience. -/
structure AuthEnv where
  getenv : String → Option String
  sha256 : String → String
  jwt : Option ((jwksUrl issuer audience token : String) → Except Error Json)

/-- The characters `str.isspace` holds of. -/
def isSpace (c : Char) : Bool :=
  (9 ≤ c.toNat && c.toNat ≤ 13) || (28 ≤ c.toNat && c.toNat ≤ 32) || (8192 ≤ c.toNat && c.toNat ≤ 8202) ||
    c.toNat ∈ [133, 160, 5760, 8232, 8233, 8239, 8287, 12288]

/-- `str.strip()`. -/
def stripped (text : List Char) : List Char := ((text.dropWhile isSpace).reverse.dropWhile isSpace).reverse

namespace AuthEnv

/-- `os.getenv(name, default).lower() == word`. -/
def flagged (env : AuthEnv) (name default word : String) : Bool :=
  ((env.getenv name).getD default).toList.flatMap lowerChar == word.toList

def productionMode (env : AuthEnv) : Bool := env.flagged "SACM_ENVIRONMENT" "development" "production"

def hashServiceToken (env : AuthEnv) (token : List Char) : String :=
  env.sha256 ("sacm:service-token:v1:" ++ String.ofList token)

/-- `_required`. -/
def required (env : AuthEnv) (name : String) : Except Error String :=
  match present (env.getenv name) with
  | some value => .ok value
  | none => .error (.runtimeError (name ++ " must be configured when OIDC authentication is enabled."))

end AuthEnv

def bearerPrefix : List Char := "Bearer ".toList

/-- The token of an `Authorization` header that begins with `Bearer `. -/
def bearerToken (authorization : Option String) : Option (List Char) :=
  (authorization.filter fun header => bearerPrefix.isPrefixOf header.toList).map fun header =>
    stripped (header.toList.drop bearerPrefix.length)

/-- `OIDCAuthenticator.authenticate`. -/
def OIDCAuthenticator.authenticate (env : AuthEnv) (authorization : Option String) : Except Error Identity := do
  let token ← match bearerToken authorization with
    | some token => .ok token
    | none => .error (.permissionError "Bearer authentication is required.")
  let issuer ← env.required "SACM_OIDC_ISSUER"
  let audience ← env.required "SACM_OIDC_AUDIENCE"
  let base := (issuer.toList.reverse.dropWhile (· == '/')).reverse
  let jwksUrl := (env.getenv "SACM_OIDC_JWKS_URL").getD (String.ofList base ++ "/.well-known/jwks.json")
  let decode ← match env.jwt with
    | some decode => .ok decode
    | none => .error (.runtimeError "OIDC support requires: pip install -e '.[auth]'")
  let claims ← decode jwksUrl issuer audience (String.ofList token)
  match claims.get "sub" with
  | .str subject =>
    if subject = "" then .error (.permissionError "OIDC token does not include a subject.")
    else .ok { subject := subject, issuer := issuer }
  | _ => .error (.permissionError "OIDC token does not include a subject.")

/-- `actor_from_request`. -/
def actorFromRequest (env : AuthEnv) (authorization developmentActor : Option String) : Except Error String :=
  if env.flagged "SACM_AUTH_REQUIRED" "false" "true" then
    (OIDCAuthenticator.authenticate env authorization).map Identity.subject
  else
    match present developmentActor with
    | some actor => .ok actor
    | none => .error (.permissionError "X-SACM-Actor is required in local authentication mode.")

/-- The token of a request that is taken for a service token. -/
def presentedServiceToken (authorization : Option String) : Option (List Char) :=
  (bearerToken authorization).filter fun token => serviceToken (String.ofList token)

/-- `authenticate_request`. -/
def authenticateRequest (env : AuthEnv) (authorization developmentActor : Option String) :
    GovernanceMethod Identity :=
  match presentedServiceToken authorization with
  | some token => do
    let now ← utcnow
    let found ← view fun d => d.credentials.rows.find? fun row => row.tokenHash == env.hashServiceToken token
    match found with
    | none => Tx.raise (.permissionError "Service credential is invalid, expired, or revoked.")
    | some credential =>
      if credential.revokedAt ≠ none ∨ credential.expiresAt.any (· ≤ now) then
        Tx.raise (.permissionError "Service credential is invalid, expired, or revoked.")
      else do
        modify fun d => { d with credentials := d.credentials.update credential.id fun row =>
          { row with lastUsedAt := some now } }
        commit
        return { subject := "service:" ++ credential.id, issuer := "sacm-service-credentials", actorType := "service",
                 serviceCredentialId := some credential.id }
  | none => do
    let actor ← Tx.ofExcept (actorFromRequest env authorization developmentActor)
    return { subject := actor, issuer := if env.productionMode then "oidc" else "local" }

/-- A request acts as a service credential only when it presents the token of
that credential, and the credential is live when the request is authenticated.
The principal is looked up at that time or later. -/
def OnlyOwnToken (env : AuthEnv) (authorization developmentActor : Option String) (d : GovernanceDb)
    (supply : Supply) : Prop :=
  ∀ identity, (request (authenticateRequest env authorization developmentActor) d supply).1 = .ok identity →
    ∀ (organizationId : String) (later : Supply) (credential : ServiceCredential), supply.clock 0 ≤ later.clock 0 →
      (request (TenancyService.principal organizationId identity.subject)
        (request (authenticateRequest env authorization developmentActor) d supply).2 later).1 =
          .ok (some (.credential credential)) →
      (bearerToken authorization).map env.hashServiceToken = some credential.tokenHash ∧
        credential.usableAt (supply.clock 0) = true

/-- Without a service token, the request is accepted under the name of a live
credential. The name is the subject of an OIDC token, or a header where no
authentication is required. -/
def NamesCredential (env : AuthEnv) (authorization developmentActor : Option String) (d : GovernanceDb) (now : Nat) :
    Prop :=
  presentedServiceToken authorization = none ∧
    ∃ credential ∈ d.credentials.rows, actorFromRequest env authorization developmentActor = .ok credential.actor ∧
      credential.usableAt now = true ∧
      (bearerToken authorization).map env.hashServiceToken ≠ some credential.tokenHash

section
variable {env : AuthEnv} {authorization developmentActor : Option String} {d : GovernanceDb} {supply : Supply}
  {s t : Session GovernanceDb} {organizationId actorId : String} {credential : ServiceCredential} {identity : Identity}

theorem ServiceCredential.usableAt_iff (credential : ServiceCredential) (now : Nat) :
    credential.usableAt now = true ↔ credential.revokedAt = none ∧ ∀ expiry, credential.expiresAt = some expiry →
      now < expiry := by
  unfold usableAt
  cases credential.expiresAt <;> simp

theorem ServiceCredential.usableAt_earlier {now later : Nat} (order : now ≤ later)
    (usable : credential.usableAt later = true) : credential.usableAt now = true := by
  obtain ⟨unrevoked, unexpired⟩ := (credential.usableAt_iff later).mp usable
  refine (credential.usableAt_iff now).mpr ⟨unrevoked, fun expiry expires => ?_⟩
  have after := unexpired expiry expires
  omega

theorem TenancyService.principal_yields
    (yields : principal organizationId actorId s = (.ok (some (.credential credential)), t)) :
    actorId = credential.actor ∧ s.working.credentials.find credential.id = some credential ∧
      credential.usableAt (s.clock 0) = true := by
  unfold principal at yields
  by_cases service : servicePrefix.isPrefixOf actorId.toList = true
  · rw [if_pos service, bind_view] at yields
    cases found : (s.working.credentials.find (String.ofList (actorId.toList.drop servicePrefix.length))).filter
        fun row => row.organizationId = organizationId ∧ row.revokedAt = none with
    | none =>
      rw [found] at yields
      cases yields
    | some row =>
      rw [found] at yields
      obtain ⟨named, live⟩ := Option.filter_eq_some_iff.mp found
      obtain ⟨ofOrganization, unrevoked⟩ := of_decide_eq_true live
      obtain ⟨actor, stored⟩ := actor_of_named service named
      cases expires : row.expiresAt with
      | none =>
        simp only [expires] at yields
        cases yields
        exact ⟨actor.symm, stored, (credential.usableAt_iff _).mpr ⟨unrevoked, by simp [expires]⟩⟩
      | some expiry =>
        simp only [expires, bind_utcnow] at yields
        by_cases expired : expiry ≤ s.clock 0
        · rw [if_pos expired] at yields
          cases yields
        · rw [if_neg expired] at yields
          cases yields
          refine ⟨actor.symm, stored, (credential.usableAt_iff _).mpr ⟨unrevoked, fun other same => ?_⟩⟩
          rw [expires] at same
          cases same
          omega
  · rw [if_neg service] at yields
    have member := congrArg Prod.fst yields
    change Except.ok _ = _ at member
    simp at member

theorem authenticateRequest_named (plain : presentedServiceToken authorization = none) :
    request (authenticateRequest env authorization developmentActor) d supply =
      ((actorFromRequest env authorization developmentActor).map fun actor =>
        { subject := actor, issuer := if env.productionMode then "oidc" else "local" }, d) := by
  unfold authenticateRequest request
  rw [plain]
  cases actorFromRequest env authorization developmentActor <;> rfl

/-- What a request with a service token is accepted as: the live credential
with the hash of the token, and its last use is stored. -/
theorem authenticateRequest_service {token : List Char} (presented : presentedServiceToken authorization = some token)
    (accepted : (request (authenticateRequest env authorization developmentActor) d supply).1 = .ok identity) :
    ∃ row, d.credentials.find row.id = some row ∧ row.tokenHash = env.hashServiceToken token ∧
      row.usableAt (supply.clock 0) = true ∧ identity.subject = row.actor ∧
      (request (authenticateRequest env authorization developmentActor) d supply).2.credentials.find row.id =
        some { row with lastUsedAt := some (supply.clock 0) } := by
  unfold authenticateRequest request at accepted ⊢
  rw [presented] at accepted ⊢
  simp only [bind_utcnow, bind_view, start_working] at accepted ⊢
  cases found : d.credentials.rows.find? fun row => row.tokenHash == env.hashServiceToken token with
  | none =>
    rw [found] at accepted
    cases accepted
  | some row =>
    rw [found] at accepted
    have hashed : row.tokenHash = env.hashServiceToken token := by
      have same := List.find?_some found
      exact beq_iff_eq.mp same
    have stored : d.credentials.find row.id = some row := Table.find_of_mem (List.mem_of_find?_eq_some found)
    by_cases dead : row.revokedAt ≠ none ∨ row.expiresAt.any (· ≤ supply.clock 0)
    · have refused : row.revokedAt ≠ none ∨ row.expiresAt.any (· ≤ (start d supply).clock 0) = true := dead
      simp only [if_pos refused] at accepted
      cases accepted
    · have admitted : ¬(row.revokedAt ≠ none ∨ row.expiresAt.any (· ≤ (start d supply).clock 0) = true) := dead
      simp only [if_neg admitted] at accepted ⊢
      obtain ⟨unrevoked, unexpired⟩ := not_or.mp dead
      cases accepted
      refine ⟨row, stored, hashed, (row.usableAt_iff _).mpr ⟨not_not.mp unrevoked, fun expiry expires => ?_⟩, rfl, ?_⟩
      · simp only [expires, Option.any_some, decide_eq_true_eq] at unexpired
        omega
      · have keeps : ∀ other : ServiceCredential,
            Keyed.key { other with lastUsedAt := some (supply.clock 0) } = Keyed.key other := fun _ => rfl
        exact (Table.find_update_self keeps).trans (congrArg (Option.map _) stored)

theorem NamesCredential.acts (names : NamesCredential env authorization developmentActor d (supply.clock 0)) :
    ¬OnlyOwnToken env authorization developmentActor d supply := by
  obtain ⟨plain, credential, member, named, usable, other⟩ := names
  intro own
  have answered : request (authenticateRequest env authorization developmentActor) d supply =
      (.ok { subject := credential.actor, issuer := if env.productionMode then "oidc" else "local" }, d) := by
    rw [authenticateRequest_named plain, named]
    rfl
  unfold OnlyOwnToken at own
  rw [answered] at own
  have stored : (start d supply).working.credentials.find credential.id = some credential := Table.find_of_mem member
  obtain ⟨t, looked, -⟩ := TenancyService.principal_credential stored
  have live : credential.usableAt ((start d supply).clock 0) = true := usable
  rw [if_pos live] at looked
  have yields : (request (TenancyService.principal credential.organizationId credential.actor) d supply).1 =
      .ok (some (.credential credential)) := congrArg Prod.fst looked
  exact other (own _ rfl credential.organizationId supply credential (Nat.le_refl _) yields).1

/-- A request acts as a credential only on its own token exactly when it is not
accepted without a service token under the name of a live credential. -/
theorem only_own_token_iff (env : AuthEnv) (authorization developmentActor : Option String) (d : GovernanceDb)
    (supply : Supply) : OnlyOwnToken env authorization developmentActor d supply ↔
      ¬NamesCredential env authorization developmentActor d (supply.clock 0) := by
  constructor
  · intro own names
    exact names.acts own
  · intro unnamed identity accepted organizationId later credential order yields
    obtain ⟨actor, stored, usable⟩ := TenancyService.principal_yields (Prod.ext yields rfl)
    have live : credential.usableAt (supply.clock 0) = true := ServiceCredential.usableAt_earlier order usable
    refine ⟨?_, live⟩
    cases presented : presentedServiceToken authorization with
    | some token =>
      obtain ⟨row, -, hashed, -, subject, used⟩ := authenticateRequest_service presented accepted
      have sameId : row.id = credential.id := by
        have texts : "service:" ++ row.id = "service:" ++ credential.id := subject.symm.trans actor
        simpa using texts
      rw [sameId] at used
      have same := Option.some.inj (used.symm.trans stored)
      have bearer : bearerToken authorization = some token := (Option.filter_eq_some_iff.mp presented).1
      rw [bearer, Option.map_some, ← hashed, ← same]
    | none =>
      rw [authenticateRequest_named presented] at accepted stored
      by_contra other
      have member : credential ∈ d.credentials.rows := Table.find_mem stored
      refine unnamed ⟨presented, credential, member, ?_, live, other⟩
      rw [← actor]
      cases named : actorFromRequest env authorization developmentActor with
      | error e =>
        rw [named] at accepted
        cases accepted
      | ok actor =>
        rw [named] at accepted
        cases accepted
        rfl

end

namespace GovernanceSample

/-- Production, with an issuer whose tokens are about the given subject. -/
def production (subject : String) : AuthEnv where
  getenv name :=
    if name = "SACM_ENVIRONMENT" then some "production"
    else if name = "SACM_AUTH_REQUIRED" then some "true"
    else if name = "SACM_OIDC_ISSUER" then some "https://issuer"
    else if name = "SACM_OIDC_AUDIENCE" then some "sacm"
    else none
  sha256 text := text
  jwt := some fun _ _ _ _ => .ok (.obj [("sub", .str subject)])

end GovernanceSample

open GovernanceSample in
/-- In production, a token of the issuer whose subject is the name of a
credential acts as that credential, whose own token it is not. -/
theorem issuer_names_credential : (production "service:c").productionMode = true ∧
    ¬OnlyOwnToken (production "service:c") (some "Bearer jwt") none (tenant none) (supplyOf "e" 0) := by
  refine ⟨by decide +kernel, ?_⟩
  have plain : presentedServiceToken (some "Bearer jwt") = none := by decide +kernel
  have named : (actorFromRequest (production "service:c") (some "Bearer jwt") none).toOption = some "service:c" := by
    decide +kernel
  have other : (bearerToken (some "Bearer jwt")).map (production "service:c").hashServiceToken ≠ some "h" := by
    decide +kernel
  refine NamesCredential.acts ⟨plain, ⟨"c", "o", none, "viewer", [], none, none, "h", none⟩, ?_, ?_, rfl, other⟩
  · exact List.mem_singleton.mpr rfl
  · cases accepted : actorFromRequest (production "service:c") (some "Bearer jwt") none with
    | error e =>
      rw [accepted] at named
      cases named
    | ok actor =>
      rw [accepted] at named
      cases named
      rfl

end SacmRuntime
