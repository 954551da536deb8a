import Sentel.Mqtt.SessionRules

namespace Sentel
namespace Mqtt

open Library Handler Base Queue Event SessionMgr Auth SessionM

/-!
# Password authentication

A client signs its connection parameters with the secret of its device and
sends the signature as the password of its CONNECT packet.  The session parses
client identifier, user name and password into an authentication context, and
the auth service compares the password of that context with the signature.

The parser leaves the password of the context empty.  A signature is never
empty, so with authentication turned on no client that names the signing
method is accepted, whether its password is the signature or not.
-/

/-- A client of a registered device asks to be authenticated by signature. -/
structure SignedConnect (host : Host) (scene : Scene) (request : ConnectRequest) (ctx : Context)
    (secret : GoString) : Prop where
  authNeed : scene.session.authNeed = true
  read : (readConnect scene).outcome = .ok request
  parsed : parseRequestOptions request.rawClientID request.username request.password = (ctx, none)
  method : ctx.signMethod = AuthService.sha1macMethod
  registered : host.auth.getDeviceSecretKey ctx = .ok secret

/-- The handler reaches the connected state exactly when the password is the
signature of the request. -/
def AcceptsExactlySigned (host : Host) (scene : Scene) (request : ConnectRequest) (ctx : Context)
    (secret : GoString) : Prop :=
  (handleConnect host scene).state.session.sessionState = .connected ↔
    request.password = (host.auth.hmac secret (AuthService.signedContent ctx)).val

/-! ## The context has no password -/

def SameClient (ctx other : Context) : Prop :=
  other.clientID = ctx.clientID ∧ other.password = ctx.password

theorem parseOption_client (pair : GoString) (ctx : Context) :
    SameClient ctx (parseOption pair ctx).1 := by
  unfold parseOption
  split
  · split
    · split <;> exact ⟨rfl, rfl⟩
    · split
      · exact ⟨rfl, rfl⟩
      · split
        · split <;> exact ⟨rfl, rfl⟩
        · exact ⟨rfl, rfl⟩
  · exact ⟨rfl, rfl⟩

theorem parseOptions_client (pairs : List GoString) (ctx : Context) :
    SameClient ctx (parseOptions pairs ctx).1 := by
  induction pairs generalizing ctx with
  | nil => exact ⟨rfl, rfl⟩
  | cons pair later ih =>
    have kept := parseOption_client pair ctx
    rw [parseOptions]
    rcases parsed : parseOption pair ctx with ⟨next, problem⟩
    rw [parsed] at kept
    cases problem with
    | some reason => exact kept
    | none => exact ⟨(ih next).1.trans kept.1, (ih next).2.trans kept.2⟩

theorem parseRequestOptions_password (clientID userName password : GoString) :
    (parseRequestOptions clientID userName password).1.password = [] := by
  unfold parseRequestOptions
  split
  · split
    · exact (parseOptions_client _ _).2
    · rfl
  · rfl

theorem mac_ne_nil (mac : Mac) : ([] : GoString) ≠ mac.val := by
  intro empty
  have length := mac.property
  rw [← empty] at length
  cases length

variable {ctx : Context} {secret : GoString} {scene : Scene} {request : ConnectRequest}

theorem authenticate_unauthorized {auth : AuthService} (empty : ctx.password = [])
    (method : ctx.signMethod = AuthService.sha1macMethod)
    (registered : auth.getDeviceSecretKey ctx = .ok secret) :
    auth.authenticate ctx = .error .unauthorized := by
  have different : ¬ ctx.password =
      (auth.hmac secret (AuthService.signedContent { ctx with deviceSecret := secret })).val := by
    rw [empty]
    exact mac_ne_nil _
  rw [AuthService.authenticate, registered]
  change auth.sign { ctx with deviceSecret := secret } = _
  rw [AuthService.sign, if_pos method]
  exact if_neg different

/-! ## The session is not connected -/

theorem notConnected_stable : Stable (fun scene => scene.session.sessionState ≠ .connected) where
  packet := fun _ _ holds => holds
  conn := fun _ _ _ holds => holds
  nextPacketID := fun _ _ holds => holds
  protocol := fun _ _ holds => holds
  keepalive := fun _ _ holds => holds

theorem authNeed_stable : Stable (fun scene => scene.session.authNeed = true) where
  packet := fun _ _ holds => holds
  conn := fun _ _ _ holds => holds
  nextPacketID := fun _ _ holds => holds
  protocol := fun _ _ holds => holds
  keepalive := fun _ _ holds => holds

theorem checkSessionState_of_ne {state : SessionState}
    (different : scene.session.sessionState ≠ state) :
    (checkSessionState state scene).outcome =
      .error (stateMiss state scene.session.sessionState) := by
  change (failIf (scene.session.sessionState ≠ state) _ scene).outcome = _
  rw [failIf, when, if_pos different]
  rfl

theorem readConnect_new (read : (readConnect scene).outcome = .ok request) :
    scene.session.sessionState = .new := by
  by_cases new : scene.session.sessionState = .new
  · exact new
  · rw [readConnect, bind_of_error (checkSessionState_of_ne new)] at read
    cases read

theorem checkAuthentication_unauthorized :
    NeverReturns (checkAuthentication (.error .unauthorized)) :=
  .bind (fun _ => .bind (fun _ => .fail _))

theorem identify_refuses {host : Host}
    (parsed : parseRequestOptions request.rawClientID request.username request.password =
      (ctx, none))
    (method : ctx.signMethod = AuthService.sha1macMethod)
    (registered : host.auth.getDeviceSecretKey ctx = .ok secret)
    (authNeed : scene.session.authNeed = true)
    (notConnected : scene.session.sessionState ≠ .connected) :
    (forall value, (identify host request scene).outcome ≠ .ok value) ∧
      (identify host request scene).state.session.sessionState ≠ .connected := by
  have empty : ctx.password = [] := by
    have blank :=
      parseRequestOptions_password request.rawClientID request.username request.password
    rw [parsed] at blank
    exact blank
  have unauthorized := authenticate_unauthorized empty method registered
  let named : Scene := { scene with session := { scene.session with authctx := ctx } }
  have reached : identify host request scene =
      (do
        checkAuthentication (.error .unauthorized)
        setSession (fun session => { session with
          clientID := ctx.clientID
          productID := ctx.productID })) named := by
    rw [identify, parsed]
    change (do
      when (named.session.authNeed = true)
        (checkAuthentication (host.auth.authenticate ctx))
      _ : SessionM Unit) named = _
    rw [when, if_pos authNeed, unauthorized]
  have stopped := checkAuthentication_unauthorized named
  rw [reached]
  have parts := bind_of_stopped (fun _ : Unit => setSession (fun session =>
    { session with clientID := ctx.clientID, productID := ctx.productID })) stopped
  refine ⟨parts.2.2.1, ?_⟩
  rw [parts.2.1]
  have kept : Keeps (fun scene : Scene => scene.session.sessionState ≠ .connected)
      (fun _ => True) (checkAuthentication (.error .unauthorized)) :=
    checkAuthentication_keeps notConnected_stable (fun _ => True.intro) (fun reason =>
      disconnect_keeps (fun _ _ => SessionState.noConfusion) (fun _ holds => holds)
        (fun _ _ => True.intro) reason (fun _ _ => publishWill_keeps (fun _ => True.intro) _ _)) _
  exact (kept named notConnected).2

theorem handleConnect_refuses {host : Host} (signed : SignedConnect host scene request ctx secret) :
    (handleConnect host scene).state.session.sessionState ≠ .connected := by
  have fresh : scene.session.sessionState ≠ .connected := by
    rw [readConnect_new signed.read]
    exact SessionState.noConfusion
  have stateKept : Keeps _ (fun _ => True) readConnect :=
    readConnect_keeps notConnected_stable (fun _ => True.intro)
  have needKept : Keeps _ (fun _ => True) readConnect :=
    readConnect_keeps authNeed_stable (fun _ => True.intro)
  have refused := identify_refuses signed.parsed signed.method signed.registered
    (needKept scene signed.authNeed).2 (stateKept scene fresh).2
  rw [handleConnect, bind_of_returned signed.read]
  have parts := bind_of_stopped
    (fun _ : Unit => openSession host request.cleanSession request.willMsg) refused.1
  change ((identify host request >>= fun _ => openSession host request.cleanSession request.willMsg)
    (readConnect scene).state).state.session.sessionState ≠ .connected
  rw [parts.2.1]
  exact refused.2

/-! ## A signed request -/

def shortField (text : GoString) : List UInt8 := 0 :: text.length.toUInt8 :: text

def signingHost : Host where
  auth := {
    flavors := ∅
    deviceSecretKey := fun _ _ => .ok (ascii "s")
    hmac := fun _ _ => ⟨List.replicate 20 0x41, rfl⟩ }
  messageSizeLimit := 125
  dial := .ok ()

def signedRequest (password : GoString) : ConnectRequest where
  cleanSession := 1
  willMsg := none
  rawClientID := ascii "c|signmethod=sha1mac,timestamp=1"
  username := ascii "d&p"
  password := password

def signedContext : Context where
  clientID := ascii "c"
  deviceName := ascii "d"
  productID := ascii "p"
  signMethod := AuthService.sha1macMethod
  timestamp := ascii "1"

def signedScene (password : GoString) : Scene where
  session := newMqttSession 0 ⟨[], {}⟩ true
  packet :=
    let body := shortField (ascii "MQTT") ++ [4, 0xC2, 0, 0] ++
      shortField (signedRequest password).rawClientID ++ shortField (ascii "d&p") ++
      shortField password
    { newMqttPacket with
      command := CONNECT
      remainingLength := body.length
      payload := ⟨body, []⟩ }
  broker := newBroker (ascii "b")

def expectedSignature : GoString := List.replicate 20 0x41

theorem signedScene_signed (password : GoString)
    (known : password = expectedSignature ∨ password = []) :
    SignedConnect signingHost (signedScene password) (signedRequest password) signedContext
      (ascii "s") := by
  rcases known with rfl | rfl
  · exact ⟨rfl, by decide, by decide, rfl, rfl⟩
  · exact ⟨rfl, by decide, by decide, rfl, rfl⟩

/-! ## The decision of the password -/

/-- The password decides as it should exactly for the clients that send a
wrong one. -/
theorem acceptsExactlySigned_iff {host : Host} {scene : Scene} {request : ConnectRequest}
    {ctx : Context} {secret : GoString} (signed : SignedConnect host scene request ctx secret) :
    AcceptsExactlySigned host scene request ctx secret ↔
      request.password ≠ (host.auth.hmac secret (AuthService.signedContent ctx)).val := by
  have refused := handleConnect_refuses signed
  constructor
  · intro exact same
    exact refused (exact.mpr same)
  · intro wrong
    exact ⟨fun connected => absurd connected refused, fun same => absurd same wrong⟩

/-- A wrong password is refused, as it should be. -/
theorem unsigned_client_decided :
    AcceptsExactlySigned signingHost (signedScene []) (signedRequest []) signedContext
      (ascii "s") :=
  (acceptsExactlySigned_iff (signedScene_signed [] (Or.inr rfl))).mpr (by decide)

/-- The right signature is refused as well, although there is a queue for the
client. -/
theorem signed_client_refused :
    SignedConnect signingHost (signedScene expectedSignature) (signedRequest expectedSignature)
        signedContext (ascii "s") ∧
      ((signedScene expectedSignature).broker.queueService.newQueue signedContext.clientID false
        signingHost.dial).1 = .ok 0 ∧
      ¬ AcceptsExactlySigned signingHost (signedScene expectedSignature)
        (signedRequest expectedSignature) signedContext (ascii "s") := by
  have signed := signedScene_signed expectedSignature (Or.inl rfl)
  refine ⟨signed, rfl, ?_⟩
  intro decides
  exact handleConnect_refuses signed (decides.mpr rfl)

end Mqtt
end Sentel
