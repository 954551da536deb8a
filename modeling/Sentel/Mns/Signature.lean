import Mathlib.Data.List.Dedup
import Mathlib.Data.List.Sort
import Sentel.Library.GoMap
import Sentel.Library.GoString

namespace Sentel
namespace Mns

open Library

/-!
# Signed requests

A client of the message service signs its requests with the secret of its
account, and the service signs what it received and compares.  Both sides put
the method, three headers, the headers of the service and the resource into
one text.  On the way the names of the headers are brought into their canonical
form, in which none of them begins with the lower case mark of the service.
-/

/-! ## The text that is signed -/

/-- The hash functions and the encoding of their results.  Nothing is known of
them except that an encoded text has neither a blank nor a colon. -/
structure Crypto where
  hmacSha1 : GoString -> GoString -> List UInt8
  md5 : List UInt8 -> List UInt8
  base64 : List UInt8 -> GoString
  base64_plain : forall bytes, (0x20 : UInt8) ∉ base64 bytes ∧ (0x3A : UInt8) ∉ base64 bytes

def Crypto.sign (crypto : Crypto) (secretKey text : GoString) : GoString :=
  crypto.base64 (crypto.hmacSha1 secretKey text)

def hexText (bytes : List UInt8) : GoString :=
  bytes.flatMap (fun byte => [hexDigit (byte.toNat / 16), hexDigit (byte.toNat % 16)])

def newline : UInt8 := 0x0A

/-- Both sides write the text in the same way. -/
def stringToSign (method contentMD5 contentType date : GoString) (headers : List GoString)
    (resource : GoString) : GoString :=
  method ++ newline :: (contentMD5 ++ newline :: (contentType ++ newline :: (date ++ newline ::
    ([newline].intercalate headers ++ newline :: resource))))

def AUTHORIZATION : GoString := ascii "Authorization"
def CONTENT_TYPE : GoString := ascii "Content-Type"
def CONTENT_MD5 : GoString := ascii "Content-MD5"
def MQ_VERSION : GoString := ascii "x-mns-version"
def DATE : GoString := ascii "Date"
def version : GoString := ascii "2018-05-01"

/-- The mark of the service's own headers, as both sides look for it. -/
def isMnsHeader (name : GoString) : Bool :=
  (ascii "x-mns-").isPrefixOf name

/-! ## Headers on the way -/

def isUpper (byte : UInt8) : Bool := 65 ≤ byte && byte ≤ 90
def isLower (byte : UInt8) : Bool := 97 ≤ byte && byte ≤ 122
def isNumeral (byte : UInt8) : Bool := 48 ≤ byte && byte ≤ 57

/-- The bytes of a method or of a header's name. -/
def isToken (byte : UInt8) : Bool :=
  isUpper byte || isLower byte || isNumeral byte || (ascii "!#$%&'*+-.^_`|~").contains byte

def toUpper (byte : UInt8) : UInt8 := if isLower byte then byte - 32 else byte
def toLower (byte : UInt8) : UInt8 := if isUpper byte then byte + 32 else byte

def canonicalLetters : Bool -> GoString -> GoString
  | _, [] => []
  | upper, byte :: rest =>
    (if upper then toUpper byte else toLower byte) :: canonicalLetters (byte == 45) rest

/-- `CanonicalHeaderKey`: a capital letter at the beginning and behind each
hyphen.  A name with other bytes than those of a token stays as it is. -/
def canonicalHeaderKey (name : GoString) : GoString :=
  if name.all isToken then canonicalLetters true name else name

def validFieldName (name : GoString) : Bool :=
  !name.isEmpty && name.all isToken

def validFieldValue (value : GoString) : Bool :=
  value.all (fun byte => byte == 9 || (32 ≤ byte && byte != 127))

abbrev Headers := AList (fun _ : GoString => GoString)

abbrev HeaderOrder := MapOrder (Sigma (fun _ : GoString => GoString))

/-- A request as the service receives it.  The lines are in the order in which
the client added them. -/
structure SignedRequest where
  method : GoString
  path : GoString
  lines : List (GoString × GoString)
  deriving DecidableEq

/-! ## The client -/

/-- What the client takes from its libraries: the clock, `strings.TrimSpace`,
and the path of a URL that parses. -/
structure ClientLibrary where
  now : GoString
  trimSpace : GoString -> GoString
  urlPath : GoString -> Option GoString

structure MnsClient where
  url : GoString
  accessKeyId : GoString
  accessKeySecret : GoString

/-- The message of a request: none, bytes, or a value that `json.Marshal` turns
into bytes or refuses. -/
inductive Body
  | none
  | bytes (content : List UInt8)
  | value (marshalled : Option (List UInt8))

def Body.content : Body -> Option (List UInt8)
  | .none => some []
  | .bytes content => some content
  | .value marshalled => marshalled

inductive SendError
  | marshalMessageFailed
  | createNewRequestFailed
  | sendRequestFailed
  deriving DecidableEq

/-- The order of `sort.StringSlice`. -/
def textLE : GoString -> GoString -> Bool
  | [], _ => true
  | _ :: _, [] => false
  | first :: rest, second :: other =>
    first < second || (first == second && textLE rest other)

def mnsHeaders (outside : ClientLibrary) (signing : HeaderOrder) (headers : Headers) :
    List GoString :=
  ((signing.order headers.entries).filter (fun entry => isMnsHeader entry.1)).map
    (fun entry => entry.1 ++ ascii ":" ++ outside.trimSpace entry.2)

/-- The text that `Signature` signs. -/
def signedText (outside : ClientLibrary) (signing : HeaderOrder) (method : GoString)
    (headers : Headers) (resource : GoString) : GoString :=
  stringToSign method ((headers.lookup CONTENT_MD5).getD [])
    ((headers.lookup CONTENT_TYPE).getD []) ((headers.lookup DATE).getD outside.now)
    ((mnsHeaders outside signing headers).insertionSort (fun left right => textLE left right))
    resource

/-- The headers that `Send` sets before it signs. -/
def prepared (crypto : Crypto) (outside : ClientLibrary) (headers : Headers)
    (content : List UInt8) : Headers :=
  (((headers.insert MQ_VERSION version).insert CONTENT_TYPE (ascii "application/json")).insert
    CONTENT_MD5 (crypto.base64 (hexText (crypto.md5 content)))).insert DATE outside.now

/-- The text that the client signs for a call of `Send`. -/
def clientText (crypto : Crypto) (outside : ClientLibrary) (signing : HeaderOrder)
    (method : GoString) (headers : Headers) (content : List UInt8) (resource : GoString) :
    GoString :=
  signedText outside signing method (prepared crypto outside headers content)
    (ascii "/" ++ resource)

def MnsClient.authorization (client : MnsClient) (crypto : Crypto) (text : GoString) : GoString :=
  ascii "MNS " ++ client.accessKeyId ++ ascii ":" ++ crypto.sign client.accessKeySecret text

def MnsClient.completed (client : MnsClient) (crypto : Crypto) (outside : ClientLibrary)
    (signing : HeaderOrder) (method : GoString) (headers : Headers) (content : List UInt8)
    (resource : GoString) : Headers :=
  (prepared crypto outside headers content).insert AUTHORIZATION
    (client.authorization crypto
      (clientText crypto outside signing method headers content resource))

/-- An empty method stands for `GET`. -/
def wireMethod (method : GoString) : GoString :=
  if method = [] then ascii "GET" else method

def addedLines (adding : HeaderOrder) (headers : Headers) : List (GoString × GoString) :=
  (adding.order headers.entries).map (fun entry => (canonicalHeaderKey entry.1, entry.2))

def validHeaders (headers : Headers) : Bool :=
  headers.entries.all (fun entry => validFieldName entry.1 && validFieldValue entry.2)

/-- `Send`, up to the request that leaves the client.  The headers are listed
twice, once to be signed and once to be added. -/
def MnsClient.send (client : MnsClient) (crypto : Crypto) (outside : ClientLibrary)
    (signing adding : HeaderOrder) (method : GoString) (headers : Headers) (body : Body)
    (resource : GoString) : Except SendError SignedRequest :=
  match body.content with
  | none => .error .marshalMessageFailed
  | some content =>
    if (wireMethod method).all isToken then
      match outside.urlPath (client.url ++ ascii "/" ++ resource) with
      | none => .error .createNewRequestFailed
      | some path =>
        if validHeaders
            (client.completed crypto outside signing method headers content resource) then
          .ok
            { method := wireMethod method
              path := path
              lines := addedLines adding
                (client.completed crypto outside signing method headers content resource) }
        else .error .sendRequestFailed
    else .error .createNewRequestFailed

/-! ## The service -/

/-- `Header.Get`: the first value under the canonical name. -/
def SignedRequest.get (request : SignedRequest) (name : GoString) : GoString :=
  ((request.lines.find? (fun line => line.1 == canonicalHeaderKey name)).map Prod.snd).getD []

def SignedRequest.header (request : SignedRequest) : List (GoString × List GoString) :=
  (request.lines.map Prod.fst).dedup.map (fun name =>
    (name, (request.lines.filter (fun line => line.1 == name)).map Prod.snd))

structure ApiToken where
  method : GoString
  accessId : GoString
  contentMD5 : GoString
  contentType : GoString
  date : GoString
  headers : List GoString
  resource : GoString
  signature : GoString

/-- The account and the signature of an authorization.  Both stay empty if the
value has another form. -/
def credentials (value : GoString) : GoString × GoString :=
  if value = [] then ([], [])
  else
    match split 0x20 value with
    | [_, item] =>
      match split 0x3A item with
      | [accessId, signature] => (accessId, signature)
      | _ => ([], [])
    | _ => ([], [])

def newApiToken (reading : MapOrder (GoString × List GoString)) (request : SignedRequest) :
    ApiToken where
  method := request.method
  accessId := (credentials (request.get AUTHORIZATION)).1
  contentMD5 := request.get CONTENT_MD5
  contentType := request.get CONTENT_TYPE
  date := request.get DATE
  headers := ((reading.order request.header).filter (fun entry => isMnsHeader entry.1)).map
    (fun entry => entry.1 ++ ascii ":" ++ entry.2.flatten)
  resource := request.path
  signature := (credentials (request.get AUTHORIZATION)).2

/-- The text that `signAccess` signs.  The headers are not sorted. -/
def ApiToken.text (token : ApiToken) : GoString :=
  stringToSign token.method token.contentMD5 token.contentType token.date token.headers
    token.resource

/-- The error of the check, if there is one. -/
def signAccess (crypto : Crypto) (token : ApiToken) (secretKey : GoString) : Option GoString :=
  if token.signature = crypto.sign secretKey token.text then none
  else some (ascii "not authorized")

theorem signAccess_eq_none_iff {crypto : Crypto} {token : ApiToken} {secretKey : GoString} :
    signAccess crypto token secretKey = none ↔
      token.signature = crypto.sign secretKey token.text := by
  unfold signAccess
  by_cases same : token.signature = crypto.sign secretKey token.text
  · simp [same]
  · simp [same]

/-! ## Canonical names -/

theorem toUpper_ne_mark (byte : UInt8) : toUpper byte ≠ 120 := by
  intro same
  unfold toUpper at same
  by_cases lower : isLower byte = true
  · rw [if_pos lower] at same
    have value : byte = 152 := by
      rw [← UInt8.sub_add_cancel byte 32, same]
      rfl
    rw [value] at lower
    exact absurd lower (by decide)
  · rw [if_neg lower] at same
    rw [same] at lower
    exact lower (by decide)

theorem isMnsHeader_canonicalHeaderKey {name : GoString} (valid : validFieldName name = true) :
    isMnsHeader (canonicalHeaderKey name) = false := by
  rcases Bool.and_eq_true_iff.mp valid with ⟨nonempty, token⟩
  rw [canonicalHeaderKey, if_pos token]
  cases name with
  | nil => exact absurd nonempty (by decide)
  | cons byte rest =>
    have differs : ((120 : UInt8) == toUpper byte) = false :=
      beq_eq_false_iff_ne.mpr (fun same => toUpper_ne_mark byte same.symm)
    change (((120 : UInt8) == toUpper byte) && _) = false
    rw [differs, Bool.false_and]

theorem newline_notMem_value {value : GoString} (valid : validFieldValue value = true) :
    newline ∉ value := by
  intro found
  exact absurd (List.all_eq_true.mp valid newline found) (by decide)

theorem newline_notMem_method {method : GoString} (valid : method.all isToken = true) :
    newline ∉ method := by
  intro found
  exact absurd (List.all_eq_true.mp valid newline found) (by decide)

/-! ## Requests that are sent -/

section Sent

variable {client : MnsClient} {crypto : Crypto} {outside : ClientLibrary}
variable {signing adding : HeaderOrder} {method resource : GoString} {headers : Headers}
variable {body : Body} {request : SignedRequest} {content : List UInt8}

theorem send_eq_ok_iff :
    client.send crypto outside signing adding method headers body resource = .ok request ↔
      ∃ content path, body.content = some content ∧ (wireMethod method).all isToken = true ∧
        outside.urlPath (client.url ++ ascii "/" ++ resource) = some path ∧
        validHeaders
          (client.completed crypto outside signing method headers content resource) = true ∧
        request =
          { method := wireMethod method
            path := path
            lines := addedLines adding
              (client.completed crypto outside signing method headers content resource) } := by
  unfold MnsClient.send
  constructor
  · intro sent
    cases marshalled : body.content with
    | none =>
      rw [marshalled] at sent
      exact nomatch sent
    | some content =>
      rw [marshalled] at sent
      dsimp only at sent
      by_cases token : (wireMethod method).all isToken = true
      · rw [if_pos token] at sent
        cases parsed : outside.urlPath (client.url ++ ascii "/" ++ resource) with
        | none =>
          rw [parsed] at sent
          exact nomatch sent
        | some path =>
          rw [parsed] at sent
          dsimp only at sent
          by_cases valid : validHeaders
              (client.completed crypto outside signing method headers content resource) = true
          · rw [if_pos valid] at sent
            exact ⟨content, path, rfl, token, rfl, valid, (Except.ok.inj sent).symm⟩
          · rw [if_neg valid] at sent
            exact nomatch sent
      · rw [if_neg token] at sent
        exact nomatch sent
  · rintro ⟨content, path, marshalled, token, parsed, valid, rfl⟩
    rw [marshalled]
    dsimp only
    rw [if_pos token, parsed]
    dsimp only
    rw [if_pos valid]

theorem mem_addedLines {line : GoString × GoString} (found : line ∈ addedLines adding headers) :
    ∃ name, headers.lookup name = some line.2 ∧ line.1 = canonicalHeaderKey name := by
  rcases List.mem_map.mp found with ⟨entry, listed, rfl⟩
  exact ⟨entry.1, AList.mem_lookup_iff.mpr (adding.mem_order.mp listed), rfl⟩

theorem validHeaders_lookup (valid : validHeaders headers = true) {name value : GoString}
    (found : headers.lookup name = some value) :
    validFieldName name = true ∧ validFieldValue value = true :=
  Bool.and_eq_true_iff.mp
    (List.all_eq_true.mp valid ⟨name, value⟩ (AList.mem_lookup_iff.mp found))

theorem newline_notMem_get (valid : validHeaders headers = true)
    (lines : request.lines = addedLines adding headers) (name : GoString) :
    newline ∉ request.get name := by
  unfold SignedRequest.get
  cases first : request.lines.find? (fun line => line.1 == canonicalHeaderKey name) with
  | none => exact List.not_mem_nil
  | some line =>
    have found := List.mem_of_find?_eq_some first
    rw [lines] at found
    rcases mem_addedLines found with ⟨key, stored, _⟩
    exact newline_notMem_value (validHeaders_lookup valid stored).2

theorem newApiToken_headers (valid : validHeaders headers = true)
    (lines : request.lines = addedLines adding headers)
    (reading : MapOrder (GoString × List GoString)) :
    (newApiToken reading request).headers = [] := by
  refine List.map_eq_nil_iff.mpr (List.filter_eq_nil_iff.mpr (fun entry listed => ?_))
  rcases List.mem_map.mp (reading.mem_order.mp listed) with ⟨name, named, rfl⟩
  rcases List.mem_map.mp (List.mem_dedup.mp named) with ⟨line, found, rfl⟩
  rw [lines] at found
  rcases mem_addedLines found with ⟨key, stored, canonical⟩
  dsimp only
  rw [canonical, isMnsHeader_canonicalHeaderKey (validHeaders_lookup valid stored).1]
  exact Bool.false_ne_true

/-! ## The headers that the client signs -/

theorem prepared_version :
    (prepared crypto outside headers content).lookup MQ_VERSION = some version := by
  unfold prepared
  rw [AList.lookup_insert_ne (by decide), AList.lookup_insert_ne (by decide),
    AList.lookup_insert_ne (by decide), AList.lookup_insert]

theorem prepared_date :
    (prepared crypto outside headers content).lookup DATE = some outside.now := by
  unfold prepared
  rw [AList.lookup_insert]

theorem completed_lookup {name : GoString} (other : name ≠ AUTHORIZATION) :
    (client.completed crypto outside signing method headers content resource).lookup name =
      (prepared crypto outside headers content).lookup name :=
  AList.lookup_insert_ne other

theorem mnsHeaders_marked {text : GoString} (listed : text ∈ mnsHeaders outside signing headers) :
    ∃ rest, text = 120 :: rest := by
  rcases List.mem_map.mp listed with ⟨entry, kept, rfl⟩
  have mark := (List.mem_filter.mp kept).2
  rcases List.isPrefixOf_iff_prefix.mp mark with ⟨rest, joined⟩
  rw [← joined]
  exact ⟨_, rfl⟩

theorem version_mem_mnsHeaders :
    MQ_VERSION ++ ascii ":" ++ outside.trimSpace version ∈
      mnsHeaders outside signing (prepared crypto outside headers content) := by
  refine List.mem_map.mpr ⟨⟨MQ_VERSION, version⟩, List.mem_filter.mpr ⟨?_, by decide⟩, rfl⟩
  exact signing.mem_order.mpr (AList.mem_lookup_iff.mp prepared_version)

theorem intercalate_marked {texts : List GoString} (nonempty : texts ≠ [])
    (marked : ∀ text ∈ texts, ∃ rest, text = (120 : UInt8) :: rest) :
    ∃ rest, [newline].intercalate texts = 120 :: rest := by
  cases texts with
  | nil => exact absurd rfl nonempty
  | cons first others =>
    rcases marked first List.mem_cons_self with ⟨rest, rfl⟩
    cases others with
    | nil => exact ⟨rest, by simp [List.intercalate]⟩
    | cons second later =>
      exact ⟨_, by rw [List.intercalate, List.intersperse_cons_cons, List.flatten_cons]; rfl⟩

theorem newline_notMem_of_wireMethod (token : (wireMethod method).all isToken = true) :
    newline ∉ method := by
  unfold wireMethod at token
  by_cases empty : method = []
  · rw [empty]
    exact List.not_mem_nil
  · rw [if_neg empty] at token
    exact newline_notMem_method token

theorem newline_notMem_prepared
    (valid : validHeaders
      (client.completed crypto outside signing method headers content resource) = true)
    {name : GoString} (other : name ≠ AUTHORIZATION) :
    newline ∉ ((prepared crypto outside headers content).lookup name).getD [] := by
  cases stored : (prepared crypto outside headers content).lookup name with
  | none => exact List.not_mem_nil
  | some value =>
    have kept : (client.completed crypto outside signing method headers content
        resource).lookup name = some value := by
      rw [completed_lookup other, stored]
    exact newline_notMem_value (validHeaders_lookup valid kept).2

theorem sorted_mnsHeaders_marked :
    ∃ rest, [newline].intercalate
      ((mnsHeaders outside signing (prepared crypto outside headers content)).insertionSort
        (fun left right => textLE left right)) = 120 :: rest := by
  have sorted := List.perm_insertionSort (fun left right => textLE left right = true)
    (mnsHeaders outside signing (prepared crypto outside headers content))
  exact intercalate_marked (List.ne_nil_of_mem (sorted.mem_iff.mpr version_mem_mnsHeaders))
    (fun text listed => mnsHeaders_marked (sorted.mem_iff.mp listed))

theorem text_ne_clientText (token : (wireMethod method).all isToken = true)
    (valid : validHeaders
      (client.completed crypto outside signing method headers content resource) = true)
    (sameMethod : request.method = wireMethod method)
    (lines : request.lines = addedLines adding
      (client.completed crypto outside signing method headers content resource))
    (reading : MapOrder (GoString × List GoString)) :
    (newApiToken reading request).text ≠
      clientText crypto outside signing method headers content resource := by
  intro same
  have plainDate : newline ∉
      ((prepared crypto outside headers content).lookup DATE).getD outside.now := by
    have plain := newline_notMem_prepared valid (show DATE ≠ AUTHORIZATION by decide)
    rw [prepared_date] at plain ⊢
    exact plain
  have plainGet := newline_notMem_get valid lines
  have plainRequest : newline ∉ (newApiToken reading request).method := by
    change newline ∉ request.method
    rw [sameMethod]
    exact newline_notMem_method token
  rw [ApiToken.text, newApiToken_headers valid lines reading, clientText, signedText] at same
  rcases cut_unique plainRequest (newline_notMem_of_wireMethod token) same with ⟨_, same⟩
  rcases cut_unique (plainGet CONTENT_MD5) (newline_notMem_prepared valid (by decide)) same
    with ⟨_, same⟩
  rcases cut_unique (plainGet CONTENT_TYPE) (newline_notMem_prepared valid (by decide)) same
    with ⟨_, same⟩
  rcases cut_unique (plainGet DATE) plainDate same with ⟨_, same⟩
  rcases sorted_mnsHeaders_marked with ⟨rest, begins⟩
  rw [begins] at same
  exact absurd (List.cons.inj same).1 (by decide)

/-! ## The authorization -/

theorem credentials_authorization (text : GoString)
    (account : (0x20 : UInt8) ∉ client.accessKeyId ∧ (0x3A : UInt8) ∉ client.accessKeyId) :
    credentials (client.authorization crypto text) =
      (client.accessKeyId, crypto.sign client.accessKeySecret text) := by
  have plain := crypto.base64_plain (crypto.hmacSha1 client.accessKeySecret text)
  have items : split 0x20 (client.authorization crypto text) =
      [ascii "MNS",
        client.accessKeyId ++ 0x3A :: crypto.sign client.accessKeySecret text] := by
    have parts : ∀ part ∈ [ascii "MNS",
        client.accessKeyId ++ 0x3A :: crypto.sign client.accessKeySecret text],
        (0x20 : UInt8) ∉ part := by
      intro part listed
      rcases List.mem_pair.mp listed with rfl | rfl
      · decide
      · intro blank
        rcases List.mem_append.mp blank with blank | blank
        · exact account.1 blank
        · rcases List.mem_cons.mp blank with blank | blank
          · exact absurd blank (by decide)
          · exact plain.1 blank
    rw [← split_intercalate parts (List.cons_ne_nil _ _)]
    congr 1
    simp [MnsClient.authorization, List.intercalate, ascii]
  have values : split 0x3A
      (client.accessKeyId ++ 0x3A :: crypto.sign client.accessKeySecret text) =
        [client.accessKeyId, crypto.sign client.accessKeySecret text] := by
    have parts : ∀ part ∈ [client.accessKeyId, crypto.sign client.accessKeySecret text],
        (0x3A : UInt8) ∉ part := by
      intro part listed
      rcases List.mem_pair.mp listed with rfl | rfl
      · exact account.2
      · exact plain.2
    rw [← split_intercalate parts (List.cons_ne_nil _ _)]
    congr 1
    simp [List.intercalate]
  have nonempty : client.authorization crypto text ≠ [] := by
    simp [MnsClient.authorization, ascii]
  rw [credentials, if_neg nonempty, items]
  dsimp only
  rw [values]

theorem signAccess_of_authorization
    (account : (0x20 : UInt8) ∉ client.accessKeyId ∧ (0x3A : UInt8) ∉ client.accessKeyId)
    {text : GoString} (own : request.get AUTHORIZATION = client.authorization crypto text)
    (reading : MapOrder (GoString × List GoString)) :
    signAccess crypto (newApiToken reading request) client.accessKeySecret = none ↔
      crypto.sign client.accessKeySecret text =
        crypto.sign client.accessKeySecret (newApiToken reading request).text := by
  rw [signAccess_eq_none_iff]
  have signature : (newApiToken reading request).signature =
      crypto.sign client.accessKeySecret text := by
    change (credentials (request.get AUTHORIZATION)).2 = _
    rw [own, credentials_authorization text account]
  rw [signature]

theorem canonicalHeaderKey_authorization :
    canonicalHeaderKey AUTHORIZATION = AUTHORIZATION := by
  decide

theorem completed_authorization :
    (client.completed crypto outside signing method headers content resource).lookup
        AUTHORIZATION =
      some (client.authorization crypto
        (clientText crypto outside signing method headers content resource)) :=
  AList.lookup_insert _

theorem completed_spelling
    (single : forall name, name ∈ headers -> canonicalHeaderKey name = AUTHORIZATION ->
      name = AUTHORIZATION) {name : GoString}
    (member : name ∈ client.completed crypto outside signing method headers content resource)
    (spelled : canonicalHeaderKey name = AUTHORIZATION) : name = AUTHORIZATION := by
  unfold MnsClient.completed prepared at member
  rcases (AList.mem_insert _).mp member with rfl | member
  · rfl
  rcases (AList.mem_insert _).mp member with rfl | member
  · exact absurd spelled (by decide)
  rcases (AList.mem_insert _).mp member with rfl | member
  · exact absurd spelled (by decide)
  rcases (AList.mem_insert _).mp member with rfl | member
  · exact absurd spelled (by decide)
  rcases (AList.mem_insert _).mp member with rfl | member
  · exact absurd spelled (by decide)
  exact single name member spelled

theorem get_authorization {path : GoString}
    (single : forall name, name ∈ headers -> canonicalHeaderKey name = AUTHORIZATION ->
      name = AUTHORIZATION) :
    SignedRequest.get
        ⟨wireMethod method, path, addedLines adding
          (client.completed crypto outside signing method headers content resource)⟩
        AUTHORIZATION =
      client.authorization crypto
        (clientText crypto outside signing method headers content resource) := by
  unfold SignedRequest.get
  dsimp only
  rw [canonicalHeaderKey_authorization]
  cases first : (addedLines adding (client.completed crypto outside signing method headers content
      resource)).find? (fun line => line.1 == AUTHORIZATION) with
  | none =>
    have listed : (canonicalHeaderKey AUTHORIZATION, client.authorization crypto
        (clientText crypto outside signing method headers content resource)) ∈
          addedLines adding (client.completed crypto outside signing method headers content
            resource) :=
      List.mem_map.mpr ⟨⟨AUTHORIZATION, _⟩,
        adding.mem_order.mpr (AList.mem_lookup_iff.mp completed_authorization), rfl⟩
    exact absurd (beq_iff_eq.mpr canonicalHeaderKey_authorization)
      (List.find?_eq_none.mp first _ listed)
  | some line =>
    rcases mem_addedLines (List.mem_of_find?_eq_some first) with ⟨name, found, spelled⟩
    have equal := List.find?_some first
    rw [beq_iff_eq] at equal
    have member : name ∈ client.completed crypto outside signing method headers content
        resource := AList.lookup_isSome.mp (by rw [found]; rfl)
    rw [completed_spelling single member (spelled.symm.trans equal),
      completed_authorization] at found
    exact (Option.some.inj found).symm

def firstOrder (entry : Sigma (fun _ : GoString => GoString)) : HeaderOrder where
  order := fun entries => if entry ∈ entries then entry :: entries.erase entry else entries
  perm := by
    intro entries
    by_cases listed : entry ∈ entries
    · rw [if_pos listed]
      exact (List.perm_cons_erase listed).symm
    · rw [if_neg listed]

theorem get_authorization_first {path : GoString} :
    SignedRequest.get
        ⟨wireMethod method, path,
          addedLines (firstOrder ⟨AUTHORIZATION, client.authorization crypto
            (clientText crypto outside signing method headers content resource)⟩)
          (client.completed crypto outside signing method headers content resource)⟩
        AUTHORIZATION =
      client.authorization crypto
        (clientText crypto outside signing method headers content resource) := by
  have listed : (⟨AUTHORIZATION, client.authorization crypto
      (clientText crypto outside signing method headers content resource)⟩ :
        Sigma (fun _ : GoString => GoString)) ∈
      (client.completed crypto outside signing method headers content resource).entries :=
    AList.mem_lookup_iff.mp completed_authorization
  unfold SignedRequest.get addedLines firstOrder
  dsimp only
  rw [if_pos listed, List.map_cons, List.find?_cons_of_pos (by rw [beq_iff_eq])]
  rfl

/-- A request never carries the text that its client signed, so it is accepted
only by a collision of two signatures: in every order of its headers if the
name of the authorization is spelled in one way, and in some order whatever the
headers are. -/
theorem signAccess_send_iff
    (account : (0x20 : UInt8) ∉ client.accessKeyId ∧ (0x3A : UInt8) ∉ client.accessKeyId)
    (marshalled : body.content = some content)
    (sent : client.send crypto outside signing adding method headers body resource = .ok request)
    (reading : MapOrder (GoString × List GoString)) :
    (newApiToken reading request).text ≠
        clientText crypto outside signing method headers content resource ∧
      ((forall name, name ∈ headers -> canonicalHeaderKey name = AUTHORIZATION ->
          name = AUTHORIZATION) ->
        (signAccess crypto (newApiToken reading request) client.accessKeySecret = none ↔
          crypto.sign client.accessKeySecret
              (clientText crypto outside signing method headers content resource) =
            crypto.sign client.accessKeySecret (newApiToken reading request).text)) ∧
      exists (order : HeaderOrder) (other : SignedRequest),
        client.send crypto outside signing order method headers body resource = .ok other ∧
        (newApiToken reading other).text ≠
          clientText crypto outside signing method headers content resource ∧
        (signAccess crypto (newApiToken reading other) client.accessKeySecret = none ↔
          crypto.sign client.accessKeySecret
              (clientText crypto outside signing method headers content resource) =
            crypto.sign client.accessKeySecret (newApiToken reading other).text) := by
  rcases send_eq_ok_iff.mp sent with ⟨bytes, path, taken, token, parsed, valid, rfl⟩
  rw [marshalled] at taken
  rcases Option.some.inj taken with rfl
  refine ⟨text_ne_clientText token valid rfl rfl reading, fun single =>
    signAccess_of_authorization account (get_authorization single) reading, ?_⟩
  exact ⟨firstOrder ⟨AUTHORIZATION, client.authorization crypto
      (clientText crypto outside signing method headers content resource)⟩, _,
    send_eq_ok_iff.mpr ⟨content, path, marshalled, token, parsed, valid, rfl⟩,
    text_ne_clientText token valid rfl rfl reading,
    signAccess_of_authorization account get_authorization_first reading⟩

end Sent

/-! ## A request that is refused -/

def base64Digit (value : Nat) : UInt8 :=
  if value < 26 then 65 + value.toUInt8
  else if value < 52 then 71 + value.toUInt8
  else if value < 62 then value.toUInt8 - 4
  else if value = 62 then 43
  else 47

def base64 : List UInt8 -> GoString
  | [] => []
  | [first] =>
    [base64Digit (first.toNat / 4), base64Digit (first.toNat % 4 * 16), 61, 61]
  | [first, second] =>
    [base64Digit (first.toNat / 4), base64Digit (first.toNat % 4 * 16 + second.toNat / 16),
      base64Digit (second.toNat % 16 * 4), 61]
  | first :: second :: third :: rest =>
    base64Digit (first.toNat / 4) :: base64Digit (first.toNat % 4 * 16 + second.toNat / 16) ::
      base64Digit (second.toNat % 16 * 4 + third.toNat / 64) ::
        base64Digit (third.toNat % 64) :: base64 rest

theorem base64Digit_plain :
    ∀ value < 64, base64Digit value ≠ 0x20 ∧ base64Digit value ≠ 0x3A := by
  decide

theorem base64_plain (bytes : List UInt8) : ∀ byte ∈ base64 bytes, byte ≠ 0x20 ∧ byte ≠ 0x3A := by
  have below : forall byte : UInt8, byte.toNat < 256 := UInt8.toNat_lt
  fun_induction base64 bytes with
  | case1 => exact fun _ found => absurd found List.not_mem_nil
  | case2 first =>
    have bound := below first
    simp only [List.forall_mem_cons]
    exact ⟨base64Digit_plain _ (by omega), base64Digit_plain _ (by omega), by decide, by decide,
      fun _ found => absurd found List.not_mem_nil⟩
  | case3 first second =>
    have bound := below first
    have boundSecond := below second
    simp only [List.forall_mem_cons]
    exact ⟨base64Digit_plain _ (by omega), base64Digit_plain _ (by omega),
      base64Digit_plain _ (by omega), by decide, fun _ found => absurd found List.not_mem_nil⟩
  | case4 first second third rest ih =>
    have bound := below first
    have boundSecond := below second
    have boundThird := below third
    simp only [List.forall_mem_cons]
    exact ⟨base64Digit_plain _ (by omega), base64Digit_plain _ (by omega),
      base64Digit_plain _ (by omega), base64Digit_plain _ (by omega), ih⟩

def sampleCrypto : Crypto where
  hmacSha1 := fun _ text => text
  md5 := fun _ => List.replicate 16 0
  base64 := base64
  base64_plain := fun bytes =>
    ⟨fun found => (base64_plain bytes _ found).1 rfl,
      fun found => (base64_plain bytes _ found).2 rfl⟩

def sampleLibrary : ClientLibrary where
  now := ascii "Fri, 01 Jun 2018 00:00:00 GMT"
  trimSpace := id
  urlPath := fun url => some ((url.drop 10).takeWhile (· != 63))

def sampleClient : MnsClient := ⟨ascii "http://mns", ascii "id", ascii "key"⟩

def sampleRequest : SignedRequest where
  method := ascii "GET"
  path := ascii "/q"
  lines := addedLines .listed
    (sampleClient.completed sampleCrypto sampleLibrary .listed (ascii "GET") ∅ [] (ascii "q"))

theorem sample_sent :
    sampleClient.send sampleCrypto sampleLibrary .listed .listed (ascii "GET") ∅ .none
      (ascii "q") = .ok sampleRequest := by
  decide +kernel

theorem sample_texts_differ :
    sampleClient.send sampleCrypto sampleLibrary .listed .listed (ascii "GET") ∅ .none
        (ascii "q") = .ok sampleRequest ∧
      (newApiToken .listed sampleRequest).text ≠
        clientText sampleCrypto sampleLibrary .listed (ascii "GET") ∅ [] (ascii "q") :=
  ⟨sample_sent, (signAccess_send_iff (by decide) rfl sample_sent .listed).1⟩

/-- A plain request for a queue, signed with the right secret, is refused. -/
theorem signed_request_refused :
    sampleClient.send sampleCrypto sampleLibrary .listed .listed (ascii "GET") ∅ .none
        (ascii "q") = .ok sampleRequest ∧
      signAccess sampleCrypto (newApiToken .listed sampleRequest) sampleClient.accessKeySecret =
        some (ascii "not authorized") :=
  ⟨sample_sent, by decide +kernel⟩

end Mns
end Sentel
