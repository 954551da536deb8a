import Mathlib.Data.List.Perm.Basic
import Mathlib.Data.Set.Function
import Sentel.Mqtt.Session

namespace Sentel
namespace Mqtt

open Library Auth AuthService

/-!
# The options of a client identifier

A device names itself in its user name, as the name of the device and the key
of its product with an ampersand between them.  Its client identifier is the
name of the client and, between bars, three options in any order.  The reader
splits the identifier at every bar and insists on two parts, so that the bar
behind the options, which the format has, is the one thing it does not accept.

The options decide what is signed.  A time stamp that was read consists of
digits, and the text in front of it in the signed content ends with a letter, so
the content can be cut there again.
-/

/-! ## The format -/

/-- The options of a client identifier. -/
inductive OptionName
  | securityMode
  | signMethod
  | timestamp
  deriving DecidableEq

namespace OptionName

def keyword : OptionName -> GoString
  | .securityMode => ascii "securemode"
  | .signMethod => ascii "signmethod"
  | .timestamp => ascii "timestamp"

def all : List OptionName := [.securityMode, .signMethod, .timestamp]

end OptionName

/-- An order of the three options. -/
abbrev OptionOrder := { names : List OptionName // names.Perm OptionName.all }

/-- What a device puts into its client identifier and its user name. -/
structure Credentials where
  clientID : GoString
  deviceName : GoString
  productKey : GoString
  securityMode : Int
  signMethod : GoString
  timestamp : GoString
  clientID_plain : 0x7C ∉ clientID
  deviceName_plain : 0x26 ∉ deviceName
  productKey_plain : 0x26 ∉ productKey
  signMethod_plain : 0x2C ∉ signMethod ∧ 0x3D ∉ signMethod ∧ 0x7C ∉ signMethod
  timestamp_decimal : (parseUint timestamp).isSome = true

namespace Credentials

def value (credentials : Credentials) : OptionName -> GoString
  | .securityMode => itoa credentials.securityMode
  | .signMethod => credentials.signMethod
  | .timestamp => credentials.timestamp

def option (credentials : Credentials) (name : OptionName) : GoString :=
  name.keyword ++ 0x3D :: credentials.value name

def options (credentials : Credentials) (order : OptionOrder) : GoString :=
  [0x2C].intercalate (order.val.map credentials.option)

def clientIdentifier (credentials : Credentials) (order : OptionOrder) (closed : Bool) :
    GoString :=
  credentials.clientID ++ 0x7C :: (credentials.options order ++ if closed then [0x7C] else [])

def userName (credentials : Credentials) : GoString :=
  credentials.deviceName ++ 0x26 :: credentials.productKey

def context (credentials : Credentials) : Context where
  clientID := credentials.clientID
  deviceName := credentials.deviceName
  productID := credentials.productKey
  securityMode := credentials.securityMode
  signMethod := credentials.signMethod
  timestamp := credentials.timestamp

/-- The reader succeeds and returns exactly the six values. -/
def ReadsBack (credentials : Credentials) (order : OptionOrder) (closed : Bool) : Prop :=
  forall password, parseRequestOptions (credentials.clientIdentifier order closed)
    credentials.userName password = (credentials.context, none)

/-! ## Reading one option -/

def place (credentials : Credentials) (ctx : Context) : OptionName -> Context
  | .securityMode => { ctx with securityMode := credentials.securityMode }
  | .signMethod => { ctx with signMethod := credentials.signMethod }
  | .timestamp => { ctx with timestamp := credentials.timestamp }

variable (credentials : Credentials)

theorem timestamp_digits : Digits credentials.timestamp := by
  have decimal := credentials.timestamp_decimal
  rw [parseUint] at decimal
  cases read : parseDigits credentials.timestamp with
  | none =>
    rw [read] at decimal
    cases decimal
  | some value => exact (parseDigits_eq_some read).2

theorem value_plain (name : OptionName) {byte : UInt8} (member : byte ∈ credentials.value name) :
    byte ≠ 0x2C ∧ byte ≠ 0x3D ∧ byte ≠ 0x7C := by
  have digit : 0x30 ≤ byte ∧ byte ≤ 0x39 -> byte ≠ 0x2C ∧ byte ≠ 0x3D ∧ byte ≠ 0x7C := by
    rintro ⟨lower, upper⟩
    refine ⟨?_, ?_, ?_⟩ <;> rintro rfl
    · exact absurd lower (by decide)
    · exact absurd upper (by decide)
    · exact absurd upper (by decide)
  cases name with
  | securityMode =>
    rcases itoa_bytes member with rfl | isDigit
    · decide
    · exact digit isDigit
  | signMethod =>
    rcases credentials.signMethod_plain with ⟨comma, equals, bar⟩
    refine ⟨?_, ?_, ?_⟩ <;> rintro rfl
    · exact comma member
    · exact equals member
    · exact bar member
  | timestamp => exact digit (credentials.timestamp_digits byte member)

theorem keyword_plain (name : OptionName) :
    0x2C ∉ name.keyword ∧ 0x3D ∉ name.keyword ∧ 0x7C ∉ name.keyword := by
  cases name <;> decide

theorem split_option (name : OptionName) :
    split 0x3D (credentials.option name) = [name.keyword, credentials.value name] := by
  rw [option, split_first (keyword_plain name).2.1,
    split_plain (fun found => (credentials.value_plain name found).2.1 rfl)]

theorem parseOption_option (fits : IsInt credentials.securityMode) (name : OptionName)
    (ctx : Context) :
    parseOption (credentials.option name) ctx = (credentials.place ctx name, none) := by
  rw [parseOption, split_option]
  cases name with
  | securityMode =>
    have read : atoi (credentials.value .securityMode) = some credentials.securityMode :=
      (atoi_itoa credentials.securityMode).trans (if_pos fits)
    simp [OptionName.keyword, read, place]
  | signMethod => rfl
  | timestamp =>
    rcases Option.isSome_iff_exists.mp credentials.timestamp_decimal with ⟨number, read⟩
    have read : parseUint (credentials.value .timestamp) = some number := read
    simp only [OptionName.keyword, read]
    rfl

theorem parseOption_securityMode (big : ¬ IsInt credentials.securityMode) (ctx : Context) :
    (parseOption (credentials.option .securityMode) ctx).2 ≠ none := by
  have unread : atoi (credentials.value .securityMode) = none :=
    (atoi_itoa credentials.securityMode).trans (if_neg big)
  rw [parseOption, split_option]
  simp [OptionName.keyword, unread]

/-! ## Reading the whole identifier -/

theorem parseOptions_options (fits : IsInt credentials.securityMode) (names : List OptionName)
    (ctx : Context) :
    parseOptions (names.map credentials.option) ctx =
      (names.foldl credentials.place ctx, none) := by
  induction names generalizing ctx with
  | nil => rfl
  | cons name rest ih =>
    rw [List.map_cons, parseOptions, credentials.parseOption_option fits]
    exact ih (credentials.place ctx name)

theorem place_order (order : OptionOrder) (ctx : Context) :
    order.val.foldl credentials.place ctx = OptionName.all.foldl credentials.place ctx := by
  have commutes : RightCommutative credentials.place := by
    constructor
    intro ctx first second
    cases first <;> cases second <;> rfl
  exact order.property.foldl_eq ctx

theorem parseOptions_refuses {pairs : List GoString} {pair : GoString} (member : pair ∈ pairs)
    (refused : forall ctx, (parseOption pair ctx).2 ≠ none) (ctx : Context) :
    (parseOptions pairs ctx).2 ≠ none := by
  induction pairs generalizing ctx with
  | nil => cases member
  | cons first rest ih =>
    rw [parseOptions]
    rcases parsed : parseOption first ctx with ⟨next, problem⟩
    cases problem with
    | some reason => exact Option.some_ne_none reason
    | none =>
      rcases List.mem_cons.mp member with rfl | later
      · exact absurd (congrArg Prod.snd parsed) (refused ctx)
      · exact ih later next

theorem option_plain (name : OptionName) :
    0x2C ∉ credentials.option name ∧ 0x7C ∉ credentials.option name := by
  simp only [option, List.mem_append, List.mem_cons, not_or]
  refine ⟨⟨(keyword_plain name).1, by decide, ?_⟩, (keyword_plain name).2.2, by decide, ?_⟩
  · exact fun found => (credentials.value_plain name found).1 rfl
  · exact fun found => (credentials.value_plain name found).2.2 rfl

theorem split_options (order : OptionOrder) :
    split 0x2C (credentials.options order) = order.val.map credentials.option := by
  apply split_intercalate
  · intro part member
    rcases List.mem_map.mp member with ⟨name, _, rfl⟩
    exact (credentials.option_plain name).1
  · intro empty
    have size := order.property.length_eq
    rw [List.map_eq_nil_iff.mp empty] at size
    cases size

theorem options_plain (order : OptionOrder) : 0x7C ∉ credentials.options order := by
  intro member
  rcases mem_intercalate member with comma | ⟨part, listed, found⟩
  · cases comma
  · rcases List.mem_map.mp listed with ⟨name, _, rfl⟩
    exact (credentials.option_plain name).2 found

theorem split_userName :
    split 0x26 credentials.userName = [credentials.deviceName, credentials.productKey] := by
  rw [userName, split_first credentials.deviceName_plain, split_plain credentials.productKey_plain]

theorem split_open (order : OptionOrder) :
    split 0x7C (credentials.clientIdentifier order false) =
      [credentials.clientID, credentials.options order] := by
  rw [clientIdentifier, if_neg Bool.false_ne_true, List.append_nil,
    split_first credentials.clientID_plain, split_plain (credentials.options_plain order)]

theorem split_closed (order : OptionOrder) :
    split 0x7C (credentials.clientIdentifier order true) =
      [credentials.clientID, credentials.options order, []] := by
  rw [clientIdentifier, if_pos rfl, split_first credentials.clientID_plain,
    split_first (credentials.options_plain order)]
  rfl

/-- The format as it is documented, with the bar behind the options, is refused
for all values and orders.  Without that bar the six values are read back, as
long as the security mode is an `int`. -/
theorem format_readsBack_iff (order : OptionOrder) (closed : Bool) :
    credentials.ReadsBack order closed ↔ closed = false ∧ IsInt credentials.securityMode := by
  cases closed with
  | true =>
    refine iff_of_false (fun read => ?_) (fun both => Bool.noConfusion both.1)
    have refused := read []
    rw [parseRequestOptions, split_userName, split_closed] at refused
    exact Option.some_ne_none _ (congrArg Prod.snd refused)
  | false =>
    rw [ReadsBack, and_iff_right rfl]
    simp only [parseRequestOptions, split_userName, split_open, split_options]
    constructor
    · intro read
      by_contra big
      have member : credentials.option .securityMode ∈ order.val.map credentials.option :=
        List.mem_map_of_mem (order.property.mem_iff.mpr List.mem_cons_self)
      exact parseOptions_refuses member (credentials.parseOption_securityMode big) _
        (congrArg Prod.snd (read []))
    · intro fits _
      rw [credentials.parseOptions_options fits, place_order]
      rfl

end Credentials

def documentedCredentials : Credentials where
  clientID := ascii "c"
  deviceName := ascii "d"
  productKey := ascii "p"
  securityMode := 3
  signMethod := ascii "hmacsha1"
  timestamp := ascii "1"
  clientID_plain := by decide
  deviceName_plain := by decide
  productKey_plain := by decide
  signMethod_plain := by decide
  timestamp_decimal := by decide

/-- `c|securemode=3,signmethod=hmacsha1,timestamp=1|` has three parts. -/
theorem documented_format_refused :
    ¬ documentedCredentials.ReadsBack ⟨OptionName.all, .refl _⟩ true := by
  intro read
  have refused := congrArg Prod.snd (read [])
  revert refused
  decide +kernel

/-! ## What is signed -/

/-- A context that the reader returns, with or without an error. -/
def Returned (ctx : Context) : Prop :=
  exists clientID userName password, (parseRequestOptions clientID userName password).1 = ctx

theorem parseOption_timestamp {ctx : Context} (digits : Digits ctx.timestamp) (pair : GoString) :
    Digits (parseOption pair ctx).1.timestamp := by
  unfold parseOption
  split
  · split
    · split
      · exact digits
      · exact digits
    · split
      · exact digits
      · split
        · split
          · exact digits
          · rename_i value _ _ _ _ number read
            rw [parseUint, Option.filter_eq_some_iff] at read
            exact (parseDigits_eq_some read.1).2
        · exact digits
  · exact digits

theorem parseOptions_timestamp {ctx : Context} (digits : Digits ctx.timestamp)
    (pairs : List GoString) : Digits (parseOptions pairs ctx).1.timestamp := by
  induction pairs generalizing ctx with
  | nil => exact digits
  | cons pair later ih =>
    have kept := parseOption_timestamp digits pair
    rw [parseOptions]
    rcases parsed : parseOption pair ctx with ⟨next, problem⟩
    rw [parsed] at kept
    cases problem with
    | some reason => exact kept
    | none => exact ih kept

theorem Returned.timestamp_digits {ctx : Context} (returned : Returned ctx) :
    Digits ctx.timestamp := by
  have empty : Digits [] := fun _ member => nomatch member
  rcases returned with ⟨clientID, userName, password, rfl⟩
  unfold parseRequestOptions
  split
  · split
    · exact parseOptions_timestamp empty _
    · exact empty
  · exact empty

theorem signedContent_cut (ctx : Context) :
    signedContent ctx =
      (ascii "clientId" ++ ctx.clientID ++ (ascii "deviceName" ++ ctx.deviceName ++
        ascii "productId" ++ ctx.productID ++ ascii "timestam")) ++ 0x70 :: ctx.timestamp := by
  have last : ascii "timestamp" = ascii "timestam" ++ [0x70] := by decide
  simp [signedContent, last]

theorem client_of_content {first second : Context} (one : Returned first) (two : Returned second)
    (device : first.deviceName = second.deviceName) (product : first.productID = second.productID)
    (same : signedContent first = signedContent second) :
    first.clientID = second.clientID ∧ first.timestamp = second.timestamp := by
  have letter : forall {ctx : Context}, Returned ctx -> 0x70 ∉ ctx.timestamp :=
    fun returned member => absurd (returned.timestamp_digits 0x70 member).2 (by decide)
  rw [signedContent_cut, signedContent_cut, device, product] at same
  rcases cut_last_unique (letter one) (letter two) same with ⟨fronts, stamps⟩
  exact ⟨List.append_cancel_left (List.append_cancel_right fronts), stamps⟩

/-- Of one device, the content that is signed determines the client identifier
and the time stamp.  A signature for one of them is therefore refused for any
other, if the keyed hash has no collision among the contents that are in use. -/
theorem signature_binds_client {first second : Context} (one : Returned first)
    (two : Returned second) (device : first.deviceName = second.deviceName)
    (product : first.productID = second.productID) :
    (signedContent first = signedContent second ->
      first.clientID = second.clientID ∧ first.timestamp = second.timestamp) ∧
    forall (service : AuthService) (key : GoString) (used : Set GoString),
      Set.InjOn (service.hmac key) used ->
      signedContent first ∈ used -> signedContent second ∈ used ->
      service.sha1mac { second with
        password := (service.hmac key (signedContent first)).val
        deviceSecret := key } = .ok () ->
      first.clientID = second.clientID ∧ first.timestamp = second.timestamp := by
  refine ⟨client_of_content one two device product, ?_⟩
  intro service key used injective usedFirst usedSecond verified
  rw [sha1mac] at verified
  split at verified
  · rename_i equal
    exact client_of_content one two device product
      (injective usedFirst usedSecond (Subtype.ext equal))
  · cases verified

def stampedContext (timestamp : GoString) : Context :=
  (parseRequestOptions (ascii "c|timestamp=" ++ timestamp) (ascii "d&p") []).1

def endKeepingService : AuthService where
  flavors := ∅
  deviceSecretKey := fun _ _ => .ok []
  hmac := fun _ content =>
    ⟨List.ofFn (fun index : Fin 20 => content.reverse.getD index 0), List.length_ofFn⟩

/-- The signature for one time stamp is refused for the next. -/
theorem next_timestamp_refused :
    endKeepingService.sha1mac { stampedContext (ascii "2") with
      password := (endKeepingService.hmac []
        (signedContent (stampedContext (ascii "1")))).val
      deviceSecret := [] } ≠ .ok () := by
  intro verified
  have injective : Set.InjOn (endKeepingService.hmac [])
      {signedContent (stampedContext (ascii "1")),
        signedContent (stampedContext (ascii "2"))} :=
    Set.injOn_pair.mpr (fun same => absurd same (by decide +kernel))
  have one : Returned (stampedContext (ascii "1")) := ⟨_, _, _, rfl⟩
  have two : Returned (stampedContext (ascii "2")) := ⟨_, _, _, rfl⟩
  have both := (signature_binds_client one two rfl rfl).2 endKeepingService []
    _ injective (Set.mem_insert _ _) (Set.mem_insert_of_mem _ rfl) verified
  exact absurd both.2 (by decide +kernel)

end Mqtt
end Sentel
