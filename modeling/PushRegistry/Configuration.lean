import PushRegistry.Json.Display
import PushRegistry.Number.Digits
import PushRegistry.Service.Exchange
import PushRegistry.Text.Blank

/-!
# Configuration

The settings of the service, from values given to it and from variables of its surroundings. A
name is in any case, given values win over variables, and unknown names do not matter. All
settings that do not fit are reported, in the order of the settings.

## Main definitions

* `Configuration`: the settings.
* `SettingFault`, `SettingError`: what does not fit.
* `Setting.text`, `Setting.flag`, `Setting.number`: the kinds of settings.
* `Configuration.read`: the settings from the given values and the variables.
* `Configuration.credentials`: what is presented to the activation service.
-/

namespace PushRegistry

/-- The settings of the service. -/
structure Configuration where
  databaseUrl : String
  logLevel : String
  environment : String
  batchesEnabled : Bool
  serviceUrl : String
  clientToken : Option String
  clientSecret : Option String
  acceptInvalidCertificate : Bool
  timeout : Binary64
  deriving DecidableEq, Repr

/-! ### What does not fit -/

/-- How a setting does not fit. -/
inductive SettingFault where
  | missing
  | notText
  | unreadableFlag
  | notFlag
  | unreadableNumber
  | notNumber
  deriving DecidableEq, Repr

namespace SettingFault

/-- The word by which the faults are told apart. -/
def code : SettingFault → String
  | missing => "missing"
  | notText => "string_type"
  | unreadableFlag => "bool_parsing"
  | notFlag => "bool_type"
  | unreadableNumber => "float_parsing"
  | notNumber => "float_type"

/-- The message for a fault. -/
def message : SettingFault → String
  | missing => "Field required"
  | notText => "Input should be a valid string"
  | unreadableFlag => "Input should be a valid boolean, unable to interpret input"
  | notFlag => "Input should be a valid boolean"
  | unreadableNumber => "Input should be a valid number, unable to parse string as a number"
  | notNumber => "Input should be a valid number"

end SettingFault

/-- A setting that does not fit. -/
structure SettingError where
  name : String
  fault : SettingFault
  deriving DecidableEq, Repr

namespace Setting

/-! ### Kinds of settings -/

/-- A text. -/
def text : Json → Except SettingFault String
  | .string (.text s) => .ok s
  | _ => .error .notText

/-- A text or nothing. -/
def optionalText : Json → Except SettingFault (Option String)
  | .null => .ok none
  | value => (text value).map some

/-- The words for true and for false, in lower case. -/
def trueWords : List String := ["1", "on", "t", "true", "y", "yes"]
def falseWords : List String := ["0", "off", "f", "false", "n", "no"]

/-- A text with the ASCII letters in lower case. -/
def lowerAscii (s : String) : String := String.ofList (s.toList.map Char.toLower)

/-- A truth value, also as zero or one or as a word in any case. -/
def flag : Json → Except SettingFault Bool
  | .bool b => .ok b
  | .int n => if n = 0 then .ok false else if n = 1 then .ok true else .error .unreadableFlag
  | .float x =>
    match x.toInt? with
    | some n => if n = 0 then .ok false else if n = 1 then .ok true else .error .notFlag
    | none => .error .notFlag
  | .string (.text s) =>
    if lowerAscii s ∈ trueWords then .ok true
    else if lowerAscii s ∈ falseWords then .ok false
    else .error .unreadableFlag
  | _ => .error .notFlag

/-- The number that digits, perhaps with a fraction and a power of ten, stand for. One of the
digits before and behind the point may be left out, but not both. -/
def decimal? (negative : Bool) (cs : List Char) : Option Binary64 :=
  let whole := cs.takeWhile Char.isDigit
  let behind := cs.drop whole.length
  let hasPoint := behind.head? = some '.'
  let fraction := if hasPoint then (behind.drop 1).takeWhile Char.isDigit else []
  let power := if hasPoint then behind.drop (fraction.length + 1) else behind
  let value (exponent : Int) : Binary64 :=
    Binary64.ofDecimal negative (Digits.value (whole ++ fraction)) (exponent - fraction.length)
  if whole.isEmpty && fraction.isEmpty then none
  else
    match power with
    | [] => some (value 0)
    | e :: r =>
      let (negative, ds) := Digits.cutSign r
      if (e = 'e' ∨ e = 'E') ∧ !ds.isEmpty ∧ ds.all Char.isDigit then
        let n : Int := Digits.value ds
        some (value (if negative then -n else n))
      else none

/-- The number that a text stands for: with an optional sign, the word for infinity or for no
number in any case, or decimal digits. -/
def numberOf? (cs : List Char) : Option Binary64 :=
  let (negative, r) := Digits.cutSign cs
  let word := String.ofList (r.map Char.toLower)
  if word = "inf" ∨ word = "infinity" then some (.infinite negative)
  else if word = "nan" then some .nan
  else decimal? negative r

/-- Whether there is an underscore and each stands alone, neither first nor last. -/
def hasSingleUnderscores (cs : List Char) : Bool :=
  cs.contains '_' && cs.head? != some '_' && cs.getLast? != some '_' &&
    (cs.zip (cs.drop 1)).all fun p => p != ('_', '_')

/-- The number that a setting's text stands for: with blanks around it, or with single
underscores in it. -/
def readNumber? (s : String) : Option Binary64 :=
  let cs := s.toList
  match numberOf? (Text.trimWith Text.isNumeralSpace cs) with
  | some x => some x
  | none => if hasSingleUnderscores cs then numberOf? (cs.filter (· != '_')) else none

/-- The floating point number nearest to an integer; an integer past all of them has none. -/
def numberOfInt (n : Int) : Except SettingFault Binary64 :=
  let x := Binary64.ofDecimal (n < 0) n.natAbs 0
  if x.isFinite then .ok x else .error .notNumber

/-- A number, also as a truth value or as a text. -/
def number : Json → Except SettingFault Binary64
  | .bool b => .ok (Binary64.ofDecimal false (if b then 1 else 0) 0)
  | .int n => numberOfInt n
  | .float x => .ok x
  | .string (.text s) =>
    match readNumber? s with
    | some x => .ok x
    | none => .error .unreadableNumber
  | _ => .error .notNumber

/-! ### Normal forms -/

/-- The address of a database server, by which driver it is used. -/
def driverUrl (s : String) : String :=
  let cs := s.toList
  let short := "postgres://".toList
  let long := "postgresql://".toList
  let rest :=
    if short.isPrefixOf cs then some (cs.drop short.length)
    else if long.isPrefixOf cs then some (cs.drop long.length)
    else none
  match rest with
  | some r => String.ofList ("postgresql+asyncpg://".toList ++ r)
  | none => s

end Setting

/-! ### Reading -/

namespace Configuration

/-- Settings by name, of which the first with a name counts. -/
abbrev Source : Type := List (String × Json)

/-- The values given and the variables, as one source with names in lower case. -/
def sources (given : List (String × Json)) (surroundings : List (String × String)) : Source :=
  given.map (fun (name, value) => (Text.lower name, value)) ++
    surroundings.map fun (name, value) => (Text.lower name, .text value)

/-- A setting of some kind; a default stands in for one that is not there. -/
def setting {α : Type} (source : Source) (name : String) (read : Json → Except SettingFault α)
    (default : Option α) : Except SettingError α :=
  match source.lookup name, default with
  | some value, _ => (read value).mapError fun fault => ⟨name, fault⟩
  | none, some value => .ok value
  | none, none => .error ⟨name, .missing⟩

/-- What does not fit of a setting. -/
def faultOf {α : Type} : Except SettingError α → List SettingError
  | .ok _ => []
  | .error e => [e]

/-- The settings from the values given and the variables, or all that does not fit. -/
def read (given : List (String × Json)) (surroundings : List (String × String)) :
    Except (List SettingError) Configuration :=
  let source := sources given surroundings
  let databaseUrl := setting source "database_url" Setting.text none
  let logLevel := setting source "log_level" Setting.text (some "INFO")
  let environment := setting source "environment" Setting.text (some "dev")
  let batchesEnabled :=
    setting source "multi_activation_registration_enabled" Setting.flag (some false)
  let serviceUrl :=
    setting source "powerauth_service_url" Setting.text
      (some "http://localhost:8080/powerauth-java-server/rest")
  let clientToken := setting source "powerauth_client_token" Setting.optionalText (some none)
  let clientSecret := setting source "powerauth_client_secret" Setting.optionalText (some none)
  let acceptInvalidCertificate :=
    setting source "powerauth_accept_invalid_ssl_certificate" Setting.flag (some false)
  let timeout :=
    setting source "powerauth_timeout_seconds" Setting.number (some (Binary64.ofDecimal false 10 0))
  let faults := faultOf databaseUrl ++ faultOf logLevel ++ faultOf environment ++
    faultOf batchesEnabled ++ faultOf serviceUrl ++ faultOf clientToken ++ faultOf clientSecret ++
    faultOf acceptInvalidCertificate ++ faultOf timeout
  let all : Except SettingError Configuration := do
    return {
      databaseUrl := Setting.driverUrl (← databaseUrl)
      logLevel := ← logLevel
      environment := ← environment
      batchesEnabled := ← batchesEnabled
      serviceUrl := ActivationService.withoutSlashes (← serviceUrl)
      clientToken := ← clientToken
      clientSecret := ← clientSecret
      acceptInvalidCertificate := ← acceptInvalidCertificate
      timeout := ← timeout }
  all.mapError fun _ => faults

/-- What is presented to the activation service: a token and a secret, if neither is empty. -/
def credentials (c : Configuration) : Option (String × String) :=
  match c.clientToken, c.clientSecret with
  | some token, some secret =>
    if token.isEmpty || secret.isEmpty then none else some (token, secret)
  | _, _ => none

/-- The activation service that is configured. -/
def activationService (c : Configuration) : ActivationService := ⟨c.serviceUrl, c.credentials⟩

/-- A secret as it is shown: asterisks in place of any content. -/
def maskedSecret (secret : String) : String := if secret.isEmpty then "" else "**********"

/-- The settings as they are shown. -/
def toJson (c : Configuration) : Json :=
  .record
    [("database_url", .text c.databaseUrl), ("log_level", .text c.logLevel),
      ("environment", .text c.environment),
      ("multi_activation_registration_enabled", .bool c.batchesEnabled),
      ("powerauth_service_url", .text c.serviceUrl),
      ("powerauth_client_token", c.clientToken.elim .null Json.text),
      ("powerauth_client_secret", c.clientSecret.elim .null (Json.text ∘ maskedSecret)),
      ("powerauth_accept_invalid_ssl_certificate", .bool c.acceptInvalidCertificate),
      ("powerauth_timeout_seconds", .text (String.ofList (Json.displayFloat c.timeout)))]

end Configuration

end PushRegistry
