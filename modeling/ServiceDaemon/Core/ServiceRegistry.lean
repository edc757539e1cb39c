/-
Purpose: The identifiers of services and instances with their texts, and the
  services that a daemon is built with: the registry's tag filters, the
  infrastructure tags, and the merge of the two selections.
Main exports: ServiceId.fmt, ServiceId.fromStr, InstanceId.fromStr,
  RegistryBuilder.build, buildServices
-/
import ServiceDaemon.Core.Dispatch

namespace ServiceDaemon

/-!
A text is the list of its characters.  Unsigned integers are written and parsed
as the standard library does: decimal without leading zeros; an optional plus
sign, at least one digit, and no value above the largest of the type.

Both selections filter the same static registry, and an entry's index is the
identifier of its service in both.  A description is made with a token of its
own; tokens are numbered in the order in which they are made.  Warnings about
tags without a match are left out.

[SRC models/service.rs, core/service_daemon/builder.rs]
-/

/-! ### Identifiers -/

/-- `ParseIntError`, by its kind. -/
inductive ParseIntError where
  | empty
  | invalidDigit
  | posOverflow
deriving Repr, DecidableEq

/-- The `Display` text of the error. -/
def ParseIntError.message : ParseIntError → String
  | .empty => "cannot parse integer from empty string"
  | .invalidDigit => "invalid digit found in string"
  | .posOverflow => "number too large to fit in target type"

/-- The loop over the digits: multiply by ten, then add, both checked. -/
def parseDigits (max : Nat) : Nat → List Char → Except ParseIntError Nat
  | result, [] => .ok result
  | result, digit :: rest =>
    if digit.isDigit then
      let next := 10 * result + (digit.toNat - '0'.toNat)
      if max < next then .error .posOverflow else parseDigits max next rest
    else .error .invalidDigit

/-- `str::parse` for the unsigned type with the largest value `max`. -/
def parseUnsigned (max : Nat) : List Char → Except ParseIntError Nat
  | [] => .error .empty
  | ['+'] | ['-'] => .error .invalidDigit
  | '+' :: digits => parseDigits max 0 digits
  | digits => parseDigits max 0 digits

/-- `splitn(2, separator)`. -/
def splitTwo (separator : Char) (text : List Char) : List (List Char) :=
  match text.dropWhile (· ≠ separator) with
  | [] => [text]
  | _ :: rest => [text.takeWhile (· ≠ separator), rest]

/-- The prefix of a service identifier. -/
def servicePrefix : List Char := ['s', 'v', 'c', '#']

namespace ServiceId

/-- `Display` of a `ServiceId`. -/
def fmt (id : ServiceId) : List Char :=
  servicePrefix ++ Nat.toDigits 10 id.value

/-- `FromStr` of a `ServiceId`. -/
def fromStr (text : List Char) : Except ParseIntError ServiceId :=
  (parseUnsigned usizeMax ((text.dropPrefix? servicePrefix).getD text)).map mk

end ServiceId

structure InstanceId where
  serviceId : ServiceId
  seq : Nat
deriving DecidableEq

namespace InstanceId

/-- `Display` of an `InstanceId`. -/
def fmt (id : InstanceId) : List Char :=
  id.serviceId.fmt ++ ':' :: Nat.toDigits 10 id.seq

/-- `FromStr` of an `InstanceId`, with the texts of its errors. -/
def fromStr (text : List Char) : Except String InstanceId :=
  match splitTwo ':' text with
  | [service, sequence] =>
    match ServiceId.fromStr service, parseUnsigned u64Max sequence with
    | .ok serviceId, .ok seq => .ok { serviceId := serviceId, seq := seq }
    | .error error, _ =>
      .error ("failed to parse service_id component: " ++ error.message)
    | .ok _, .error error =>
      .error ("failed to parse sequence component: " ++ error.message)
  | _ =>
    .error
      ("invalid instance_id format: '" ++ String.ofList text ++ "' (expected svc#N:SEQ)")

end InstanceId

/-! ### The registry -/

/-- `ServiceEntry`, less what the selection does not read. -/
structure ServiceEntry where
  name : String
  tags : List String
deriving Repr, DecidableEq

structure RegistryService where
  id : ServiceId
  entry : ServiceEntry
  cancellationToken : Nat
deriving Repr, DecidableEq

structure RegistryBuilder where
  includeTags : List String
  excludeTags : List String

namespace RegistryBuilder

def new : RegistryBuilder :=
  { includeTags := [], excludeTags := [] }

def withTags (builder : RegistryBuilder) (tags : List String) :
    RegistryBuilder :=
  { builder with includeTags := builder.includeTags ++ tags }

/-- Neither filter of the loop in `build` skips the entry. -/
def keeps (builder : RegistryBuilder) (entry : ServiceEntry) : Bool :=
  !(!builder.includeTags.isEmpty && !entry.tags.any (builder.includeTags.contains ·)) &&
    !entry.tags.any (builder.excludeTags.contains ·)

/-- The loop of `build` over the entries from `index` on; `token` is the next
token. -/
def buildFrom (builder : RegistryBuilder) :
    List ServiceEntry → Nat → Nat → List RegistryService
  | [], _, _ => []
  | entry :: entries, index, token =>
    if builder.keeps entry then
      { id := ⟨index⟩, entry := entry, cancellationToken := token } ::
        builder.buildFrom entries (index + 1) (token + 1)
    else builder.buildFrom entries (index + 1) token

def build (builder : RegistryBuilder) (entries : List ServiceEntry)
    (token : Nat) : List RegistryService :=
  builder.buildFrom entries 0 token

end RegistryBuilder

/-- The loop of the daemon's `build` over the infrastructure services. -/
def mergeServices : List RegistryService → List RegistryService → List RegistryService
  | services, [] => services
  | services, service :: rest =>
    if services.any (·.id = service.id) then mergeServices services rest
    else mergeServices (services ++ [service]) rest

/-- The services of `ServiceDaemonBuilder::build`. -/
def buildServices (entries : List ServiceEntry)
    (registry : Option RegistryBuilder) (infraTags : List String) :
    List RegistryService :=
  let services := (registry.getD .new).build entries 0
  if infraTags.isEmpty then services
  else
    mergeServices services
      ((RegistryBuilder.new.withTags infraTags).build entries services.length)

end ServiceDaemon
