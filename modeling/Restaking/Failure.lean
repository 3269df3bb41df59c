import Restaking.Word
import Restaking.Fault
import Restaking.Value.Field

/-!
# Failures

Every reason for which a reading may fail, with its wording. The reader's own failures form a small tree of
classes; the others come from the caller's input or configuration, from an answer that does not convert, or
from the node. Where a node's failure has no wording of its own, a wrapper shows a placeholder.
-/
namespace Restaking

/-- Why the lookup that an error answer asks for was not made. -/
inductive LookupFault where
  /-- The description of the lookup ends too early. -/
  | incomplete
  | dirtyPadding
  /-- An offset that leads into the head or beyond the end. -/
  | badOffset
  /-- A length that no machine word holds. -/
  | oversized
  | notUtf8
  /-- Another contract than the one that was called asks for it. -/
  | foreignSender
  /-- A gateway whose URL cannot be taken apart. -/
  | malformedUrl
  /-- A gateway at a host with a name that no host has. -/
  | badHostName
  /-- None of the gateways that it names answers. -/
  | noGateway
  deriving DecidableEq, Repr

/-- What the connection to a node reports without wording that a message may show. -/
inductive NodeError where
  /-- Arguments that the function's declared types refuse. -/
  | mismatchedArguments
  /-- A mapping given for a tuple lacks one of its components. -/
  | missingComponent
  /-- Hexadecimal text with a character beyond ASCII. -/
  | notAscii
  /-- An address given by a name, where no name service is at hand. -/
  | unresolvedName
  /-- An address given as text without its checksum. -/
  | uncheckedAddress
  | noSuchBlock
  /-- A block given as a byte string that may change. -/
  | mutableBlock
  /-- An answer that is neither a result nor a well-formed error. -/
  | malformedAnswer
  /-- A result whose text is not hexadecimal. -/
  | notHex
  /-- A result of a type that denotes no bytes. -/
  | notBytes
  /-- A result that is a number below zero. -/
  | negativeResult
  /-- A result that does not decode under the declared types. -/
  | undecodable
  | logic
  | panic
  /-- A panic with a code that has no meaning. -/
  | unknownPanic
  /-- A reverted call's reason that is not hexadecimal. -/
  | unreadableReason
  | custom
  | lookup (e : LookupFault)
  | methodUnavailable
  | timedOut
  | transactionNotFound
  | rpc
  /-- An endpoint whose URL has no scheme. -/
  | noScheme
  | unknownScheme
  | invalidUrl
  /-- A URL that cannot be taken apart. -/
  | malformedUrl
  /-- A URL with a user or password that cannot be sent. -/
  | unsentCredentials
  /-- A host with a name that no host has. -/
  | badHostName
  /-- A time limit that is not positive, or no number. -/
  | invalidTimeLimit
  /-- A time limit that is too long to be kept. -/
  | longTimeLimit
  | unreachable
  deriving DecidableEq, Repr

inductive Failure where
  /-- A failure of the reader with wording of its own. -/
  | general (message : String)
  /-- The contract that an accessor needs was not wired. -/
  | contractNotProvided (name : String)
  /-- A strategy or token handle could not be built. -/
  | contractFetch (context : String) (cause : Option Failure)
  /-- A deployment address could not be turned into a handle. -/
  | binding (description : String) (cause : Option Failure)
  /-- A failure of a call context with wording of its own. -/
  | context (message : String)
  | cancelled
  | deadlineExceeded
  | input (e : InputError)
  | conversion (e : ConversionError)
  | field (e : FieldError)
  /-- A configuration that was refused. -/
  | configuration (faults : Faults)
  /-- A field given beside a log message that every record has of its own. -/
  | reservedField (name : String)
  /-- The contract at a handle has no such function. -/
  | noFunction (name : String)
  | node (e : NodeError)
  /-- Any other failure, known by its kind and wording alone. -/
  | other (kind message : String)

instance : Inhabited Failure := ⟨.cancelled⟩

namespace Failure

/-- Stands in a wrapper's message for a cause without wording. -/
def unworded : String := "<cause>"

/-- The wording, where there is one. -/
def message? : Failure → Option String
  | general message => some message
  | contractNotProvided name => some (name ++ " contract not provided")
  | contractFetch subject none => some subject
  | contractFetch subject (some cause) => some (subject ++ ": " ++ cause.message?.getD unworded)
  | binding description none => some description
  | binding description (some cause) => some (description ++ ": " ++ cause.message?.getD unworded)
  | context message => some message
  | cancelled => some "context canceled"
  | deadlineExceeded => some "context deadline exceeded"
  | input e => some e.message
  | conversion e => e.message?
  | field e => some e.message
  | noFunction name => some name
  | configuration _ | reservedField _ | node _ => none
  | other _ message => some message

end Failure

/-- The classes of the reader's own failures. -/
inductive FailureClass where
  | general
  | contractNotProvided
  | contractFetch
  | binding
  | context
  | cancelled
  | deadlineExceeded
  deriving DecidableEq, Repr

namespace FailureClass

def name : FailureClass → String
  | general => "ChainReaderError"
  | contractNotProvided => "ContractNotProvidedError"
  | contractFetch => "ContractFetchError"
  | binding => "BindingError"
  | context => "ContextError"
  | cancelled => "CallCancelledError"
  | deadlineExceeded => "DeadlineExceededError"

/-- A class and those above it, the nearest first. -/
def ancestry : FailureClass → List FailureClass
  | general => [general]
  | context => [context, general]
  | contractNotProvided => [contractNotProvided, general]
  | contractFetch => [contractFetch, general]
  | binding => [binding, general]
  | cancelled => [cancelled, context, general]
  | deadlineExceeded => [deadlineExceeded, context, general]

end FailureClass

/-- What a failure may be made from: a value, or another failure with the name of its kind. -/
inductive Ingredient where
  | value (v : Value)
  | failure (kind : String) (e : Failure)

namespace Ingredient

/-- As it stands in a message. -/
def plain : Ingredient → String
  | value v => v.plain
  | failure _ e => e.message?.getD ""

/-- As it stands in a list. -/
def quoted : Ingredient → String
  | value v => v.quoted
  | failure kind (.field (.missing key)) => kind ++ "(" ++ (Value.text key).quoted ++ ")"
  | failure kind e => kind ++ "(" ++ (Value.text (e.message?.getD "")).quoted ++ ")"

/-- Whether it is nothing. -/
def isNull : Ingredient → Bool
  | value .null => true
  | _ => false

end Ingredient

/-- Why a failure of a class was not made from ingredients. -/
inductive ArityFault where
  | missing (c : FailureClass) (parameter : String)
  | surplus (c : FailureClass) (least most given : Nat)

/-- The wording. The failure to be made counts as an argument itself. -/
def ArityFault.message : ArityFault → String
  | missing c parameter =>
    c.name ++ ".__init__() missing 1 required positional argument: '" ++ parameter ++ "'"
  | surplus c least most given =>
    let takes :=
      if least < most then
        "from " ++ toString (least + 1) ++ " to " ++ toString (most + 1) ++ " positional arguments"
      else if most = 0 then "1 positional argument"
      else toString (most + 1) ++ " positional arguments"
    c.name ++ ".__init__() takes " ++ takes ++ " but " ++ toString (given + 1) ++ " were given"

/-- The wording of a failure of a class that is made from ingredients. A class without wording of its
own shows a single ingredient as it is and more of them as a list. -/
def FailureClass.wording : FailureClass → List Ingredient → Except ArityFault String
  | contractNotProvided, [name] => .ok (name.plain ++ " contract not provided")
  | contractNotProvided, [] => .error (.missing contractNotProvided "contract_name")
  | contractNotProvided, xs => .error (.surplus contractNotProvided 1 1 xs.length)
  | contractFetch, [subject] => .ok subject.plain
  | contractFetch, [subject, cause] =>
    .ok (if cause.isNull then subject.plain else subject.plain ++ ": " ++ cause.plain)
  | contractFetch, [] => .error (.missing contractFetch "message")
  | contractFetch, xs => .error (.surplus contractFetch 1 2 xs.length)
  | cancelled, [] => .ok "context canceled"
  | cancelled, xs => .error (.surplus cancelled 0 0 xs.length)
  | deadlineExceeded, [] => .ok "context deadline exceeded"
  | deadlineExceeded, xs => .error (.surplus deadlineExceeded 0 0 xs.length)
  | general, xs | binding, xs | context, xs =>
    match xs with
    | [] => .ok ""
    | [x] => .ok x.plain
    | xs => .ok (Value.parenthesized (xs.map Ingredient.quoted))

/-- The class of a failure, if the reader has one for it. -/
def Failure.class? : Failure → Option FailureClass
  | .general _ => some .general
  | .contractNotProvided _ => some .contractNotProvided
  | .contractFetch .. => some .contractFetch
  | .binding .. => some .binding
  | .context _ => some .context
  | .cancelled => some .cancelled
  | .deadlineExceeded => some .deadlineExceeded
  | _ => none

/-! Each narrower refusal is a failure. -/

def ofInput {α : Type} : Except InputError α → Except Failure α := Except.mapError .input
def ofConversion {α : Type} : Except ConversionError α → Except Failure α := Except.mapError .conversion
def ofField {α : Type} : Except FieldError α → Except Failure α := Except.mapError .field
def ofFaults {α : Type} : Except Faults α → Except Failure α := Except.mapError .configuration

end Restaking
