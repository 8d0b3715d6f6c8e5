import Tenancy.Quantity.Basic
import Tenancy.Report

/-!
# Failures

What can go wrong while a request is handled.  A failure may have a cause of its
own, and its messages lead from what was attempted to what went wrong.
-/

namespace Tenancy

/-- Why something could not be read from the cluster. -/
inductive FetchFailure where
  | unavailable (kind key source : String)
  | undecodable (kind key : String)
  | missing (kind key : String)
  deriving Repr, DecidableEq

/-- Why a request cannot be decided on. -/
inductive DecodeFailure where
  | missingObject
  | malformed (field : String)
  | quantity (field : String) (source : Quantity.Invalid)
  deriving Repr, DecidableEq

/-- Why a text is not a count. -/
inductive CountFault where
  | empty
  | invalidDigit
  | tooLarge
  deriving Repr, DecidableEq

/-- A failure with the failures that led to it. -/
inductive Failure where
  | fetch (failure : FetchFailure)
  | decode (failure : DecodeFailure)
  | quantity (fault : Quantity.Invalid)
  | count (fault : CountFault)
  | plain (text : String)
  | during (activity : String) (cause : Failure)
  deriving Repr, DecidableEq

/-- The description of a document that does not have the expected form. -/
def unexpectedDocument : String := "unexpected document"

namespace FetchFailure

/-- The description of a failure. -/
def message : FetchFailure → String
  | .unavailable kind key source => "failed to fetch " ++ kind ++ " " ++ key ++ ": " ++ source
  | .undecodable kind key =>
      "failed to decode " ++ kind ++ " " ++ key ++ ": " ++ unexpectedDocument
  | .missing kind key => kind ++ " " ++ key ++ " not found"

/-- The description of a failure and of its causes. -/
def messages : FetchFailure → List String
  | .unavailable kind key source => [message (.unavailable kind key source), source]
  | failure => [message failure]

end FetchFailure

namespace DecodeFailure

/-- The description of a failure. -/
def message : DecodeFailure → String
  | .missingObject => "request is missing both object and oldObject"
  | .malformed field => "failed to decode " ++ field ++ ": " ++ unexpectedDocument
  | .quantity field source => "invalid resource requests in " ++ field ++ ": " ++ source.message

/-- The description of a failure and of its causes. -/
def messages : DecodeFailure → List String
  | .quantity field source => [message (.quantity field source), source.message]
  | failure => [message failure]

end DecodeFailure

/-- The description of a text that is not a count. -/
def CountFault.message : CountFault → String
  | .empty => "cannot parse integer from empty string"
  | .invalidDigit => "invalid digit found in string"
  | .tooLarge => "number too large to fit in target type"

namespace Failure

/-- The descriptions of a failure and of what led to it, the outermost first. -/
def messages : Failure → List String
  | .fetch failure => failure.messages
  | .decode failure => failure.messages
  | .quantity fault => [fault.message]
  | .count fault => [fault.message]
  | .plain text => [text]
  | .during activity cause => activity :: cause.messages

/-- The description of a failure without its causes. -/
def message (failure : Failure) : String := failure.messages.head?.getD ""

/-- The descriptions of a failure and of all its causes in one line. -/
def chain (failure : Failure) : String := ": ".intercalate failure.messages

/-- The failure at the end of the causes. -/
def root : Failure → Failure
  | .during _ cause => cause.root
  | failure => failure

instance : Described Failure := ⟨message⟩

end Failure

/-- Read the digits of a count that has to fit in 64 bits, from the first to the
last one. -/
def Count.digits : Nat → List Char → Except CountFault Nat
  | value, [] => .ok value
  | value, digit :: rest =>
      if !digit.isDigit then .error .invalidDigit
      else
        let next := value * 10 + (digit.toNat - '0'.toNat)
        if Width.fitsUnsigned 64 next then digits next rest else .error .tooLarge

/-- Read a count: digits with an optional plus in front. -/
def Count.parse (chars : List Char) : Except CountFault Nat :=
  match chars with
  | [] => .error .empty
  | ['+'] => .error .invalidDigit
  | '+' :: digits => Count.digits 0 digits
  | digits => Count.digits 0 digits

end Tenancy
