import Typology.Query
import Typology.Token
import Typology.Config.Basic
/-!
Why a request is not answered, and how that is reported.
-/

namespace Typology

/-- Why a request is not answered. -/
inductive RequestError where
  /-- The key of a token means nothing. -/
  | unknownToken (position : Nat) (token : Token)
  /-- A transformation refuses the value of its token. -/
  | invalidValue (position : Nat) (token : Token) (source : TransformError)
  | noSuchDataset (name : String)
  | failedDataset (name : String)
  | query (cause : QueryError)
  | config (cause : ConfigError)
deriving DecidableEq, Repr

/-- How a failed request is reported. -/
inductive Status where
  | badRequest
  | insufficientData
  | internalError
deriving DecidableEq, Repr

namespace Status

/-- The name of a status. -/
def label : Status → String
  | badRequest => "BadRequest"
  | insufficientData => "InsufficientData"
  | internalError => "InternalError"

/-- The HTTP number of a status. -/
def code : Status → Nat
  | badRequest => 400
  | insufficientData => 422
  | internalError => 500

end Status

namespace RequestError

/-- How an error is reported. -/
def status : RequestError → Status
  | unknownToken _ _ | invalidValue _ _ _ | noSuchDataset _ => .badRequest
  | query cause => if cause.isQuorum then .insufficientData else .badRequest
  | failedDataset _ | config _ => .internalError

/-- The wording of an error. -/
def message : RequestError → String
  | unknownToken position token =>
    "token " ++ toString position ++ " was unrecognized: " ++ token.key ++ "=" ++ token.value
  | invalidValue position token source =>
    "token " ++ toString position ++ " (" ++ token.key ++ "=" ++ token.value ++
      ") has an invalid value: " ++ source.message
  | noSuchDataset name => "No such dataset: " ++ name
  | failedDataset name => "Failed to load dataset: " ++ name
  | query cause => cause.message
  | config cause => cause.message

end RequestError

end Typology
