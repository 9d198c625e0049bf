namespace WaitingList

/-- The protection that a connection asks for, from none to a fully checked certificate. -/
inductive SslMode where
  | disable
  | allow
  | prefer
  | require
  | verifyCa
  | verifyFull
  deriving DecidableEq, Repr, Inhabited

namespace SslMode

/-- Every mode, from the weakest to the strictest. -/
def all : List SslMode := [disable, allow, prefer, require, verifyCa, verifyFull]

/-- The name of a mode in settings files. -/
def name : SslMode → String
  | disable => "Disable"
  | allow => "Allow"
  | prefer => "Prefer"
  | require => "Require"
  | verifyCa => "VerifyCa"
  | verifyFull => "VerifyFull"

/-- The word for a mode in the options of a connection URL. -/
def option : SslMode → String
  | disable => "disable"
  | allow => "allow"
  | prefer => "prefer"
  | require => "require"
  | verifyCa => "verify-ca"
  | verifyFull => "verify-full"

/-- The mode that an option word stands for. Only the exact words are known. -/
def ofOption? (word : String) : Option SslMode := all.find? fun mode => mode.option == word

/-- The mode that a name in a settings file stands for. -/
def ofName? (word : String) : Option SslMode := all.find? fun mode => mode.name == word

/-- Whether a mode refuses a connection that the store cannot encrypt. -/
def demandsTls : SslMode → Bool
  | disable | allow | prefer => false
  | require | verifyCa | verifyFull => true

end SslMode

end WaitingList
