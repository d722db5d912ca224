/-!
# Exit statuses

Every command line ends in one of five statuses. Each has a code, which is the
exit code of a one-line run and the error code of a remote reply, and a name.
-/

namespace RemoteConsole

/-- How a command line ended. -/
inductive Status where
  | ok
  | notFound
  | commandError
  /-- The options do not fit the command. -/
  | badArguments
  /-- The session's credential is missing or refused. -/
  | noToken
  deriving Repr, DecidableEq

namespace Status

/-- All statuses in the order of their codes. -/
def all : List Status := [ok, notFound, commandError, badArguments, noToken]

def code : Status → Nat
  | ok => 0
  | notFound => 1
  | commandError => 2
  | badArguments => 3
  | noToken => 4

/-- The name that is shown and logged. -/
def name : Status → String
  | ok => "OK"
  | notFound => "ENOTFOUND"
  | commandError => "ECMDERR"
  | badArguments => "EBADARGS"
  | noToken => "NOTOKEN"

/-- The status with a given code. -/
def ofCode? (n : Nat) : Option Status := all.find? (·.code == n)

def isOk (s : Status) : Bool := s == ok

theorem ofCode?_code (s : Status) : ofCode? s.code = some s := by
  cases s <;> rfl

theorem code_injective {s t : Status} (h : s.code = t.code) : s = t := by
  cases s <;> cases t <;> first | rfl | simp [code] at h

end Status

end RemoteConsole
