import BoxOffice.Number.Bounded
import BoxOffice.Text.Blank

/-!
# Settings

The settings of a client are read from variables, given by a look-up. A blank variable counts as
unset.

* `Settings.load lookup` -- the settings, or why there are none: the base URL has to be set, and the
  timeout, if it is set, has to be a number of milliseconds in 64 bits, white space around it aside.
-/

namespace BoxOffice.Client

/-- The settings of a client. -/
structure Settings where
  baseUrl : String
  token : Option String
  /-- in milliseconds -/
  timeout : Nat
  deriving DecidableEq, Repr

/-- Why there are no settings. -/
inductive SettingsFault where
  | missing (name : String)
  | invalid (name expected value : String)
  deriving DecidableEq, Repr

/-- The wording of the fault. -/
def SettingsFault.message : SettingsFault → String
  | .missing name => name ++ " environment variable is required"
  | .invalid name expected value => name ++ " must be " ++ expected ++ ", got `" ++ value ++ "`"

namespace Settings

/-- The variable of the base URL. -/
def baseUrlVariable : String := "TICKETLINE_BASE_URL"

/-- The variable of the bearer token. -/
def tokenVariable : String := "TICKETLINE_TOKEN"

/-- The variable of the timeout. -/
def timeoutVariable : String := "TICKETLINE_TIMEOUT_MS"

/-- The timeout if none is set. -/
def defaultTimeout : Nat := 10000

/-- The settings for a base URL and nothing else. -/
def ofBaseUrl (baseUrl : String) : Settings := ⟨baseUrl, none, defaultTimeout⟩

/-- A variable that is set and not blank. -/
def nonBlank? (lookup : String → Option String) (name : String) : Option String :=
  (lookup name).filter fun v => !Text.isAllBlank v

/-- The timeout that a text writes. -/
def readTimeout (raw : String) : Except SettingsFault Nat :=
  match Number.Bounds.uint64.read (Text.trimBlank raw) with
  | .ok n => .ok n.toNat
  | .error _ => .error (.invalid timeoutVariable "an integer number of milliseconds" raw)

/-- **The settings that variables hold.** -/
def load (lookup : String → Option String) : Except SettingsFault Settings :=
  match nonBlank? lookup baseUrlVariable with
  | none => .error (.missing baseUrlVariable)
  | some baseUrl =>
    match nonBlank? lookup timeoutVariable with
    | none => .ok ⟨baseUrl, nonBlank? lookup tokenVariable, defaultTimeout⟩
    | some raw => (readTimeout raw).map fun ms => ⟨baseUrl, nonBlank? lookup tokenVariable, ms⟩

end Settings

end BoxOffice.Client
