import SparkGateway.Number.Numeral
import SparkGateway.Text.Casing
import SparkGateway.Text.Quoted

/-!
# Settings

How the gateway is reached and polled.  Settings come from the environment of the program, where blank
values count as missing and numbers that cannot be read give way to the defaults, and single ones may be
overridden.  Before they are used, the address of the gateway is brought into one form and the settings
are checked.

Main statement: `bare_noQuery` (an address in its one form has no question mark).
-/

namespace SparkGateway

/-- How the gateway is reached and polled. -/
structure Settings where
  /-- The address of the gateway. -/
  address : String := ""
  /-- The user, if the gateway wants one. -/
  user : Option String := none
  /-- The password of the user. -/
  password : Option String := none
  /-- The path of the resource manager on the gateway. -/
  root : String := "/yarnui"
  /-- The name that requests carry against forgery. -/
  requestedBy : String := "ambari"
  /-- The name of the program that requests carry. -/
  agent : String := "livy-ops/0.1.0"
  /-- How often an operation is tried. -/
  attempts : Int := 3
  /-- The pause between two attempts. -/
  pause : Number := .whole 10
  /-- How long one request may take. -/
  timeout : Number := .whole 30
  /-- How long a page is kept. -/
  pageLifetime : Number := .whole 300
  /-- Whether the certificate of the gateway is verified. -/
  verify : Bool := true
  deriving Inhabited

namespace Settings

/-- What the names of all settings in the environment start with. -/
def environmentMark : String := "LIVYOPS_"

/-- The names of all settings in the environment, without what they start with. -/
def environmentNames : List String :=
  ["URL", "USERNAME", "PASSWORD", "YARN_UI_PREFIX", "REQUESTED_BY", "USER_AGENT", "RETRIES_MAX",
    "DELAY_SECONDS", "TIMEOUT", "PAGE_CACHE_TTL", "VERIFY_TLS"]

/-- The value of a setting in the environment, trimmed; a blank one counts as missing. -/
def value? (environment : List (String × String)) (name : String) : Option String :=
  match environment.lookup (environmentMark ++ name) with
  | none => none
  | some raw => if Text.isBlankText raw then none else some (Text.trim raw)

/-- A count in the environment, which is at least zero. -/
def count (environment : List (String × String)) (name : String) (default : Int) : Int :=
  match (value? environment name).bind Numeral.int? with
  | none => default
  | some n => max n 0

/-- A number, or zero if that is greater. -/
def atLeastZero (x : Float) : Number := if x < 0.0 then .real 0.0 else .real x

/-- An amount of seconds in the environment, which is at least zero if it is a number. -/
def amount (environment : List (String × String)) (name : String) (default : Number) : Number :=
  match (value? environment name).bind Numeral.float? with
  | none => default
  | some x => atLeastZero x

/-- The words for no. -/
def noWords : List String := ["0", "false", "no", "off"]

/-- A yes or no in the environment; everything that is no word for no means yes. -/
def flag (environment : List (String × String)) (name : String) (default : Bool) : Bool :=
  match value? environment name with
  | none => default
  | some raw => !noWords.contains (Text.lower raw)

/-- The settings in an environment. -/
def ofEnvironment (environment : List (String × String)) : Settings :=
  let defaults : Settings := {}
  { address := (value? environment "URL").getD ""
    user := value? environment "USERNAME"
    password := value? environment "PASSWORD"
    root := (value? environment "YARN_UI_PREFIX").getD defaults.root
    requestedBy := (value? environment "REQUESTED_BY").getD defaults.requestedBy
    agent := (value? environment "USER_AGENT").getD defaults.agent
    attempts := max (count environment "RETRIES_MAX" defaults.attempts) 1
    pause := amount environment "DELAY_SECONDS" defaults.pause
    timeout := amount environment "TIMEOUT" defaults.timeout
    pageLifetime := amount environment "PAGE_CACHE_TTL" defaults.pageLifetime
    verify := flag environment "VERIFY_TLS" defaults.verify }

/-- Settings that take the place of others, each if it is there. -/
structure Overrides where
  /-- The address of the gateway. -/
  address : Option String := none
  /-- The user. -/
  user : Option String := none
  /-- The password of the user. -/
  password : Option String := none
  /-- The path of the resource manager on the gateway. -/
  root : Option String := none
  /-- The name that requests carry against forgery. -/
  requestedBy : Option String := none
  /-- The name of the program that requests carry. -/
  agent : Option String := none
  /-- How often an operation is tried. -/
  attempts : Option Int := none
  /-- The pause between two attempts. -/
  pause : Option Number := none
  /-- How long one request may take. -/
  timeout : Option Number := none
  /-- How long a page is kept. -/
  pageLifetime : Option Number := none
  /-- Whether the certificate of the gateway is verified. -/
  verify : Option Bool := none

/-- The settings with others in the place of some. -/
def overridden (s : Settings) (o : Overrides) : Settings where
  address := o.address.getD s.address
  user := o.user.or s.user
  password := o.password.or s.password
  root := o.root.getD s.root
  requestedBy := o.requestedBy.getD s.requestedBy
  agent := o.agent.getD s.agent
  attempts := o.attempts.getD s.attempts
  pause := o.pause.getD s.pause
  timeout := o.timeout.getD s.timeout
  pageLifetime := o.pageLifetime.getD s.pageLifetime
  verify := o.verify.getD s.verify

/-- The characters of an address without a query and without slashes at the end. -/
def bareChars (address : List Char) : List Char :=
  Text.dropEndWhile (· == '/') (address.takeWhile fun c => c ≠ '?')

/-- An address without a query and without slashes at the end. -/
def bare (address : String) : String := String.ofList (bareChars address.toList)

/-- The address of all batches. -/
def batchesUrl (s : Settings) : String := Text.trimEndWhere (· == '/') s.address ++ "/batches"

/-- The address below which the sessions are. -/
def sessionsBase (s : Settings) : String := Text.trimEndWhere (· == '/') s.address

/-- Why settings cannot be used. -/
inductive Problem where
  /-- There is no address. -/
  | noAddress
  /-- The address has the wrong scheme. -/
  | badScheme (address : String)
  /-- There is a user without a password. -/
  | noPassword (user : String)
  deriving DecidableEq, Repr

/-- The wording of a problem. -/
def Problem.message : Problem → String
  | noAddress => "No Livy URL configured. Set LIVYOPS_URL or pass --url."
  | badScheme address =>
    let shown := Text.quoted address
    s!"Livy URL must start with http:// or https://, got {shown}"
  | noPassword user =>
    let shown := Text.quoted user
    s!"No password configured for user {shown}. Set LIVYOPS_PASSWORD."

/-- Whether an address is one of the web. -/
def isWebAddress (address : String) : Bool :=
  "http://".toList.isPrefixOf address.toList || "https://".toList.isPrefixOf address.toList

/-- The user whose password is missing. -/
def userWithoutPassword? (s : Settings) : Option String :=
  match s.user, s.password with
  | some user, none => if user.isEmpty then none else some user
  | _, _ => none

/-- Settings that can be used, their address in its one form. -/
def checked (s : Settings) : Except Problem Settings :=
  let address := bare s.address
  if address.isEmpty then .error .noAddress
  else if isWebAddress address then
    match s.userWithoutPassword? with
    | some user => .error (.noPassword user)
    | none => .ok { s with address := address }
  else .error (.badScheme address)

/-- What every request carries, and how it is made. -/
structure Profile where
  /-- The headers. -/
  headers : List (String × String)
  /-- The user and the password, if the gateway wants a user. -/
  credentials : Option (String × String)
  /-- Whether the certificate of the gateway is verified. -/
  verify : Bool
  deriving DecidableEq, Repr

/-- What every request carries under some settings. -/
def profile (s : Settings) : Profile where
  headers := [("Content-Type", "application/json"), ("User-Agent", s.agent),
    ("X-Requested-By", s.requestedBy)]
  credentials := match s.user with
    | some user => if user.isEmpty then none else some (user, s.password.getD "")
    | none => none
  verify := s.verify

theorem mem_of_mem_dropEndWhile {p : Char → Bool} {s : List Char} {c : Char}
    (h : c ∈ Text.dropEndWhile p s) : c ∈ s := by
  have := (List.dropWhile_sublist p).mem (List.mem_reverse.1 h)
  exact List.mem_reverse.1 this

/-- An address in its one form has no question mark. -/
theorem bare_noQuery (address : List Char) : '?' ∉ bareChars address := by
  intro h
  have h := mem_of_mem_dropEndWhile h
  have := List.all_takeWhile (p := fun c : Char => decide (c ≠ '?')) (l := address)
  have := List.all_eq_true.1 this '?' h
  simp at this

end Settings

end SparkGateway
