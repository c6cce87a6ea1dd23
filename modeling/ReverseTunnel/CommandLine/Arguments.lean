import ReverseTunnel.NameMap
import ReverseTunnel.Text.Split

/-!
# Words of the command line

The words after the program's name are options of the program, then the name of a
subcommand, then options of that subcommand. An option is written `--name` or, if
it has a letter, `-l`; letters of options may stand together behind one dash. The
value of an option follows as the next word or after `=`. Only after `=` may it
begin with a dash, a dash alone excepted.

Words are taken from left to right, and the first one that asks for help, or that
breaks a rule, decides. What no word gives is taken from the environment, and then
from the defaults.
-/

namespace ReverseTunnel.CommandLine

/-- What an option means. -/
inductive OptionKind where
  /-- Prints a text instead of running. -/
  | information
  /-- Is there or not. -/
  | flag
  /-- Has a value. -/
  | text
  /-- Has a value that is no empty text. -/
  | path
  deriving DecidableEq

/-- An option of the program or of a subcommand. -/
structure OptionRule where
  name : String
  kind : OptionKind
  letter : Option Char := none
  /-- The environment variable that stands in for the option. -/
  standIn : Option String := none
  deriving DecidableEq

/-- What the words gave so far: the flags, and the values by option. -/
structure Given where
  flags : List String
  values : List (String × String)
  deriving DecidableEq

/-- Why the words lead to no run. -/
inductive Stop where
  /-- They ask for a text about the program. -/
  | information
  /-- They break a rule. -/
  | misuse
  deriving DecidableEq

/-- The forms of a word. -/
inductive WordForm where
  /-- Two dashes alone. -/
  | separator
  | long (name : String) (attached : Option String)
  | letters (letters : List Char)
  | plain
  deriving DecidableEq

/-- The form of a word. -/
def WordForm.of (word : String) : WordForm :=
  match word.toList with
  | ['-', '-'] => .separator
  | '-' :: '-' :: rest =>
    match Text.splitFirst '=' (String.ofList rest) with
    | some (name, value) => .long name (some value)
    | none => .long (String.ofList rest) none
  | '-' :: c :: rest => .letters (c :: rest)
  | _ => .plain

namespace Given

/-- Nothing was given. -/
def nothing : Given := ⟨[], []⟩

/-- The flag was given. -/
def has (g : Given) (name : String) : Bool := g.flags.contains name

/-- The value given for an option. -/
def value? (g : Given) (name : String) : Option String := g.values.lookup name

/-- Takes an option that has no value. -/
def addPlain (g : Given) (r : OptionRule) : Except Stop Given :=
  match r.kind with
  | .information => .error .information
  | .flag => if g.has r.name then .error .misuse else .ok { g with flags := r.name :: g.flags }
  | .text | .path => .error .misuse

/-- Takes an option with its value. -/
def addValue (g : Given) (r : OptionRule) (value : String) : Except Stop Given :=
  if (g.value? r.name).isSome ∨ (r.kind = .path ∧ value = "") then .error .misuse
  else .ok { g with values := (r.name, value) :: g.values }

/-- Takes options by their letters. -/
def addLetters (rules : List OptionRule) (g : Given) : List Char → Except Stop Given
  | [] => .ok g
  | c :: rest =>
    match rules.find? fun r => r.letter == some c with
    | none => .error .misuse
    | some r =>
      match g.addPlain r with
      | .ok g => addLetters rules g rest
      | .error stop => .error stop

end Given

/-- The option has a value. -/
def OptionRule.takesValue (r : OptionRule) : Bool := r.kind == .text || r.kind == .path

/-- Takes the options up to the first plain word. The second part is that word and
all that follow; behind a separator there may be none. -/
def readOptions (rules : List OptionRule) (g : Given) :
    List String → Except Stop (Given × List String)
  | [] => .ok (g, [])
  | word :: rest =>
    match WordForm.of word with
    | .plain => .ok (g, word :: rest)
    | .separator => if rest.isEmpty then .ok (g, []) else .error .misuse
    | .letters letters =>
      match g.addLetters rules letters with
      | .ok g => readOptions rules g rest
      | .error stop => .error stop
    | .long name attached =>
      match rules.find? fun r => r.name == name with
      | none => .error .misuse
      | some r =>
        if r.takesValue then
          match attached, rest with
          | some value, rest =>
            match g.addValue r value with
            | .ok g => readOptions rules g rest
            | .error stop => .error stop
          | none, value :: rest =>
            if WordForm.of value = .plain then
              match g.addValue r value with
              | .ok g => readOptions rules g rest
              | .error stop => .error stop
            else .error .misuse
          | none, [] => .error .misuse
        else if attached.isSome then .error .misuse
        else
          match g.addPlain r with
          | .ok g => readOptions rules g rest
          | .error stop => .error stop

/-! ## What the program and its subcommands understand -/

/-- The flag for a log with all details. -/
def verboseRule : OptionRule := { name := "verbose", kind := .flag, letter := some 'v' }

/-- The option that prints how the program is used. -/
def helpRule : OptionRule := { name := "help", kind := .information, letter := some 'h' }

/-- The options of the program. -/
def programRules : List OptionRule :=
  [verboseRule, helpRule, { name := "version", kind := .information, letter := some 'V' }]

/-- The options of the server. -/
def serverRules : List OptionRule :=
  [verboseRule, helpRule,
    { name := "listen", kind := .text, standIn := some "NODEGATE_LISTEN" },
    { name := "http-listen", kind := .text, standIn := some "NODEGATE_HTTP_LISTEN" },
    { name := "sni-listen", kind := .text, standIn := some "NODEGATE_SNI_LISTEN" },
    { name := "port-range", kind := .text, standIn := some "NODEGATE_PORT_RANGE" },
    { name := "token", kind := .text, standIn := some "NODEGATE_TOKEN" },
    { name := "tls-cert", kind := .path }, { name := "tls-key", kind := .path }]

/-- The options of the client. -/
def clientRules : List OptionRule :=
  [verboseRule, helpRule,
    { name := "server", kind := .text, standIn := some "NODEGATE_SERVER" },
    { name := "token", kind := .text, standIn := some "NODEGATE_TOKEN" },
    { name := "id", kind := .text, standIn := some "NODEGATE_ID" },
    { name := "tunnels", kind := .path }, { name := "insecure", kind := .flag },
    { name := "ca-cert", kind := .path }, { name := "server-name", kind := .text }]

/-- The environment variables that stand in for options. -/
def variableNames : List String := (serverRules ++ clientRules).filterMap (·.standIn)

/-- What a server is told. -/
structure ServerArguments where
  listen : String
  httpListen : Option String
  sniListen : Option String
  portRange : String
  token : String
  /-- The files with the certificate chain and the private key. -/
  identity : Option (String × String)
  deriving DecidableEq

/-- How a client is told to secure its connection. -/
inductive SecurityArguments where
  | plaintext
  /-- TLS, trusting the certificates of a file, or those that come with the program;
  the server's certificate is for its host unless another name is given. -/
  | tls (roots serverName : Option String)
  deriving DecidableEq

/-- What a client is told. -/
structure ClientArguments where
  server : String
  token : String
  clientName : String
  /-- The path of the tunnels file. -/
  tunnels : String
  security : SecurityArguments
  deriving DecidableEq

/-- What the program is run as. -/
inductive Role where
  | server (arguments : ServerArguments)
  | client (arguments : ClientArguments)
  deriving DecidableEq

/-- A role, and whether its log holds all details. -/
structure Command where
  role : Role
  verbose : Bool
  deriving DecidableEq

/-- The options that were given, over the environment. -/
structure Settings where
  rules : List OptionRule
  given : Given
  environment : NameMap String

namespace Settings

/-- The value of an option, if it has one. -/
def value? (s : Settings) (name : String) : Option String :=
  match s.given.value? name with
  | some value => some value
  | none => do
    let rule ← s.rules.find? fun r => r.name == name
    s.environment.get? (← rule.standIn)

/-- The value of an option that has to be given. -/
def value (s : Settings) (name : String) : Except Stop String :=
  match s.value? name with
  | some value => .ok value
  | none => .error .misuse

/-- The arguments of a server. Certificate and key come together. -/
def serverArguments (s : Settings) : Except Stop ServerArguments := do
  let token ← s.value "token"
  let identity ←
    match s.value? "tls-cert", s.value? "tls-key" with
    | some certificate, some key => pure (some (certificate, key))
    | none, none => pure none
    | some _, none | none, some _ => .error .misuse
  return {
    listen := (s.value? "listen").getD "0.0.0.0:4443"
    httpListen := s.value? "http-listen"
    sniListen := s.value? "sni-listen"
    portRange := (s.value? "port-range").getD "20000:21000"
    token, identity }

/-- The arguments of a client. Without encryption there are no certificates to trust. -/
def clientArguments (s : Settings) : Except Stop ClientArguments := do
  let server ← s.value "server"
  let token ← s.value "token"
  let clientName ← s.value "id"
  let tunnels ← s.value "tunnels"
  let security ←
    match s.given.has "insecure", s.value? "ca-cert" with
    | true, none => pure .plaintext
    | true, some _ => .error .misuse
    | false, roots => pure (.tls roots (s.value? "server-name"))
  return { server, token, clientName, tunnels, security }

end Settings

/-- The settings that the words of a subcommand give; each has to be an option. -/
def readSettings (rules : List OptionRule) (environment : NameMap String) (words : List String) :
    Except Stop Settings := do
  let (given, rest) ← readOptions rules .nothing words
  if rest.isEmpty then return { rules, given, environment } else throw .misuse

/-- The words after `help` name at most one subcommand. -/
def readHelp (words : List String) : Stop :=
  match words with
  | [] => .information
  | [topic] => if ["server", "client", "help"].contains topic then .information else .misuse
  | _ :: _ :: _ => .misuse

/-- The command that the words give in an environment. -/
def Command.parse (environment : NameMap String) (words : List String) : Except Stop Command := do
  let (given, words) ← readOptions programRules .nothing words
  match words with
  | "server" :: words =>
    let settings ← readSettings serverRules environment words
    let arguments ← settings.serverArguments
    return ⟨.server arguments, given.has "verbose" || settings.given.has "verbose"⟩
  | "client" :: words =>
    let settings ← readSettings clientRules environment words
    let arguments ← settings.clientArguments
    return ⟨.client arguments, given.has "verbose" || settings.given.has "verbose"⟩
  | "help" :: words => throw (readHelp words)
  | _ => throw .misuse

end ReverseTunnel.CommandLine
