/-
  ClusterProbe.Credentials — how a client tells the cluster who it is.

  A client tries, in this order, what it was given: a provider of tokens, a name with a
  password, a token, a file with one, and a command that prints one. Without any of them
  it stays anonymous. It may show a certificate as well, with its key (`identity?`).
  There is no service to ask for tokens.
-/

import ClusterProbe.Machine
import ClusterProbe.Text.Base64
import ClusterProbe.Text.Quoted
import ClusterProbe.Yaml.Record

namespace ClusterProbe

/-! ## Keys and certificates -/

/-- Keys or certificates, in base64 or in a file. -/
structure Material where
  data : Option String := none
  file : Option String := none
  deriving DecidableEq, Repr

namespace Material

def isGiven (x : Material) : Bool := x.data.isSome || x.file.isSome

/-- Ends in a line end, unless there is nothing. -/
def ended (bs : List UInt8) : List UInt8 :=
  match bs.getLast? with
  | none | some 10 => bs
  | some _ => bs ++ [10]

/-- What is given. The file does not count next to base64. -/
def load? (x : Material) (m : Machine) : Option (List UInt8) :=
  (match x.data, x.file with
    | some data, _ => Text.decodeBase64? (Text.utf8 data)
    | none, some path => (m.read path).toOption
    | none, none => none).map ended

end Material

/-- A path that starts in a directory, unless it starts at the root. The directory ends
in a slash, or is empty for the working directory. -/
def pathUnder (directory path : String) : String :=
  if path.toList.head? = some '/' then path else directory ++ path

/-- Takes the file's path to start in a directory. -/
def Material.under (directory : String) (x : Material) : Material :=
  { x with file := x.file.map (pathUnder directory) }

/-! ## Providers, commands and credentials -/

/-- A service that tokens come from, and what is known about it. -/
structure TokenProvider where
  name : String
  settings : List (String × String)
  deriving DecidableEq, Repr

/-- A command that prints a token. -/
structure TokenCommand where
  program : Option String
  arguments : List String := []
  environment : List (String × String) := []
  /-- It has to be told about the cluster. -/
  needsCluster : Bool
  deriving DecidableEq, Repr

structure Credentials where
  username : Option String := none
  password : Option String := none
  token : Option String := none
  tokenFile : Option String := none
  certificate : Material := {}
  /-- The key of the certificate. -/
  key : Material := {}
  /-- Whom the client acts for. -/
  actsFor : Option String := none
  actsForGroups : List String := []
  provider : Option TokenProvider := none
  command : Option TokenCommand := none
  deriving DecidableEq, Repr

/-- Why a client cannot tell who it is. -/
inductive CredentialFault where
  | unknownProvider (name : String)
  | retiredProvider
  | noIdToken
  | badExpiry (f : TimestampFault)
  | providerCommandFailed (program : String) (f : CommandFault)
  | noProviderCommand
  | unreadableTokenFile (path : String) (f : FileFault)
  | noCommand
  | commandFailed (f : CommandFault)
  deriving DecidableEq, Repr

namespace CredentialFault

/-- The plugin that took the place of a provider. -/
def pluginPage : String := "https:" ++ "//github.com/Azure/kubelogin"

def message (f : CredentialFault) : String :=
  "auth error: " ++ match f with
    | unknownProvider name => "failed exec auth: Authentication with provider " ++ name ++ " not supported"
    | retiredProvider =>
      "failed exec auth: The azure auth plugin is not supported; use " ++ pluginPage ++ " instead"
    | noIdToken => "failed exec auth: No id-token for oidc Authentication provider"
    | badExpiry f => "malformed token expiration date: " ++ f.message
    | providerCommandFailed program f => "failed exec auth: Executing " ++ program ++ " failed: " ++ f.details
    | noProviderCommand =>
      "failed exec auth: Enable oauth feature to use Google Application Credentials-based token source"
    | unreadableTokenFile path f => "failed to read token file '" ++ Text.quote path ++ "': " ++ f.message
    | noCommand => "command must be specified to use exec authentication plugin"
    | commandFailed f => "unable to run auth exec: " ++ f.message

end CredentialFault

namespace TokenProvider

/-- Seconds that a token has to last. -/
def reserve : Nat := 60

/-- Whether there is a token that lasts. One without a date of expiry does not. -/
def hasLasting (p : TokenProvider) (now : Timestamp) : Except CredentialFault Bool :=
  match p.settings.lookup "access-token", p.settings.lookup "expiry" with
  | some _, some expiry => do
    let expiry ← (Timestamp.ofText expiry).mapError .badExpiry
    return (now.later reserve).isBefore expiry
  | _, _ => .ok false

/-- The command that a provider gets tokens from. -/
def command? (p : TokenProvider) : Option Command :=
  (p.settings.lookup "cmd-path").map fun program =>
    { program, arguments := (p.settings.lookup "cmd-args").toList }

/-- Whether the provider has a token. -/
def check (p : TokenProvider) (m : Machine) : Except CredentialFault Unit :=
  let hasId := (p.settings.lookup "id-token").isSome
  match p.name with
  | "oidc" => if hasId then .ok () else .error .noIdToken
  | "azure" => .error .retiredProvider
  | "gcp" => do
    if hasId || (← p.hasLasting m.now) then return
    match p.command? with
    | some c => throw (.providerCommandFailed c.program (m.start c))
    | none => throw .noProviderCommand
  | name => .error (.unknownProvider name)

def read {σ : Type} [Yaml.Source σ] (x : σ) : Yaml.Reading TokenProvider := do
  let ms ← Yaml.members ["name", "config"] x
  return ⟨← Yaml.required Yaml.Source.text "name" ms, ← Yaml.withDefault [] Yaml.table "config" ms⟩

end TokenProvider

namespace TokenCommand

/-- Why the command prints no token. -/
def fault (c : TokenCommand) (m : Machine) : CredentialFault :=
  match c.program with
  | none => .noCommand
  | some program => .commandFailed (m.start ⟨program, c.arguments, c.environment⟩)

/-- When a command may ask its user. -/
def interactiveModes : List String := ["Never", "IfAvailable", "Always"]

/-- A variable with its value; both have to be there. -/
def assignment? (settings : List (String × String)) : Option (String × String) := do
  return (← settings.lookup "name", ← settings.lookup "value")

def read {σ : Type} [Yaml.Source σ] (x : σ) : Yaml.Reading TokenCommand := do
  let ms ← Yaml.members ["apiVersion", "command", "args", "env", "interactiveMode", "provideClusterInfo"] x
  let _ ← Yaml.optional Yaml.Source.text "apiVersion" ms
  let arguments ← Yaml.optional (Yaml.list Yaml.Source.text) "args" ms
  let settings ← Yaml.optional (Yaml.list Yaml.table) "env" ms
  let mode ← Yaml.optional Yaml.Source.word "interactiveMode" ms
  if !mode.all interactiveModes.contains then failure
  return {
    program := ← Yaml.optional Yaml.Source.text "command" ms
    arguments := arguments.getD []
    environment := (settings.getD []).filterMap assignment?
    needsCluster := ← Yaml.withDefault false Yaml.Source.truth "provideClusterInfo" ms }

end TokenCommand

namespace Credentials

/-- Whether the client can tell the cluster who it is. -/
def check (c : Credentials) (m : Machine) : Except CredentialFault Unit :=
  match c.provider with
  | some p => p.check m
  | none =>
    if (c.username.isSome && c.password.isSome) || c.token.isSome then .ok ()
    else match c.tokenFile, c.command with
      | some path, _ => (discard (m.readText path)).mapError (.unreadableTokenFile path)
      | none, some command => .error (command.fault m)
      | none, none => .ok ()

/-- The key and the certificate in one text, if both can be loaded. -/
def identity? (c : Credentials) (m : Machine) : Option (List UInt8) := do
  return (← c.key.load? m) ++ (← c.certificate.load? m)

/-- What a header says of whom the client acts for. -/
def headers (c : Credentials) : List String := c.actsFor.toList ++ c.actsForGroups

/-- Takes the paths of files to start in a directory. -/
def under (directory : String) (c : Credentials) : Credentials :=
  { c with
    tokenFile := c.tokenFile.map (pathUnder directory)
    certificate := c.certificate.under directory
    key := c.key.under directory }

def names : List String :=
  ["username", "password", "token", "tokenFile", "client-certificate", "client-certificate-data",
   "client-key", "client-key-data", "as", "as-groups", "auth-provider", "exec"]

def read {σ : Type} [Yaml.Source σ] (x : σ) : Yaml.Reading Credentials := do
  let ms ← Yaml.members names x
  let text (k : String) := Yaml.optional Yaml.Source.text k ms
  return {
    username := ← text "username"
    password := ← text "password"
    token := ← text "token"
    tokenFile := ← text "tokenFile"
    certificate := ⟨← text "client-certificate-data", ← text "client-certificate"⟩
    key := ⟨← text "client-key-data", ← text "client-key"⟩
    actsFor := ← text "as"
    actsForGroups := (← Yaml.optional (Yaml.list Yaml.Source.text) "as-groups" ms).getD []
    provider := ← Yaml.optional TokenProvider.read "auth-provider" ms
    command := ← Yaml.optional TokenCommand.read "exec" ms }

end Credentials

end ClusterProbe
