import Tollbooth.Exact.Client
import Tollbooth.Exact.Rpc
import Tollbooth.Facilitator.Client
import Tollbooth.Files
import Tollbooth.Payment.Retry
/-!
# Configuration

A configuration is a JSON file in which everything may be left out.  Secrets can be given as
references to environment variables, which are looked up when the file is read.

A file may be used for commands that need little of it.  So reading it fails only for its form, and
for a reference to a variable that is not set; a network that nobody knows, or a key that is
missing, is reported by a command that needs it.

* `Config.load` reads a file, and `Config.loadOrDefault` does without one.
* `Config.signer`, `Config.resolver`, `Config.facilitator` and `Config.payer` make what the file
  describes.  What is wrong with a network or a missing key is only found then.
-/

set_option autoImplicit false

namespace Tollbooth

open Json

/-- Credentials as they are configured. -/
structure CredentialSettings where
  key : String
  secret : String
  passphrase : Option String
  forwardedFor : Option String
deriving DecidableEq

namespace CredentialSettings

def keySlot (env : Environment) : Slot String := .required "apiKey" (Setting.read env Setting.text)
def secretSlot (env : Environment) : Slot String :=
  .required "apiSecret" (Setting.read env Setting.text)
def passphraseSlot (env : Environment) : Slot (Option String) :=
  .optional "passphrase" (Setting.read env Setting.text)
def forwardedForSlot (env : Environment) : Slot (Option String) :=
  .optional "forwardedFor" (Setting.read env Setting.text)

/-- Reads credentials. -/
def read (env : Environment) : Reader CredentialSettings :=
  readRecord [(keySlot env).field, (secretSlot env).field, (passphraseSlot env).field,
      (forwardedForSlot env).field] fun r =>
    return {
      key := ← r.get (keySlot env)
      secret := ← r.get (secretSlot env)
      passphrase := ← r.get (passphraseSlot env)
      forwardedFor := ← r.get (forwardedForSlot env) }

/-- The credentials, with the blanks around every setting removed. -/
def credentials (s : CredentialSettings) : Credentials :=
  let c := Credentials.ofKey (Text.trim s.key) (Text.trim s.secret)
  let c := s.passphrase.elim c fun p => c.withPassphrase (Text.trim p)
  s.forwardedFor.elim c fun f => c.withForwardedFor (Text.trim f)

end CredentialSettings

/-- Reads a URL. -/
def readUrl : Reader Http.Url := readText fun s =>
  match Http.Url.parse? s with
  | some url => .ok url
  | none => .error .illFormed

/-- A facilitator as it is configured. -/
structure FacilitatorSettings where
  url : Option Http.Url
  timeoutSeconds : Nat
  credentials : Option CredentialSettings
deriving DecidableEq

namespace FacilitatorSettings

/-- The settings unless they are given. -/
def default : FacilitatorSettings := ⟨none, 30, none⟩

def urlSlot : Slot (Option Http.Url) := .optional "url" readUrl
def timeoutSlot : Slot Nat :=
  .defaulted "timeoutSeconds" (readNat Word.bound64) default.timeoutSeconds
def credentialsSlot (env : Environment) : Slot (Option CredentialSettings) :=
  .optional "credentials" (CredentialSettings.read env)

/-- Reads the settings of a facilitator. -/
def read (env : Environment) : Reader FacilitatorSettings :=
  readRecord [urlSlot.field, timeoutSlot.field, (credentialsSlot env).field] fun r =>
    return {
      url := ← r.get urlSlot
      timeoutSeconds := ← r.get timeoutSlot
      credentials := ← r.get (credentialsSlot env) }

end FacilitatorSettings

/-- A separator that is pinned for an asset on a network. -/
structure PinSetting where
  network : String
  asset : Address
  separator : Separator
deriving DecidableEq

namespace PinSetting

def networkSlot : Slot String := .required "network" readString
def assetSlot : Slot Address := .required "asset" readAddress
def separatorSlot : Slot Separator := .required "separator" Separator.read

/-- Reads a pinned separator. -/
def read : Reader PinSetting :=
  readRecord [networkSlot.field, assetSlot.field, separatorSlot.field] fun r =>
    return {
      network := ← r.get networkSlot
      asset := ← r.get assetSlot
      separator := ← r.get separatorSlot }

end PinSetting

/-- A configuration. -/
structure Config where
  facilitatorSettings : FacilitatorSettings
  /-- Endpoints that are asked for separators, by network and in the order of the names. -/
  rpc : List (String × Http.Url)
  key : Option PrivateKey
  validitySeconds : Nat
  paymentTimeoutSeconds : Nat
  pinned : List PinSetting

/-- Why a configuration cannot be used. -/
inductive ConfigError where
  | unreadable (path : String) (fault : FileFault)
  | invalid (fault : Fault)
  | unknownNetwork (network : String)
  /-- The network is in another namespace than the one that can be paid in. -/
  | foreignNetwork (network : String)
  | noSigner
  | facilitator (error : FacilitatorError)
deriving DecidableEq

/-- What is said of a configuration that cannot be used. -/
def ConfigError.message : ConfigError → String
  | .unreadable path fault => "Failed to read config file at " ++ path ++ ": " ++ fault.message
  | .invalid fault => "Failed to parse config file: " ++ fault.message
  | .unknownNetwork network => "Unknown network " ++ network
  | .foreignNetwork network => "Network " ++ network ++ " is not an EVM network"
  | .noSigner => "No signer configured; set \"signer\" in the config file"
  | .facilitator e => e.message

namespace Config

/-- The configuration that leaves everything out. -/
def default : Config := ⟨.default, [], none, 3600, 30, []⟩

/-- A private key as a setting. -/
def privateKey (s : String) : Except Fault PrivateKey :=
  match PrivateKey.parse? s with
  | some key => .ok key
  | none => .error (Setting.unparsable none)

def facilitatorSlot (env : Environment) : Slot FacilitatorSettings :=
  .defaulted "facilitator" (FacilitatorSettings.read env) default.facilitatorSettings
def rpcSlot : Slot (List (String × Http.Url)) := .defaulted "rpc" (readMap readUrl) default.rpc
def signerSlot (env : Environment) : Slot (Option PrivateKey) :=
  .optional "signer" (Setting.read env privateKey)
def validitySlot : Slot Nat :=
  .defaulted "validitySeconds" (readNat Word.bound64) default.validitySeconds
def paymentTimeoutSlot : Slot Nat :=
  .defaulted "paymentTimeoutSeconds" (readNat Word.bound64) default.paymentTimeoutSeconds
def pinnedSlot : Slot (List PinSetting) :=
  .defaulted "pinned" (readList PinSetting.read) default.pinned

/-- Reads a configuration. -/
def read (env : Environment) : Reader Config :=
  readRecord [(facilitatorSlot env).field, rpcSlot.field, (signerSlot env).field,
      validitySlot.field, paymentTimeoutSlot.field, pinnedSlot.field] fun r =>
    return {
      facilitatorSettings := ← r.get (facilitatorSlot env)
      rpc := ← r.get rpcSlot
      key := ← r.get (signerSlot env)
      validitySeconds := ← r.get validitySlot
      paymentTimeoutSeconds := ← r.get paymentTimeoutSlot
      pinned := ← r.get pinnedSlot }

/-- The configuration in a file. -/
def load (files : Files) (env : Environment) (path : String) : Except ConfigError Config :=
  match files.readText path with
  | .error fault => .error (.unreadable path fault)
  | .ok content =>
    match (read env).ofText content with
    | .error fault => .error (.invalid fault)
    | .ok config => .ok config

/-- The configuration in a file, or the default if there is no such file. -/
def loadOrDefault (files : Files) (env : Environment) (path : String) :
    Except ConfigError Config :=
  match load files env path with
  | .error (.unreadable _ .missing) => .ok default
  | result => result

/-! ## What a configuration describes

Networks are named as people name them, and several names may mean one chain, so that pins and
endpoints are put in one after the other and a later one takes the place of an earlier one. -/

/-- The number of the chain that a network name or identifier means. -/
def chain (network : String) : Except ConfigError ChainNumber :=
  match ChainId.resolve? network with
  | none => .error (.unknownNetwork network)
  | some c =>
    match ChainNumber.ofChainId c with
    | .ok n => .ok n
    | .error _ => .error (.foreignNetwork network)

/-- The signer of the configured key. -/
def signer (c : Config) : Except ConfigError Signer :=
  match c.key with
  | some key => .ok (.ofKey key)
  | none => .error .noSigner

/-- The configured pins on top of the built-in ones. -/
def pins (c : Config) : Except ConfigError Pins :=
  c.pinned.foldlM
    (fun pins p => do return pins.pin ⟨← chain p.network, p.asset⟩ p.separator)
    Pins.defaults

/-- The readers of the configured endpoints. -/
def readers (c : Config) : Except ConfigError ChainReaders :=
  c.rpc.foldlM
    (fun readers (network, url) => do return readers.insert (← chain network) (Rpc.reader url))
    ChainReaders.empty

/-- The resolver of the configured pins and endpoints. -/
def resolver (c : Config) : Except ConfigError DomainResolver := do
  let pins ← c.pins
  let readers ← c.readers
  return ⟨pins, readers⟩

/-- How long an authorization is valid. -/
def validity (c : Config) : Duration := .ofSeconds c.validitySeconds

/-- How long making a payment may take. -/
def paymentTimeout (c : Config) : Duration := .ofSeconds c.paymentTimeoutSeconds

/-- The client of the configured facilitator.  Without configured credentials those of the
environment are used. -/
def facilitator (c : Config) (env : Environment) : Except ConfigError Facilitator :=
  let settings := c.facilitatorSettings
  let made : Except FacilitatorError Facilitator :=
    match settings.url with
    | some url => .ok (Facilitator.ofUrl env url)
    | none => Facilitator.default env
  match made with
  | .error e => .error (.facilitator e)
  | .ok f =>
    let f := f.withTimeout (Duration.ofSeconds settings.timeoutSeconds).milliseconds
    .ok (settings.credentials.elim f fun s => f.withCredentials s.credentials)

/-- The payer who pays by the exact scheme with the configured key. -/
def payer (c : Config) : Except ConfigError Payer := do
  let signer ← c.signer
  let resolver ← c.resolver
  let client : ExactClient := { signer, resolver, validity := c.validity }
  return { Payer.ofSchemes [client.scheme] with timeout := some c.paymentTimeout.milliseconds }

end Config

end Tollbooth
