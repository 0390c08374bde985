import Tollbooth.Proofs.Config.Read
import Tollbooth.Proofs.Json.Sound
/-!
# Credentials of a configuration and of the environment

Credentials are given in the file of a configuration, where a text may refer to a variable, or else
they are taken from variables with fixed names.  From a file every setting is trimmed, but nobody
asks whether there is a key and a secret; from the variables only the key and the secret are
trimmed, and there are no credentials unless there is something of both.

The two ways are compared through the settings in between: a record of texts, of which some may be
missing.  On one side it is said when a document gives certain settings, and when the variables of
an environment do; on the other, what credentials each way makes of them.  Then the question when
both agree is one about settings alone, and has an exact answer.  The settings for which there is a
difference are those with a blank at an end of a text that only one way trims, and those without a
key or a secret, which one way takes for credentials and the other does not.

It would be of no use to say this about settings that no document can give, so it is shown that each
can be given: by a file that refers to variables for all of its texts.

* `Setting.StandsFor` — what a written text stands for.
* `Config.Gives` — a document gives credentials; `CredentialSettings.SetIn` — variables do.
* `CredentialSettings.IsPlain` — the settings for which there is no difference.
* `CredentialSettings.exists_load_files` — all settings can be given in a file.
* `configured_credentials_agree_iff` — the two ways give the same just for these.
-/

set_option autoImplicit false

namespace Tollbooth

open Json

/-! ## Texts that stand for settings

A text in a file may refer to a variable, and what it stands for depends on the environment. -/

namespace Setting

variable {env : Environment} {written raw : String}

/-- A text stands for itself, or for the value of the variable that it refers to. -/
inductive StandsFor (env : Environment) : String → String → Prop
  | literal {s : String} (plain : reference? s = none) : StandsFor env s s
  | variable {s name value : String} (refers : reference? s = some name)
      (found : env.get? name = some value) : StandsFor env s value

theorem expand_eq_ok_iff : expand env written = .ok raw ↔ StandsFor env written raw := by
  rw [expand]
  cases href : reference? written with
  | none =>
    constructor
    · rintro ⟨⟩
      exact .literal href
    · rintro (_ | ⟨hrefers, -⟩)
      · rfl
      · cases href.symm.trans hrefers
  | some name =>
    dsimp only
    constructor
    · intro h
      split at h
      · next hvalue =>
        cases h
        exact .variable href hvalue
      · cases h
    · rintro (hplain | ⟨hrefers, hvalue⟩)
      · cases href.symm.trans hplain
      · cases href.symm.trans hrefers
        rw [hvalue]

/-- The values that are there for a setting that may be left out give it: there is none, or it is
null, or it is a text that stands for it. -/
inductive GivenBy (env : Environment) : List Doc → Option String → Prop
  | absent : GivenBy env [] none
  | null : GivenBy env [.null] none
  | text {body : Bytes} {written raw : String} (spells : unescape? body = some written)
      (stands : StandsFor env written raw) : GivenBy env [.string body] (some raw)

theorem read_text_eq_ok_iff {site : Site} {body : Bytes} (h : unescape? body = some written) :
    read env text site (.string body) = .ok raw ↔ StandsFor env written raw := by
  have hread : readString site (.string body) = .ok written := by rw [readString, h]
  rw [read, readText, hread, ← expand_eq_ok_iff]
  show (expand env written >>= text) = .ok raw ↔ _
  rw [bind_eq_ok]
  simp [text]

end Setting

/-! ## Documents and variables that give credentials

The document is described by what is found in it, record inside record, and the environment by its
variables. -/

namespace CredentialSettings

/-- What was found for credentials gives these settings. -/
structure GivenBy (s : CredentialSettings) (env : Environment) (found : List (String × Doc)) :
    Prop where
  key : Setting.GivenBy env (valuesOf "apiKey" found) (some s.key)
  secret : Setting.GivenBy env (valuesOf "apiSecret" found) (some s.secret)
  passphrase : Setting.GivenBy env (valuesOf "passphrase" found) s.passphrase
  forwardedFor : Setting.GivenBy env (valuesOf "forwardedFor" found) s.forwardedFor

/-- The variables of an environment give these settings. -/
structure SetIn (s : CredentialSettings) (env : Environment) : Prop where
  key : env Credentials.keyVariable = some s.key
  secret : env Credentials.secretVariable = some s.secret
  passphrase : env Credentials.passphraseVariable = s.passphrase
  forwardedFor : env Credentials.forwardedForVariable = s.forwardedFor

end CredentialSettings

/-- A document gives these credentials: there is a facilitator in it, with credentials in which
these settings are found. -/
def Config.Gives (env : Environment) (d : Doc) (s : CredentialSettings) : Prop :=
  ∃ (members settings found : List (String × Doc)) (facilitator credentials : Doc),
    Lays (fields env) d members ∧ valuesOf "facilitator" members = [facilitator] ∧
      Lays (FacilitatorSettings.fields env) facilitator settings ∧
      valuesOf "credentials" settings = [credentials] ∧
      Lays (CredentialSettings.fields env) credentials found ∧ s.GivenBy env found

/-! ## Reading credentials

A text stands for one thing at most, so whatever is read of what was found is what was given. -/

namespace Setting

variable {env : Environment} {site : Site} {ds : List Doc} {raw : String}

/-- A text that has to be there is read as what it stands for. -/
theorem GivenBy.eq_of_required {name value : String} (h : GivenBy env ds (some raw))
    (htakes : (Slot.required name (read env Setting.text)).Takes site ds value) : value = raw := by
  cases h with
  | text hspells hstands =>
    cases htakes with
    | present hread =>
      have hvalue := (read_text_eq_ok_iff hspells).1 hread
      rw [← expand_eq_ok_iff] at hvalue hstands
      cases hvalue.symm.trans hstands
      rfl

/-- So is one that may be left out. -/
theorem GivenBy.eq_of_optional {name : String} {raw? value? : Option String}
    (h : GivenBy env ds raw?)
    (htakes : (Slot.optional name (read env Setting.text)).Takes site ds value?) :
    value? = raw? := by
  cases h with
  | absent =>
    cases htakes with
    | absent hvalue =>
      cases hvalue
      rfl
  | null =>
    cases htakes with
    | present hread =>
      cases hread
      rfl
  | text hspells hstands =>
    cases htakes with
    | present hread =>
      obtain ⟨value, hvalue, rfl⟩ := map_eq_ok.1 hread
      have htakes : (Slot.required name (read env Setting.text)).Takes site _ value :=
        .present hvalue
      exact congrArg some ((text hspells hstands).eq_of_required htakes)

end Setting

/-- **Credentials are read as they are given.** -/
theorem CredentialSettings.eq_of_read {env : Environment} {site : Site} {d : Doc}
    {found : List (String × Doc)} {s given : CredentialSettings} (h : read env site d = .ok s)
    (hlays : Lays (fields env) d found) (hgiven : given.GivenBy env found) : s = given := by
  obtain ⟨record, hrecord, hkey, hsecret, hpassphrase, hforwardedFor⟩ := get_of_read h
  have htakes : ∀ {α : Type} {slot : Slot α} {a : α}, slot.field ∈ fields env →
      record.get slot = .ok a → slot.Takes record.site (valuesOf slot.name found) a :=
    hlays.takes_of_get (nodup_fields env) hrecord
  have hkey : (keySlot env).Takes record.site _ s.key := htakes (by simp [fields]) hkey
  have hsecret : (secretSlot env).Takes record.site _ s.secret := htakes (by simp [fields]) hsecret
  have hpassphrase : (passphraseSlot env).Takes record.site _ s.passphrase :=
    htakes (by simp [fields]) hpassphrase
  have hforwardedFor : (forwardedForSlot env).Takes record.site _ s.forwardedFor :=
    htakes (by simp [fields]) hforwardedFor
  obtain ⟨key, secret, passphrase, forwardedFor⟩ := s
  obtain rfl := hgiven.key.eq_of_required hkey
  obtain rfl := hgiven.secret.eq_of_required hsecret
  obtain rfl := hgiven.passphrase.eq_of_optional hpassphrase
  obtain rfl := hgiven.forwardedFor.eq_of_optional hforwardedFor
  rfl

/-- **A configuration that is read has the credentials that the document gives.** -/
theorem Config.Gives.credentials_eq {env : Environment} {site : Site} {d : Doc} {c : Config}
    {s : CredentialSettings} (h : Gives env d s) (hread : read env site d = .ok c) :
    c.facilitatorSettings.credentials = some s := by
  obtain ⟨members, settings, found, facilitator, credentials, hmembers, hfacilitator, hsettings,
    hcredentials, hfound, hgiven⟩ := h
  -- The member under each name is the only one that the record takes.
  obtain ⟨record, hrecord, hget, -⟩ := get_of_read hread
  have htakes := hmembers.takes_of_get (nodup_fields env) hrecord (by simp [fields]) hget
  rw [show (facilitatorSlot env).name = "facilitator" from rfl, hfacilitator] at htakes
  cases htakes with
  | present hread =>
    obtain ⟨record, hrecord, -, -, hget⟩ := FacilitatorSettings.get_of_read hread
    have htakes := hsettings.takes_of_get (FacilitatorSettings.nodup_fields env) hrecord
      (by simp [FacilitatorSettings.fields]) hget
    rw [show (FacilitatorSettings.credentialsSlot env).name = "credentials" from rfl,
      hcredentials] at htakes
    generalize c.facilitatorSettings.credentials = s? at htakes
    cases htakes with
    | present hread =>
      obtain ⟨rfl, -⟩ | ⟨-, s', hs', rfl⟩ := readOption_eq_ok.1 hread
      · cases hfound
      · rw [CredentialSettings.eq_of_read hs' hfound hgiven]

/-! ## What becomes of settings

Both ways prepare the texts and then make the same record of them, so they differ in what they do to
a single text.  `made` is that record with the preparation as a parameter, and the comparison goes
text by text: nothing is trimmed from a text just if it stays the same. -/

/-- The credentials of a client for settings: there are none without a key and a secret, an empty
passphrase is none, and an empty address leaves the one that there is without it. -/
structure CredentialSettings.HonouredBy (s : CredentialSettings) (given : Option Credentials) :
    Prop where
  enabled : given ≠ none → Text.trim s.key ≠ "" ∧ Text.trim s.secret ≠ ""
  passphrase : ∀ c ∈ given, ∀ p ∈ s.passphrase, Text.trim p = "" → c.passphrase = none
  forwardedFor : ∀ c ∈ given, ∀ a ∈ s.forwardedFor, Text.trim a = "" →
    c.forwardedFor = Credentials.defaultForwardedFor

namespace CredentialSettings

/-- There is a key and a secret, and no blank stands at an end of another setting. -/
structure IsPlain (s : CredentialSettings) : Prop where
  key : Text.trim s.key ≠ ""
  secret : Text.trim s.secret ≠ ""
  passphrase : ∀ p ∈ s.passphrase, Text.trim p = p
  forwardedFor : ∀ a ∈ s.forwardedFor, Text.trim a = a

/-- The text, unless it is empty. -/
def nonempty? (t : String) : Option String := if t = "" then none else some t

/-- The credentials of settings whose other texts than key and secret are prepared in some way. -/
def made (prepare : String → String) (s : CredentialSettings) : Credentials where
  key := Text.trim s.key
  secret := Text.trim s.secret
  passphrase := s.passphrase.bind fun p => nonempty? (prepare p)
  forwardedFor := (s.forwardedFor.bind fun a => nonempty? (prepare a)).getD
    Credentials.defaultForwardedFor

variable {s : CredentialSettings} {env : Environment}

theorem withForwardedFor_eq (c : Credentials) (a : String) : c.withForwardedFor a =
    { c with forwardedFor := (nonempty? a).getD c.forwardedFor } := by
  rw [Credentials.withForwardedFor, nonempty?]
  split <;> rfl

/-- Credentials are made setting by setting. -/
theorem made_eq (prepare : String → String) (s : CredentialSettings) :
    s.made prepare =
      let c := Credentials.ofKey (Text.trim s.key) (Text.trim s.secret)
      let c := s.passphrase.elim c fun p => c.withPassphrase (prepare p)
      s.forwardedFor.elim c fun a => c.withForwardedFor (prepare a) := by
  obtain ⟨key, secret, passphrase, forwardedFor⟩ := s
  cases forwardedFor with
  | none => cases passphrase <;> rfl
  | some a =>
    dsimp only [Option.elim_some]
    rw [withForwardedFor_eq]
    cases passphrase <;> rfl

/-- Settings of a file are all trimmed. -/
theorem credentials_eq (s : CredentialSettings) : s.credentials = s.made Text.trim :=
  (made_eq Text.trim s).symm

/-- Settings of an environment count if there is a key and a secret, and only these are trimmed. -/
theorem SetIn.ofEnvironment_eq (h : s.SetIn env) : Credentials.ofEnvironment env =
    if Text.trim s.key ≠ "" ∧ Text.trim s.secret ≠ "" then some (s.made id) else none := by
  rw [Credentials.ofEnvironment, h.key, h.secret, h.passphrase, h.forwardedFor, made_eq]
  by_cases hboth : Text.trim s.key ≠ "" ∧ Text.trim s.secret ≠ ""
  · rw [if_pos hboth]
    simp [hboth]
  · rw [if_neg hboth]
    simp [hboth]

theorem nonempty?_of_ne {t : String} (h : t ≠ "") : nonempty? t = some t := if_neg h

section Trim

variable {t : String}

/-- Nothing is trimmed from a text just if it stays the same as a setting that may be empty. -/
theorem nonempty?_trim_eq_iff : nonempty? (Text.trim t) = nonempty? t ↔ Text.trim t = t := by
  refine ⟨fun h => ?_, congrArg nonempty?⟩
  by_cases ht : t = ""
  · subst ht
    rfl
  · rw [nonempty?_of_ne ht, nonempty?] at h
    split at h
    · cases h
    · exact Option.some.inj h

/-- The address that there is without a setting is not blank, so it does not hide the difference. -/
theorem getD_nonempty?_trim_eq_iff :
    (nonempty? (Text.trim t)).getD Credentials.defaultForwardedFor =
      (nonempty? t).getD Credentials.defaultForwardedFor ↔ Text.trim t = t := by
  refine ⟨fun h => ?_, fun h => by rw [h]⟩
  by_cases ht : t = ""
  · subst ht
    rfl
  · rw [nonempty?_of_ne ht, nonempty?] at h
    split at h
    · next htrim =>
      have hdefault : Text.trim Credentials.defaultForwardedFor ≠ "" := by decide
      cases (show Credentials.defaultForwardedFor = t from h)
      exact (hdefault htrim).elim
    · exact h

end Trim

/-- It does not matter whether the other settings are trimmed just if they are. -/
theorem made_trim_eq_iff : s.made Text.trim = s.made id ↔
    (∀ p ∈ s.passphrase, Text.trim p = p) ∧ ∀ a ∈ s.forwardedFor, Text.trim a = a := by
  obtain ⟨key, secret, passphrase, forwardedFor⟩ := s
  have hpassphrase : (passphrase.bind fun p => nonempty? (Text.trim p)) =
      passphrase.bind (fun p => nonempty? (id p)) ↔ ∀ p ∈ passphrase, Text.trim p = p := by
    cases passphrase with
    | none => simp
    | some p => simpa using nonempty?_trim_eq_iff
  have hforwardedFor : (forwardedFor.bind fun a => nonempty? (Text.trim a)).getD
        Credentials.defaultForwardedFor =
      (forwardedFor.bind fun a => nonempty? (id a)).getD Credentials.defaultForwardedFor ↔
        ∀ a ∈ forwardedFor, Text.trim a = a := by
    cases forwardedFor with
    | none => simp
    | some a => simpa using getD_nonempty?_trim_eq_iff
  rw [made, made, Credentials.mk.injEq, hpassphrase, hforwardedFor]
  simp

/-- **The two ways give the same credentials just for plain settings.** -/
theorem SetIn.agree_iff (h : s.SetIn env) :
    some s.credentials = Credentials.ofEnvironment env ↔ s.IsPlain := by
  rw [h.ofEnvironment_eq, credentials_eq]
  constructor
  · intro hagree
    split at hagree
    · next hboth =>
      obtain ⟨hpassphrase, hforwardedFor⟩ := made_trim_eq_iff.1 (Option.some.inj hagree)
      exact ⟨hboth.1, hboth.2, hpassphrase, hforwardedFor⟩
    · cases hagree
  · rintro ⟨hkey, hsecret, hpassphrase, hforwardedFor⟩
    rw [if_pos ⟨hkey, hsecret⟩, made_trim_eq_iff.2 ⟨hpassphrase, hforwardedFor⟩]

theorem made_passphrase_eq_none_iff {prepare : String → String} {p : String}
    (h : s.passphrase = some p) : (s.made prepare).passphrase = none ↔ prepare p = "" := by
  simp [made, h, nonempty?]

theorem made_forwardedFor {prepare : String → String} {a : String} (h : s.forwardedFor = some a) :
    (s.made prepare).forwardedFor =
      (nonempty? (prepare a)).getD Credentials.defaultForwardedFor := by
  rw [made, h, Option.bind_some]

/-- Settings of a file are honoured just if there is a key and a secret. -/
theorem honouredBy_credentials_iff : s.HonouredBy (some s.credentials) ↔
    Text.trim s.key ≠ "" ∧ Text.trim s.secret ≠ "" := by
  rw [credentials_eq]
  refine ⟨fun h => h.enabled nofun, fun h => ⟨fun _ => h, ?_, ?_⟩⟩
  · rintro _ ⟨⟩ p hp htrim
    exact (made_passphrase_eq_none_iff hp).2 htrim
  · rintro _ ⟨⟩ a ha htrim
    rw [made_forwardedFor ha, htrim]
    rfl

/-- Settings of an environment are honoured just if those that are blank are empty, unless there are
no credentials anyway. -/
theorem SetIn.honouredBy_iff (h : s.SetIn env) : s.HonouredBy (Credentials.ofEnvironment env) ↔
    (Text.trim s.key ≠ "" ∧ Text.trim s.secret ≠ "" →
      (∀ p ∈ s.passphrase, Text.trim p = "" → p = "") ∧
        ∀ a ∈ s.forwardedFor, Text.trim a = "" → a = "") := by
  rw [h.ofEnvironment_eq]
  by_cases hboth : Text.trim s.key ≠ "" ∧ Text.trim s.secret ≠ ""
  · rw [if_pos hboth, forall_prop_of_true hboth]
    have hforwardedFor {a : String} (ha : s.forwardedFor = some a) (htrim : Text.trim a = "") :
        (s.made id).forwardedFor = Credentials.defaultForwardedFor ↔ a = "" := by
      have hsame := getD_nonempty?_trim_eq_iff (t := a)
      rw [htrim, eq_comm, eq_comm (a := "")] at hsame
      rw [made_forwardedFor ha]
      exact hsame
    constructor
    · rintro ⟨-, hpassphrase, haddress⟩
      exact ⟨fun p hp htrim => (made_passphrase_eq_none_iff hp).1 (hpassphrase _ rfl p hp htrim),
        fun a ha htrim => (hforwardedFor ha htrim).1 (haddress _ rfl a ha htrim)⟩
    · rintro ⟨hpassphrase, haddress⟩
      refine ⟨fun _ => hboth, ?_, ?_⟩
      · rintro _ ⟨⟩ p hp htrim
        exact (made_passphrase_eq_none_iff hp).2 (hpassphrase p hp htrim)
      · rintro _ ⟨⟩ a ha htrim
        exact (hforwardedFor ha htrim).2 (haddress a ha htrim)
  · rw [if_neg hboth]
    exact ⟨fun _ h => (hboth h).elim, fun _ => ⟨fun h => (h rfl).elim, nofun, nofun⟩⟩

end CredentialSettings

namespace Config

variable {files : Files} {env : Environment} {path : String} {content : Bytes} {d : Doc}

/-- A configuration in a file has the credentials that stand in the file. -/
theorem Gives.credentials_eq_of_load {c : Config} {s : CredentialSettings} (h : Gives env d s)
    (hcontent : files.readText path = .ok content) (hd : d.StandsIn content)
    (hload : load files env path = .ok c) : c.facilitatorSettings.credentials = some s := by
  rw [load, hcontent] at hload
  dsimp only at hload
  split at hload
  · cases hload
  · next hread =>
    cases hload
    obtain ⟨hread, -⟩ := Reader.ofText_eq_ok.1 hread
    rw [hd.scanFront_eq.1] at hread
    exact h.credentials_eq hread

/-- The facilitator of a configuration always has a client.  Its credentials are the configured
ones, or those of the environment if none are configured. -/
theorem exists_facilitator (c : Config) (env : Environment) : ∃ f, c.facilitator env = .ok f ∧
    f.credentials = c.facilitatorSettings.credentials.elim (Credentials.ofEnvironment env)
      (some ·.credentials) := by
  obtain ⟨url, hurl⟩ : ∃ url, Facilitator.default env = .ok (Facilitator.ofUrl env url) := by
    have hsome : (Http.Url.parse? Facilitator.defaultUrl).isSome = true := by decide +kernel
    obtain ⟨url, hurl⟩ := Option.isSome_iff_exists.1 hsome
    exact ⟨url, by rw [Facilitator.default, Facilitator.ofText, hurl]⟩
  rw [facilitator]
  dsimp only
  cases c.facilitatorSettings.url <;> cases c.facilitatorSettings.credentials
  · rw [hurl]
    exact ⟨_, rfl, rfl⟩
  · rw [hurl]
    exact ⟨_, rfl, rfl⟩
  · exact ⟨_, rfl, rfl⟩
  · exact ⟨_, rfl, rfl⟩

end Config

/-! ## All settings can be given

A text that is written out in a file would be taken for a reference if it looks like one.  So the
file has a reference for each text, and the text is put in a variable. -/

/-- A file that refers to variables for its credentials. -/
def referringFile (hasPassphrase hasForwardedFor : Bool) : Value :=
  .object [("facilitator", .object [("credentials", .object
    ([("apiKey", .string "$K"), ("apiSecret", .string "$S")] ++
      (if hasPassphrase then [("passphrase", .string "$P")] else []) ++
      (if hasForwardedFor then [("forwardedFor", .string "$F")] else [])))])]

theorem isText_referringFile (hasPassphrase hasForwardedFor : Bool) :
    Bytes.IsText (referringFile hasPassphrase hasForwardedFor).toDoc.text := by
  refine Bytes.isText_of_ascii ?_
  revert hasPassphrase hasForwardedFor
  decide +kernel

theorem standsIn_referringFile (hasPassphrase hasForwardedFor : Bool) :
    (referringFile hasPassphrase hasForwardedFor).toDoc.StandsIn
      (referringFile hasPassphrase hasForwardedFor).toDoc.text := by
  refine Doc.standsIn_text ?_
  revert hasPassphrase hasForwardedFor
  decide +kernel

theorem Files.readText_of_isText {files : Files} {path : String} {content : Bytes}
    (h : files path = .ok content) (htext : content.IsText) :
    files.readText path = .ok content := by
  obtain ⟨text, rfl⟩ := htext
  rw [readText, h]
  show (if (Bytes.toString? (Bytes.ofString text)).isSome then pure _ else _) = _
  rw [Bytes.toString?_ofString]
  rfl

namespace CredentialSettings

/-- The variables with fixed names that give these settings. -/
def fixedVariables (s : CredentialSettings) : Environment := fun name =>
  if name = Credentials.keyVariable then some s.key
  else if name = Credentials.secretVariable then some s.secret
  else if name = Credentials.passphraseVariable then s.passphrase
  else if name = Credentials.forwardedForVariable then s.forwardedFor
  else none

theorem setIn_fixedVariables (s : CredentialSettings) : s.SetIn s.fixedVariables :=
  ⟨rfl, rfl, rfl, rfl⟩

/-- The file that refers to these settings, as far as they are there. -/
def file (s : CredentialSettings) : Value :=
  referringFile s.passphrase.isSome s.forwardedFor.isSome

/-- This file is all there is. -/
def files (s : CredentialSettings) : Files := fun _ => .ok s.file.toDoc.text

/-- The variables that it refers to. -/
def referredTo (s : CredentialSettings) : Environment := fun name =>
  if name = "K" then some s.key
  else if name = "S" then some s.secret
  else if name = "P" then s.passphrase
  else if name = "F" then s.forwardedFor
  else none

theorem standsIn_file (s : CredentialSettings) : s.file.toDoc.StandsIn s.file.toDoc.text :=
  standsIn_referringFile _ _

theorem readText_files (s : CredentialSettings) :
    s.files.readText "" = .ok s.file.toDoc.text :=
  Files.readText_of_isText rfl (isText_referringFile _ _)

theorem gives_file (s : CredentialSettings) : Config.Gives s.referredTo s.file.toDoc s := by
  obtain ⟨key, secret, passphrase, forwardedFor⟩ := s
  refine ⟨_, _, _, _, _, lays_object.2 rfl, rfl, lays_object.2 rfl, rfl, lays_object.2 rfl, ?_⟩
  -- What is laid out is known as soon as it is known which of the settings are there.
  cases passphrase <;> cases forwardedFor <;> constructor
  all_goals first
    | exact .absent
    | exact .text rfl (.variable rfl rfl)

theorem exists_read_file (s : CredentialSettings) :
    ∃ c, Config.read s.referredTo .start s.file.toDoc = .ok c := by
  obtain ⟨key, secret, passphrase, forwardedFor⟩ := s
  cases passphrase <;> cases forwardedFor <;> exact ⟨_, rfl⟩

/-- **All settings can be given in a file** that is a configuration. -/
theorem exists_load_files (s : CredentialSettings) :
    ∃ c, Config.load s.files s.referredTo "" = .ok c := by
  obtain ⟨c, hc⟩ := s.exists_read_file
  have hread : (Config.read s.referredTo).ofText s.file.toDoc.text = .ok c :=
    (Reader.ofText_text _ s.standsIn_file.1).trans hc
  refine ⟨c, ?_⟩
  rw [Config.load, readText_files]
  dsimp only
  rw [hread]

end CredentialSettings

/-- **Credentials of a file and of the environment.**  The document in a file gives settings, and so
do the variables that count where none are configured.  Both ways make a client.  Its credentials
are the same just if there is a key and a secret and no blank stands at an end of another setting;
then the settings are honoured, too.  Those of a file are honoured just if there is a key and a
secret, and those of the environment just if a blank one beside a key and a secret is empty.  All
settings can be given in these ways (`CredentialSettings.exists_load_files`,
`CredentialSettings.setIn_fixedVariables`). -/
theorem configured_credentials_agree_iff {files : Files} {env env' : Environment} {path : String}
    {content : Bytes} {d : Doc} {c c' : Config} {s : CredentialSettings}
    (hcontent : files.readText path = .ok content) (hd : d.StandsIn content)
    (hgives : Config.Gives env d s) (hload : Config.load files env path = .ok c)
    (hset : s.SetIn env') (habsent : c'.facilitatorSettings.credentials = none) :
    ∃ f f', c.facilitator env = .ok f ∧ c'.facilitator env' = .ok f' ∧
      (f.credentials = f'.credentials ↔ s.IsPlain) ∧
      (s.IsPlain → s.HonouredBy f.credentials ∧ s.HonouredBy f'.credentials) ∧
      (s.HonouredBy f.credentials ↔ Text.trim s.key ≠ "" ∧ Text.trim s.secret ≠ "") ∧
      (s.HonouredBy f'.credentials ↔ (Text.trim s.key ≠ "" ∧ Text.trim s.secret ≠ "" →
        (∀ p ∈ s.passphrase, Text.trim p = "" → p = "") ∧
          ∀ a ∈ s.forwardedFor, Text.trim a = "" → a = "")) := by
  obtain ⟨f, hf, hcredentials⟩ := c.exists_facilitator env
  obtain ⟨f', hf', hcredentials'⟩ := c'.exists_facilitator env'
  rw [hgives.credentials_eq_of_load hcontent hd hload, Option.elim_some] at hcredentials
  rw [habsent, Option.elim_none] at hcredentials'
  refine ⟨f, f', hf, hf', ?_, ?_, ?_, ?_⟩
  · rw [hcredentials, hcredentials']
    exact hset.agree_iff
  · intro h
    rw [hcredentials, hcredentials', CredentialSettings.honouredBy_credentials_iff,
      hset.honouredBy_iff]
    exact ⟨⟨h.key, h.secret⟩, fun _ => ⟨fun p hp htrim => (h.passphrase p hp).symm.trans htrim,
      fun a ha htrim => (h.forwardedFor a ha).symm.trans htrim⟩⟩
  · rw [hcredentials]
    exact CredentialSettings.honouredBy_credentials_iff
  · rw [hcredentials']
    exact hset.honouredBy_iff

/-- A key, a secret with a blank in front, and an address. -/
def somePlainSettings : CredentialSettings := ⟨"k", " s", none, some "1.2.3.4"⟩

/-- In a file that refers to them they are the same as in the variables. -/
theorem configured_credentials_agree_iff_referring : ∃ c f f',
    Config.load somePlainSettings.files somePlainSettings.referredTo "" = .ok c ∧
      c.facilitator somePlainSettings.referredTo = .ok f ∧
      Config.default.facilitator somePlainSettings.fixedVariables = .ok f' ∧
      f.credentials = f'.credentials ∧ somePlainSettings.HonouredBy f.credentials := by
  obtain ⟨c, hload⟩ := somePlainSettings.exists_load_files
  have habsent : Config.default.facilitatorSettings.credentials = none := rfl
  have hplain : somePlainSettings.IsPlain := by
    refine ⟨by decide, by decide, nofun, ?_⟩
    rintro _ ⟨⟩
    decide
  obtain ⟨f, f', hf, hf', hagree, hhonoured, -⟩ := configured_credentials_agree_iff
    somePlainSettings.readText_files somePlainSettings.standsIn_file somePlainSettings.gives_file
    hload somePlainSettings.setIn_fixedVariables habsent
  exact ⟨c, f, f', hload, hf, hf', hagree.2 hplain, (hhonoured hplain).1⟩

/-- A key of one blank, and a secret. -/
def blankKey : CredentialSettings := ⟨" ", "s", none, none⟩

/-- A file in which they are written out. -/
def blankKeyFile : Files := fun _ => .ok (Bytes.ofString
  "\x7b\"facilitator\":\x7b\"credentials\":\x7b\"apiKey\":\" \",\"apiSecret\":\"s\"\x7d\x7d\x7d")

/-- With a blank key in a file requests are signed all the same, in contrast to one in the
environment. -/
theorem blank_key_enabled : ∃ c f f', Config.load blankKeyFile (fun _ => none) "" = .ok c ∧
    c.facilitatorSettings.credentials = some blankKey ∧ c.facilitator (fun _ => none) = .ok f ∧
    Config.default.facilitator blankKey.fixedVariables = .ok f' ∧
    f.credentials = some ⟨"", "s", none, "127.0.0.1"⟩ ∧ f'.credentials = none ∧
    ¬ blankKey.HonouredBy f.credentials := by
  have hsettings : (Config.load blankKeyFile (fun _ => none) "").toOption.map
      (·.facilitatorSettings.credentials) = some (some blankKey) := by decide +kernel
  obtain ⟨f', hf', hcredentials'⟩ := Config.default.exists_facilitator blankKey.fixedVariables
  cases hload : Config.load blankKeyFile (fun _ => none) "" with
  | error e =>
    rw [hload] at hsettings
    cases hsettings
  | ok c =>
    rw [hload] at hsettings
    have hsettings : c.facilitatorSettings.credentials = some blankKey :=
      Option.some.inj hsettings
    obtain ⟨f, hf, hcredentials⟩ := c.exists_facilitator fun _ => none
    rw [hsettings, Option.elim_some] at hcredentials
    refine ⟨c, f, f', rfl, hsettings, hf, hf', hcredentials, hcredentials', fun h => ?_⟩
    rw [hcredentials] at h
    exact (CredentialSettings.honouredBy_credentials_iff.1 h).1 rfl

end Tollbooth
