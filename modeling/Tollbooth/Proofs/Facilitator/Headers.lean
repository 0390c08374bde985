import Tollbooth.Facilitator.Request
import Tollbooth.Proofs.Dialogue.Live
import Tollbooth.Proofs.Http.Headers
import Tollbooth.Proofs.Text.Base64
/-!
# The headers of a request to a facilitator

The credentials give headers of their own, and a provider may put others over them.  Only a
credential that is no header value, or the provider, can keep a request from having headers: the
signature and the name of the request are header values whatever they are made from.

The headers are made in two steps, and each of them can fail in its own way.  The first is a
computation without questions and depends on credentials, time and body; the second asks a provider,
which may do anything.  In a run they are told apart by the events, for those of the first step are
none.

* `getAll_overlay` — what a header is when others are put over it.
* `Stamp.isValue_requestId` — the name of a request is a header value.
* `Credentials.headers_eq` — the headers of credentials, or the first that is no header value.
* `Provides` — what a provider adds; `yields_requestHeaders` — how the headers are had.
-/

set_option autoImplicit false

namespace Tollbooth

open Dialogue (Event Live Yields)

/-! ## Extra headers

Extra headers are put in one after the other, and each replaces whatever has its name, be it a
header of the request or an extra one before it.  By induction on the extra headers, the last one of
a name is what is found in the end. -/

/-- **Extra headers take the place of those of their names**; the last one of a name counts. -/
theorem getAll_overlay (headers extra : Http.Headers) (name : String) :
    Http.Headers.getAll (overlay headers extra) name =
      match (Http.Headers.getAll extra name).getLast? with
      | some value => [value]
      | none => headers.getAll name := by
  induction extra generalizing headers with
  | nil => rfl
  | cons field extra ih =>
    obtain ⟨other, value⟩ := field
    have hcons : Http.Headers.getAll ((other, value) :: extra) name =
        (if other = name then [value] else []) ++ Http.Headers.getAll extra name := by
      by_cases h : other = name <;> simp [Http.Headers.getAll, h]
    have hoverlay : overlay headers ((other, value) :: extra) =
        overlay (headers.insert other value) extra := rfl
    rw [hcons, hoverlay, ih, Http.Headers.getAll_insert]
    cases hlast : (Http.Headers.getAll extra name).getLast? with
    | some last =>
      rw [List.getLast?_append, hlast]
      rfl
    | none =>
      rw [List.getLast?_append, hlast]
      by_cases h : other = name
      · subst h
        simp
      · simp [h, Ne.symm h]

/-- Headers that are not among the extra ones stay. -/
theorem getAll_overlay_of_not_mem {headers extra : Http.Headers} {name : String}
    (h : name ∉ extra.map (·.1)) :
    Http.Headers.getAll (overlay headers extra) name = headers.getAll name := by
  have hnone : Http.Headers.getAll extra name = [] := by
    rw [Http.Headers.getAll, List.filter_eq_nil_iff.2, List.map_nil]
    intro field hfield heq
    exact h (List.mem_map.2 ⟨field, hfield, beq_iff_eq.1 heq⟩)
  rw [getAll_overlay, hnone]
  rfl

/-! ## Header values

What is made of bytes by writing digits or base64 consists of visible characters of ASCII, and every
text of these can be the value of a header. -/

/-- A text of visible characters of ASCII is a header value. -/
theorem isValue_ofString {s : String} (h : ∀ c ∈ s.toList, 0x20 ≤ c.toNat ∧ c.toNat < 0x7f) :
    Http.isValue (Bytes.ofString s) = true := by
  rw [Bytes.ofString_eq_flatMap, Http.isValue, List.all_flatMap, List.all_eq_true]
  intro c hc
  obtain ⟨hlow, hhigh⟩ := h c hc
  have hbyte : (UInt8.ofNat c.toNat).toNat = c.toNat := by
    rw [UInt8.toNat_ofNat']
    omega
  have hle : 0x20 ≤ UInt8.ofNat c.toNat := UInt8.le_iff_toNat_le.2 (by rw [hbyte]; exact hlow)
  have hne : UInt8.ofNat c.toNat ≠ 0x7f := by
    intro heq
    have := congrArg UInt8.toNat heq
    rw [hbyte] at this
    exact absurd hhigh (by rw [this]; decide)
  rw [Bytes.utf8EncodeChar_of_ascii (by omega)]
  simp [Http.isValueByte, hle, hne]

theorem isValue_append {s t : String} (hs : Http.isValue (Bytes.ofString s) = true)
    (ht : Http.isValue (Bytes.ofString t) = true) :
    Http.isValue (Bytes.ofString (s ++ t)) = true := by
  rw [Bytes.ofString_append, Http.isValue, List.all_append, Bool.and_eq_true]
  exact ⟨hs, ht⟩

theorem Hex.isVisible_of_mem_encodeChars {bytes : Bytes} {c : Char} (h : c ∈ encodeChars bytes) :
    0x20 ≤ c.toNat ∧ c.toNat < 0x7f := by
  have hdigit : ∀ m : Fin 16, 0x20 ≤ (digit m.val).toNat ∧ (digit m.val).toNat < 0x7f := by decide
  induction bytes with
  | nil => cases h
  | cons b bytes ih =>
    have hb := b.toNat_lt
    rw [encodeChars, List.mem_cons, List.mem_cons] at h
    obtain rfl | rfl | h := h
    · exact hdigit ⟨b.toNat / 16, by omega⟩
    · exact hdigit ⟨b.toNat % 16, by omega⟩
    · exact ih h

/-- **The name of a request is a header value.** -/
theorem Stamp.isValue_requestId (time : Nat) (random : Octets 16) :
    Http.isValue (Bytes.ofString (ofRandom time random).requestId) = true := by
  -- It is five runs of hexadecimal digits with dashes between them.
  have hpart : ∀ (bytes : Bytes) (first count : Nat), Http.isValue (Bytes.ofString
      (.ofList (((Hex.encode bytes).toList.drop first).take count))) = true := by
    intro bytes first count
    refine isValue_ofString fun c hc => ?_
    rw [String.toList_ofList] at hc
    have hmem := List.mem_of_mem_drop (List.mem_of_mem_take hc)
    rw [Hex.encode, String.toList_ofList] at hmem
    exact Hex.isVisible_of_mem_encodeChars hmem
  have hdash : Http.isValue (Bytes.ofString "-") = true := by decide
  exact isValue_append (isValue_append (isValue_append (isValue_append (isValue_append
    (isValue_append (isValue_append (isValue_append (hpart _ 0 8) hdash) (hpart _ 8 4)) hdash)
    (hpart _ 12 4)) hdash) (hpart _ 16 4)) hdash) (hpart _ 20 12)

/-! ## Credentials

Only three of the headers have texts that are not made here, and they are looked at in the order in
which the list `carried` has them.  The first that cannot be a header value is the one that the
error names. -/

theorem headerValue_of_isValue {name value : String}
    (h : Http.isValue (Bytes.ofString value) = true) :
    headerValue name value = .ok (Bytes.ofString value) :=
  if_pos h

theorem headerValue_of_not_isValue {name value : String}
    (h : Http.isValue (Bytes.ofString value) = false) :
    headerValue name value = .error (.invalidHeader name) :=
  if_neg (by simp [h])

namespace Credentials

/-- What is sent of the credentials as it is, with the names of the headers that carry it, in the
order in which it is looked at. -/
def carried (c : Credentials) : List (String × String) :=
  ("X-Api-Key", c.key) :: ((c.passphrase.map ("X-Passphrase", ·)).toList ++
    [("X-Forwarded-For", c.forwardedFor)])

/-- The name of the first header whose credential is no header value. -/
def illegal? (c : Credentials) : Option String :=
  (c.carried.find? fun field => !Http.isValue (Bytes.ofString field.2)).map (·.1)

/-- The headers of a request that is signed with the credentials. -/
def signed (c : Credentials) (action : Action) (stamp : Stamp) (body : Bytes) : Http.Headers :=
  [("x-api-key", Bytes.ofString c.key),
    ("x-timestamp", Bytes.ofString (toString stamp.time)),
    ("x-signature", Bytes.ofString (c.sign stamp.time body))] ++
    (c.passphrase.map fun p => ("x-passphrase", Bytes.ofString p)).toList ++
    [("x-forwarded-for", Bytes.ofString c.forwardedFor),
    ("x-request-id", Bytes.ofString stamp.requestId),
    ("x-target-uri", Bytes.ofString action.targetUri)]

/-- **The headers of credentials**, or the first that is no header value. -/
theorem headers_eq (c : Credentials) (action : Action) {stamp : Stamp} (body : Bytes)
    (hstamp : Http.isValue (Bytes.ofString stamp.requestId) = true) :
    c.headers action stamp body =
      match c.illegal? with
      | some name => .error (.invalidHeader name)
      | none => .ok (c.signed action stamp body) := by
  obtain ⟨key, secret, passphrase, forwardedFor⟩ := c
  have hsignature : headerValue "X-Signature" (sign ⟨key, secret, passphrase, forwardedFor⟩
      stamp.time body) = .ok _ := headerValue_of_isValue (Base64.isValue_encodeString _)
  have hrequestId : headerValue "X-Request-Id" stamp.requestId = .ok _ :=
    headerValue_of_isValue hstamp
  -- The headers are made one after the other, so the first that fails decides.
  cases hkey : Http.isValue (Bytes.ofString key) with
  | false =>
    simp only [illegal?, carried, List.find?_cons, hkey, headers, headerValue_of_not_isValue hkey]
    rfl
  | true =>
    cases passphrase with
    | none =>
      simp only [illegal?, carried, Option.map_none, Option.toList_none, List.nil_append,
        List.find?_cons, hkey, headers, headerValue_of_isValue hkey, hsignature]
      cases hfor : Http.isValue (Bytes.ofString forwardedFor) with
      | false =>
        rw [headerValue_of_not_isValue hfor]
        rfl
      | true =>
        rw [headerValue_of_isValue hfor, hrequestId]
        rfl
    | some p =>
      simp only [illegal?, carried, Option.map_some, Option.toList_some, List.cons_append,
        List.nil_append, List.find?_cons, hkey, headers, headerValue_of_isValue hkey, hsignature,
        Option.mapM_some]
      cases hp : Http.isValue (Bytes.ofString p) with
      | false =>
        rw [headerValue_of_not_isValue hp]
        rfl
      | true =>
        rw [headerValue_of_isValue hp]
        cases hfor : Http.isValue (Bytes.ofString forwardedFor) with
        | false =>
          rw [headerValue_of_not_isValue hfor]
          rfl
        | true =>
          rw [headerValue_of_isValue hfor, hrequestId]
          rfl

end Credentials

/-! ## How the headers are had

A provider is only asked when the credentials have given all their headers, and is asked once. -/

/-- The headers of a request before any are put over them. -/
def ownHeaders (credentials : Option Credentials) (action : Action) (stamp : Stamp)
    (body : Bytes) : Http.Headers :=
  contentHeaders ++ (credentials.map fun c => c.signed action stamp body).getD []

/-- What a provider, if there is one, adds to the headers of an action; it is asked once. -/
inductive Provides (action : Action) : Option HeaderProvider → List Event → Http.Headers → Prop
  | nothing : Provides action none [] []
  | extra {provider : HeaderProvider} {events : List Event} {extra : ExtraHeaders}
      (run : Yields provider events (.ok extra)) :
      Provides action (some provider) events (extra.headersFor action)

/-- All that can come of making the headers of a request. -/
inductive HeaderRun (credentials : Option Credentials) (provider : Option HeaderProvider)
    (action : Action) (stamp : Stamp) (body : Bytes) :
    List Event → Except FacilitatorError Http.Headers → Prop
  /-- A credential is no header value. -/
  | illegal {name : String} (h : credentials.bind Credentials.illegal? = some name) :
      HeaderRun credentials provider action stamp body [] (.error (.invalidHeader name))
  /-- The provider fails. -/
  | failed {p : HeaderProvider} {events : List Event} {reason : String}
      (legal : credentials.bind Credentials.illegal? = none) (hp : provider = some p)
      (run : Yields p events (.error reason)) :
      HeaderRun credentials provider action stamp body events (.error (.noExtraHeaders reason))
  | made {events : List Event} {extra : Http.Headers}
      (legal : credentials.bind Credentials.illegal? = none)
      (provided : Provides action provider events extra) :
      HeaderRun credentials provider action stamp body events
        (.ok (overlay (ownHeaders credentials action stamp body) extra))

variable {credentials : Option Credentials} {provider : Option HeaderProvider} {action : Action}
  {stamp : Stamp} {body : Bytes} {events : List Event}

/-- What is done when the credentials have given their headers. -/
def addExtra (provider : Option HeaderProvider) (action : Action) (headers : Http.Headers) :
    Dialogue (Except FacilitatorError Http.Headers) :=
  match provider with
  | none => return .ok headers
  | some provider => do
    match ← provider with
    | .error reason => return .error (.noExtraHeaders reason)
    | .ok extra => return .ok (overlay headers (extra.headersFor action))

/-- Extra headers that are put over others, unless they are not had. -/
def withExtra (action : Action) (headers : Http.Headers) :
    Except String ExtraHeaders → Except FacilitatorError Http.Headers
  | .error reason => .error (.noExtraHeaders reason)
  | .ok extra => .ok (overlay headers (extra.headersFor action))

theorem addExtra_some (p : HeaderProvider) (headers : Http.Headers) :
    addExtra (some p) action headers = p >>= fun extra => pure (withExtra action headers extra) :=
  congrArg (p >>= ·) (funext fun extra => by cases extra <;> rfl)

theorem requestHeaders_eq (hstamp : Http.isValue (Bytes.ofString stamp.requestId) = true) :
    requestHeaders credentials provider action stamp body =
      match credentials.bind Credentials.illegal? with
      | some name => pure (.error (.invalidHeader name))
      | none => addExtra provider action (ownHeaders credentials action stamp body) := by
  cases credentials with
  | none => rfl
  | some c =>
    rw [requestHeaders]
    simp only [c.headers_eq action body hstamp, Option.bind_some]
    cases c.illegal? <;> rfl

/-- **The headers are had**, or a credential or the provider is to blame. -/
theorem yields_requestHeaders {r : Except FacilitatorError Http.Headers}
    (hstamp : Http.isValue (Bytes.ofString stamp.requestId) = true) :
    Yields (requestHeaders credentials provider action stamp body) events r ↔
      HeaderRun credentials provider action stamp body events r := by
  rw [requestHeaders_eq hstamp]
  cases hlegal : credentials.bind Credentials.illegal? with
  | some name =>
    rw [Dialogue.yields_pure]
    constructor
    · rintro ⟨rfl, rfl⟩
      exact .illegal hlegal
    · intro h
      cases h with
      | illegal h =>
        cases hlegal.symm.trans h
        exact ⟨rfl, rfl⟩
      | failed h | made h => cases hlegal.symm.trans h
  | none =>
    cases provider with
    | none =>
      rw [addExtra, Dialogue.yields_pure]
      constructor
      · rintro ⟨rfl, rfl⟩
        exact .made hlegal .nothing
      · intro h
        cases h with
        | illegal h => cases hlegal.symm.trans h
        | failed _ hp => cases hp
        | made _ provided =>
          cases provided
          exact ⟨rfl, rfl⟩
    | some p =>
      rw [addExtra_some, Dialogue.yields_bind_pure]
      constructor
      · rintro ⟨extra, run, rfl⟩
        cases extra with
        | error reason => exact .failed hlegal rfl run
        | ok extra => exact .made hlegal (.extra run)
      · intro h
        cases h with
        | illegal h => cases hlegal.symm.trans h
        | failed _ hp run =>
          cases hp
          exact ⟨_, run, rfl⟩
        | made _ provided =>
          cases provided with
          | extra run => exact ⟨_, run, rfl⟩

/-- Headers are had, or not, if the provider always answers. -/
theorem live_requestHeaders (hstamp : Http.isValue (Bytes.ofString stamp.requestId) = true)
    (hp : ∀ p, provider = some p → Live p) :
    Live (requestHeaders credentials provider action stamp body) := by
  rw [requestHeaders_eq hstamp]
  split
  · exact Dialogue.live_done _
  · cases provider with
    | none => exact Dialogue.live_done _
    | some p =>
      rw [addExtra_some]
      exact (hp p rfl).bind fun _ => Dialogue.live_done _

end Tollbooth
