import Tollbooth.Proofs.Chain.Network
import Tollbooth.Proofs.Config.Read
import Tollbooth.Proofs.Exact.Resolver
import Tollbooth.Proofs.Json.Container
import Tollbooth.Proofs.Text.Utf8
/-!
# The resolver of a configuration

A configuration names networks: those that separators are pinned on, and those that have an
endpoint.  One network may be named in several ways, and a later name takes the place of an earlier
one.  The first name that denotes no chain with a number is what is wrong with a configuration.

Both pins and endpoints are gone through in order, and each item is put in under the chain that its
network denotes.  The two loops do not differ in anything that matters for what is found in the end,
so the lemmas are stated for both, with the function that puts an item in as a parameter: the first
name without a chain is what the loop fails with, and otherwise the last item for a chain is what is
found under it.

In which order endpoints are gone through is decided by the file, or so it seems; they are read as a
map, and come in the order of their names, which for texts is the order of their bytes.

* `Config.FirstUnusable` — which name that is, and what is said of it.
* `Latest` — the last of some items that is for something.
* `Config.Knows` — what a resolver knows of pins and endpoints.
* `configured_resolver` — when there is a resolver, and what it knows.
-/

set_option autoImplicit false

namespace Tollbooth

/-! ## The last of some items

A relation and not a function, because whether an item is for something is a proposition.  The rest
of a list tells the last item in it, so that items are put in front one by one. -/

/-- What the last of some items that is for something gives, or what there is if none is for it. -/
inductive Latest {α β : Type} (isFor : α → Prop) (value : α → β) (otherwise : Option β)
    (items : List α) : Option β → Prop
  | found {before after : List α} {x : α} (split : items = before ++ x :: after) (here : isFor x)
      (last : ∀ y ∈ after, ¬ isFor y) : Latest isFor value otherwise items (some (value x))
  | absent (never : ∀ x ∈ items, ¬ isFor x) : Latest isFor value otherwise items otherwise

section Latest

variable {α β : Type} {isFor : α → Prop} {value : α → β} {otherwise result : Option β} {x : α}
  {items : List α}

/-- An item in front of others counts if it is for it and none of them is. -/
theorem Latest.cons_of_isFor (hx : isFor x)
    (h : Latest isFor value (some (value x)) items result) :
    Latest isFor value otherwise (x :: items) result := by
  cases h with
  | @found before after y hsplit hhere hlast =>
    have hsplit : x :: items = (x :: before) ++ y :: after := by rw [hsplit, List.cons_append]
    exact .found hsplit hhere hlast
  | absent hnever =>
    have hsplit : x :: items = [] ++ x :: items := rfl
    exact .found hsplit hx hnever

theorem Latest.cons_of_not_isFor (hx : ¬ isFor x) (h : Latest isFor value otherwise items result) :
    Latest isFor value otherwise (x :: items) result := by
  cases h with
  | @found before after y hsplit hhere hlast =>
    have hsplit : x :: items = (x :: before) ++ y :: after := by rw [hsplit, List.cons_append]
    exact .found hsplit hhere hlast
  | absent hnever => exact .absent (List.forall_mem_cons.2 ⟨hx, hnever⟩)

end Latest

namespace Config

/-! ## Networks that cannot be used

There are two things that can be wrong with a name: nothing is known under it, or what is known has
no number.  Each name either denotes a chain or has one of these, and never both. -/

/-- Why a name of a network cannot be used. -/
inductive Unusable (s : String) : ConfigError → Prop
  | unknown (unresolved : ChainId.resolve? s = none) : Unusable s (.unknownNetwork s)
  | foreign {id : ChainId} (resolved : ChainId.resolve? s = some id)
      (undenoted : ∀ n : ChainNumber, ¬ n.DenotedBy s) : Unusable s (.foreignNetwork s)

/-- What is wrong with the first name that cannot be used. -/
inductive FirstUnusable : List String → ConfigError → Prop
  | here {s : String} {rest : List String} {e : ConfigError} (unusable : Unusable s e) :
      FirstUnusable (s :: rest) e
  | later {s : String} {rest : List String} {e : ConfigError} {n : ChainNumber}
      (denoted : n.DenotedBy s) (later : FirstUnusable rest e) : FirstUnusable (s :: rest) e

/-- The networks that a configuration names: those of its pins, then those of its endpoints. -/
def networks (c : Config) : List String := c.pinned.map (·.network) ++ c.rpc.map (·.1)

section Networks

variable {s : String} {ss ts : List String} {n : ChainNumber} {e : ConfigError}

theorem chain_eq_ok_iff : chain s = .ok n ↔ n.DenotedBy s := by
  rw [← ChainNumber.exists_resolve?_iff, chain]
  constructor
  · intro h
    split at h
    · cases h
    · next id hid =>
      split at h
      · next hn =>
        cases h
        exact ⟨id, hid, hn⟩
      · cases h
  · rintro ⟨id, hid, hn⟩
    rw [hid]
    dsimp only
    rw [hn]

theorem chain_eq_error_iff : chain s = .error e ↔ Unusable s e := by
  have hok (n : ChainNumber) : chain s = .ok n ↔ n.DenotedBy s := chain_eq_ok_iff
  cases hid : ChainId.resolve? s with
  | none =>
    have hchain : chain s = .error (.unknownNetwork s) := by rw [chain, hid]
    rw [hchain]
    constructor
    · rintro ⟨⟩
      exact .unknown hid
    · rintro (_ | ⟨hresolved, -⟩)
      · rfl
      · cases hid.symm.trans hresolved
  | some id =>
    cases hn : ChainNumber.ofChainId id with
    | error fault =>
      have hchain : chain s = .error (.foreignNetwork s) := by
        rw [chain, hid]
        dsimp only
        rw [hn]
      rw [hchain] at hok ⊢
      constructor
      · rintro ⟨⟩
        exact .foreign hid fun n hdenoted => by cases (hok n).2 hdenoted
      · rintro (hunresolved | _)
        · cases hid.symm.trans hunresolved
        · rfl
    | ok n =>
      have hdenoted : n.DenotedBy s := ChainNumber.exists_resolve?_iff.1 ⟨id, hid, hn⟩
      rw [(hok n).2 hdenoted]
      constructor
      · nofun
      · rintro (hunresolved | ⟨-, hundenoted⟩)
        · cases hid.symm.trans hunresolved
        · exact (hundenoted n hdenoted).elim

/-- A name denotes a chain, or there is something wrong with it. -/
theorem denotedBy_or_unusable (s : String) :
    (∃ n : ChainNumber, n.DenotedBy s) ∨ ∃ e, Unusable s e := by
  cases h : chain s with
  | ok n => exact .inl ⟨n, chain_eq_ok_iff.1 h⟩
  | error e => exact .inr ⟨e, chain_eq_error_iff.1 h⟩

theorem Unusable.not_denotedBy (h : Unusable s e) (n : ChainNumber) : ¬ n.DenotedBy s := fun hn =>
  by cases (chain_eq_error_iff.2 h).symm.trans (chain_eq_ok_iff.2 hn)

/-- Of names put behind others the first that cannot be used counts if all the others can be. -/
theorem firstUnusable_append_iff : FirstUnusable (ss ++ ts) e ↔
    FirstUnusable ss e ∨ (∀ s ∈ ss, ∃ n : ChainNumber, n.DenotedBy s) ∧ FirstUnusable ts e := by
  induction ss with
  | nil =>
    constructor
    · exact fun h => .inr ⟨nofun, h⟩
    · rintro (h | ⟨-, h⟩)
      · cases h
      · exact h
  | cons s ss ih =>
    constructor
    · rintro (hs | ⟨hn, h⟩)
      · exact .inl (.here hs)
      · obtain hss | ⟨hss, hts⟩ := ih.1 h
        · exact .inl (.later hn hss)
        · exact .inr ⟨List.forall_mem_cons.2 ⟨⟨_, hn⟩, hss⟩, hts⟩
    · rintro ((hs | ⟨hn, h⟩) | ⟨hss, hts⟩)
      · exact .here hs
      · exact .later hn (ih.2 (.inl h))
      · obtain ⟨⟨n, hn⟩, hss⟩ := List.forall_mem_cons.1 hss
        exact .later hn (ih.2 (.inr ⟨hss, hts⟩))

/-- **Something is wrong just if a name denotes no chain.** -/
theorem exists_firstUnusable_iff :
    (∃ e, FirstUnusable ss e) ↔ ∃ s ∈ ss, ∀ n : ChainNumber, ¬ n.DenotedBy s := by
  induction ss with
  | nil => exact ⟨nofun, nofun⟩
  | cons s ss ih =>
    rw [List.exists_mem_cons_iff, ← ih]
    constructor
    · rintro ⟨e, hs | ⟨-, h⟩⟩
      · exact .inl hs.not_denotedBy
      · exact .inr ⟨e, h⟩
    · intro h
      obtain ⟨n, hn⟩ | ⟨e, he⟩ := denotedBy_or_unusable s
      · obtain hno | ⟨e, h⟩ := h
        · exact (hno n hn).elim
        · exact ⟨e, .later hn h⟩
      · exact ⟨e, .here he⟩

/-- Nothing is wrong with names that all denote a chain. -/
theorem forall_denotedBy_iff :
    (∀ s ∈ ss, ∃ n : ChainNumber, n.DenotedBy s) ↔ ∀ e, ¬ FirstUnusable ss e := by
  rw [← not_exists, exists_firstUnusable_iff]
  push Not
  rfl

end Networks

/-! ## Going through what is configured

The induction is on the items.  What is found under a key after the first item is the start for the
others. -/

section Fold

variable {α β σ : Type} {network : α → String} {put : σ → ChainNumber → α → σ} {items : List α}
  {start final : σ} {e : ConfigError}

/-- What is wrong with the first name is why items cannot be gone through. -/
theorem foldlM_chain_eq_error_iff :
    items.foldlM (fun acc x => do return put acc (← chain (network x)) x) start = .error e ↔
      FirstUnusable (items.map network) e := by
  induction items generalizing start with
  | nil => exact ⟨nofun, nofun⟩
  | cons x items ih =>
    rw [List.foldlM_cons, bind_eq_error, bind_eq_error, List.map_cons]
    constructor
    · rintro ((hchain | ⟨n, -, ⟨⟩⟩) | ⟨acc, hacc, h⟩)
      · exact .here (chain_eq_error_iff.1 hchain)
      · obtain ⟨n, hn, -⟩ := bind_eq_ok.1 hacc
        exact .later (chain_eq_ok_iff.1 hn) (ih.1 h)
    · rintro (hs | ⟨hn, h⟩)
      · exact .inl (.inl (chain_eq_error_iff.2 hs))
      · exact .inr ⟨_, bind_eq_ok.2 ⟨_, chain_eq_ok_iff.2 hn, rfl⟩, ih.2 h⟩

/-- **The last item that is for something is what is found in the end**, if each one is found that
is put in, in the place of what was there. -/
theorem latest_of_foldlM_chain (get? : σ → Option β) {isFor : α → Prop} {value : α → β}
    (hhere : ∀ acc n x, n.DenotedBy (network x) → isFor x → get? (put acc n x) = some (value x))
    (hother : ∀ acc n x, n.DenotedBy (network x) → ¬ isFor x → get? (put acc n x) = get? acc)
    (h : items.foldlM (fun acc x => do return put acc (← chain (network x)) x) start = .ok final) :
    Latest isFor value (get? start) items (get? final) := by
  induction items generalizing start with
  | nil =>
    cases h
    exact .absent nofun
  | cons x items ih =>
    rw [List.foldlM_cons] at h
    obtain ⟨acc, hacc, h⟩ := bind_eq_ok.1 h
    obtain ⟨n, hn, hacc⟩ := bind_eq_ok.1 hacc
    cases hacc
    have hrest := ih h
    rw [chain_eq_ok_iff] at hn
    by_cases hx : isFor x
    · rw [hhere start n x hn hx] at hrest
      exact hrest.cons_of_isFor hx
    · rw [hother start n x hn hx] at hrest
      exact hrest.cons_of_not_isFor hx

end Fold

/-! ## What a resolver knows

Pins begin with those that are built in, and endpoints with none.  If there is something wrong with
both a pin and an endpoint it is the pin that counts, for the pins are gone through first. -/

end Config

/-- The setting pins a separator for this token: its network denotes the chain, however it is
written. -/
def PinSetting.IsFor (p : PinSetting) (key : PinKey) : Prop :=
  key.chain.DenotedBy p.network ∧ p.asset = key.asset

namespace Config

/-- What a resolver knows that is made of a configuration: the last separator that is pinned for a
token in place of one that is built in, and the last endpoint of a chain. -/
structure Knows (c : Config) (r : DomainResolver) : Prop where
  pin : ∀ key, Latest (·.IsFor key) (·.separator) (Pins.defaults.get? key) c.pinned
    (r.pins.get? key)
  reader : ∀ n : ChainNumber, Latest (n.DenotedBy ·.1) (Rpc.reader ·.2) none c.rpc
    (r.readers.get? n)

variable {c : Config} {e : ConfigError}

theorem pins_eq_error_iff : c.pins = .error e ↔ FirstUnusable (c.pinned.map (·.network)) e :=
  foldlM_chain_eq_error_iff

theorem readers_eq_error_iff : c.readers = .error e ↔ FirstUnusable (c.rpc.map (·.1)) e :=
  foldlM_chain_eq_error_iff

theorem latest_pin {pins : Pins} (h : c.pins = .ok pins) (key : PinKey) :
    Latest (·.IsFor key) (·.separator) (Pins.defaults.get? key) c.pinned (pins.get? key) := by
  refine latest_of_foldlM_chain (·.get? key) (fun pins n p hn hp => ?_)
    (fun pins n p hn hp => ?_) h
  · obtain ⟨hchain, hasset⟩ := hp
    obtain rfl := hchain.unique hn
    rw [Pins.get?_pin, if_pos (hasset ▸ rfl)]
  · rw [Pins.get?_pin, if_neg]
    rintro rfl
    exact hp ⟨hn, rfl⟩

theorem latest_reader {readers : ChainReaders} (h : c.readers = .ok readers) (n : ChainNumber) :
    Latest (n.DenotedBy ·.1) (Rpc.reader ·.2) none c.rpc (readers.get? n) := by
  refine latest_of_foldlM_chain (·.get? n) (fun readers m x hm hx => ?_)
    (fun readers m x hm hx => ?_) h
  · rw [ChainReaders.get?_insert, if_pos (hx.unique hm)]
  · rw [ChainReaders.get?_insert, if_neg]
    rintro rfl
    exact hx hm

/-- There is no resolver just if a name cannot be used. -/
theorem resolver_eq_error_iff : c.resolver = .error e ↔ FirstUnusable c.networks e := by
  rw [networks, firstUnusable_append_iff, forall_denotedBy_iff, resolver, bind_eq_error]
  simp only [← pins_eq_error_iff, ← readers_eq_error_iff]
  constructor
  · rintro (h | ⟨pins, hpins, h⟩)
    · exact .inl h
    · obtain h | ⟨readers, -, ⟨⟩⟩ := bind_eq_error.1 h
      exact .inr ⟨fun e he => (by cases hpins.symm.trans he), h⟩
  · rintro (h | ⟨hpins, h⟩)
    · exact .inl h
    · cases hp : c.pins with
      | error e => exact (hpins e hp).elim
      | ok pins => exact .inr ⟨pins, rfl, bind_eq_error.2 (.inl h)⟩

theorem knows_of_resolver {r : DomainResolver} (h : c.resolver = .ok r) : c.Knows r := by
  obtain ⟨pins, hpins, h⟩ := bind_eq_ok.1 h
  obtain ⟨readers, hreaders, h⟩ := bind_eq_ok.1 h
  cases h
  exact ⟨latest_pin hpins, latest_reader hreaders⟩

/-! ## The order of the endpoints

The order of a map is that of texts, and texts are in the order of their bytes
(`Bytes.ofString_lt_ofString`). -/

variable {files : Files} {env : Environment} {path : String}

/-- The endpoints of a configuration that is read are in the order of their names. -/
theorem pairwise_of_read {site : Json.Site} {d : Json.Doc} (h : read env site d = .ok c) :
    (c.rpc.map (·.1)).Pairwise (· < ·) := by
  obtain ⟨record, -, -, hrpc, -⟩ := get_of_read h
  rw [Json.Record.get] at hrpc
  split at hrpc
  · exact Json.pairwise_of_readMap hrpc
  · rw [← Except.ok.inj hrpc]
    exact .nil

/-- **The endpoints of a configuration are in the order of the bytes of their names.** -/
theorem pairwise_of_loadOrDefault (h : loadOrDefault files env path = .ok c) :
    (c.rpc.map (Bytes.ofString ·.1)).Pairwise (· < ·) := by
  have hnames : (c.rpc.map (·.1)).Pairwise (· < ·) := by
    rw [loadOrDefault] at h
    split at h
    · cases h
      exact .nil
    · rw [load] at h
      split at h
      · cases h
      · split at h
        · cases h
        · next hread =>
          cases h
          exact pairwise_of_read (Json.Reader.ofText_eq_ok.1 hread).1
  rw [← Function.comp_def Bytes.ofString, ← List.map_map, List.pairwise_map]
  exact hnames.imp Bytes.ofString_lt_ofString

end Config

/-- **The resolver of a configuration.**  Its endpoints are in the order of the bytes of the
networks' names.  There is no resolver just if a network denotes no chain with a number, and then
the error names the first such network.  Otherwise the resolver knows of every token the last
separator that is pinned for it, or the one that is built in, and of every chain the last
endpoint. -/
theorem configured_resolver {files : Files} {env : Environment} {path : String} {c : Config}
    (h : Config.loadOrDefault files env path = .ok c) :
    (c.rpc.map (Bytes.ofString ·.1)).Pairwise (· < ·) ∧
      ((∃ e, c.resolver = .error e) ↔ ∃ s ∈ c.networks, ∀ n : ChainNumber, ¬ n.DenotedBy s) ∧
      (∀ e, c.resolver = .error e ↔ Config.FirstUnusable c.networks e) ∧
      ∀ r, c.resolver = .ok r → c.Knows r := by
  refine ⟨Config.pairwise_of_loadOrDefault h, ?_, fun e => Config.resolver_eq_error_iff,
    fun r => Config.knows_of_resolver⟩
  simp only [Config.resolver_eq_error_iff]
  exact Config.exists_firstUnusable_iff

/-- The chain 8453 has an endpoint under its number and another one under its name. -/
def twiceNamed : Files := fun _ => .ok (Bytes.ofString
  "\x7b\"rpc\":\x7b\"eip155:8453\":\"http://b\",\"base\":\"http://a\"\x7d\x7d")

/-- A chain may be named twice; the names come in the order of their bytes. -/
theorem configured_resolver_twiceNamed : ∃ c r,
    Config.loadOrDefault twiceNamed (fun _ => none) "" = .ok c ∧
      c.networks = ["base", "eip155:8453"] ∧ c.resolver = .ok r ∧ c.Knows r := by
  have hnetworks : (Config.loadOrDefault twiceNamed (fun _ => none) "").toOption.map
      Config.networks = some ["base", "eip155:8453"] := by decide +kernel
  have hchains : (["base", "eip155:8453"].all fun s => (Config.chain s).isOk) = true := by
    decide +kernel
  cases hc : Config.loadOrDefault twiceNamed (fun _ => none) "" with
  | error e =>
    rw [hc] at hnetworks
    cases hnetworks
  | ok c =>
    rw [hc] at hnetworks
    have hnetworks : c.networks = ["base", "eip155:8453"] := Option.some.inj hnetworks
    obtain ⟨-, hfails, -, hknows⟩ := configured_resolver hc
    cases hr : c.resolver with
    | ok r => exact ⟨c, r, rfl, hnetworks, hr, hknows r hr⟩
    | error e =>
      obtain ⟨s, hs, hno⟩ := hfails.1 ⟨e, hr⟩
      rw [hnetworks] at hs
      have hok := List.all_eq_true.1 hchains s hs
      cases hchain : Config.chain s with
      | ok n => exact (hno n (Config.chain_eq_ok_iff.1 hchain)).elim
      | error e =>
        rw [hchain] at hok
        cases hok

end Tollbooth
