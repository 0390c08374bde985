import Tollbooth.Proofs.Chain.Id
import Tollbooth.Proofs.Json.Write
import Tollbooth.Setting
/-!
# References to variables

A setting is a reference `$NAME` or `${NAME}`, where a name consists of ASCII letters, digits and
underscores, or else it is the text itself.  A reference stands for the value of its variable, which
is not looked through again.

Only the name of a bare reference is checked.  Whatever stands between braces is taken for a name,
so a variable is also looked up for some texts that are no references.

The grammar and the recognizer are stated apart.  `RefersTo` has the two forms of a reference with
the names that a variable can have; `LooksUp` has what is taken for one.  Both are relations between
a text and a name, and `LooksUp` is the larger.  So reading follows the grammar except for a text
that is in one of them and not in the other, and there is just one kind of such texts: something
else than a name between braces.

* `RefersTo` — the grammar of references; `LooksUp` — the names that are looked up.
* `reference?_eq_some_iff` — the recognizer finds the names of `LooksUp`.
* `ReadAs` — a setting is read as the grammar has it.
* `references_read_iff` — the texts that are read so are those in which the braces, if there are
  any, hold a name; and how every other text is read.
-/

set_option autoImplicit false

namespace Tollbooth.Setting

open Json

/-! ## The grammar

A text begins with a dollar sign or it is no reference; then there are braces or there are none.
The bare form is checked character by character, and the braced one is only asked not to be
empty. -/

/-- A name of a variable: ASCII letters, digits and underscores. -/
structure IsName (name : String) : Prop where
  nonempty : name ≠ ""
  chars : ∀ c ∈ name.toList,
    'A' ≤ c ∧ c ≤ 'Z' ∨ 'a' ≤ c ∧ c ≤ 'z' ∨ '0' ≤ c ∧ c ≤ '9' ∨ c = '_'

/-- The text is a reference to the variable. -/
inductive RefersTo : String → String → Prop
  | bare {name : String} (isName : IsName name) : RefersTo ("$" ++ name) name
  | braced {name : String} (isName : IsName name) : RefersTo ("$\x7b" ++ name ++ "\x7d") name

/-- The variable is looked up for the text.  Between braces it may have any name. -/
inductive LooksUp : String → String → Prop
  | bare {name : String} (isName : IsName name) : LooksUp ("$" ++ name) name
  | braced {name : String} (nonempty : name ≠ "") : LooksUp ("$\x7b" ++ name ++ "\x7d") name

variable {s name : String}

theorem isNameChar_iff {c : Char} : isNameChar c = true ↔
    'A' ≤ c ∧ c ≤ 'Z' ∨ 'a' ≤ c ∧ c ≤ 'z' ∨ '0' ≤ c ∧ c ≤ '9' ∨ c = '_' := by
  have hupper : c.isUpper = true ↔ 'A' ≤ c ∧ c ≤ 'Z' := decide_eq_true_iff
  have hlower : c.isLower = true ↔ 'a' ≤ c ∧ c ≤ 'z' := by
    show (decide ('a' ≤ c) && decide (c ≤ 'z')) = true ↔ _
    rw [Bool.and_eq_true, decide_eq_true_eq, decide_eq_true_eq]
  have hdigit : c.isDigit = true ↔ '0' ≤ c ∧ c ≤ '9' := by
    show (decide ('0' ≤ c) && decide (c ≤ '9')) = true ↔ _
    rw [Bool.and_eq_true, decide_eq_true_eq, decide_eq_true_eq]
  show (c.isUpper || c.isLower || c.isDigit || c == '_') = true ↔ _
  rw [Bool.or_eq_true, Bool.or_eq_true, Bool.or_eq_true, hupper, hlower, hdigit, beq_iff_eq,
    or_assoc, or_assoc]

theorem isName_iff : IsName name ↔ name ≠ "" ∧ name.toList.all isNameChar = true := by
  rw [List.all_eq_true]
  constructor
  · rintro ⟨hne, hchars⟩
    exact ⟨hne, fun c hc => isNameChar_iff.2 (hchars c hc)⟩
  · rintro ⟨hne, hchars⟩
    exact ⟨hne, fun c hc => isNameChar_iff.1 (hchars c hc)⟩

theorem IsName.not_mem {c : Char} (h : IsName name) (hc : isNameChar c = false) :
    c ∉ name.toList := by
  intro hmem
  exact absurd (isNameChar_iff.2 (h.chars c hmem)) (by simp [hc])

/-- What is recognised is looked up. -/
theorem looksUp_of_reference? (h : reference? s = some name) : LooksUp s name := by
  rw [reference?] at h
  split at h
  · next rest hs =>
    split at h
    · next c name hrest =>
      cases h
      have hinner : rest = (c :: name).reverse ++ ['\x7d'] := by
        rw [← List.reverse_cons, ← hrest, List.reverse_reverse]
      have heq : s = "$\x7b" ++ .ofList (c :: name).reverse ++ "\x7d" := by
        simp [← String.toList_inj, hs, hinner]
      exact heq ▸ .braced (by simp)
    · cases h
  · next c name _ hs =>
    split at h
    · next hall =>
      cases h
      have heq : s = "$" ++ .ofList (c :: name) := by simp [← String.toList_inj, hs]
      exact heq ▸ .bare (isName_iff.2 ⟨by simp, by simpa using hall⟩)
    · cases h
  · cases h

/-- **What is looked up for a text.** -/
theorem reference?_eq_some_iff : reference? s = some name ↔ LooksUp s name := by
  refine ⟨looksUp_of_reference?, ?_⟩
  rintro (hname | hne)
  · obtain ⟨hne, hall⟩ := isName_iff.1 hname
    obtain ⟨c, rest, hrest⟩ := List.exists_cons_of_ne_nil (String.toList_eq_nil_iff.not.2 hne)
    have hlist : ("$" ++ name).toList = '$' :: c :: rest := by simp [hrest]
    rw [hrest] at hall
    rw [reference?, hlist]
    split
    · next h =>
      -- The name has no brace at its front, so the text is taken for a bare reference.
      cases h
      have hbrace : isNameChar '\x7b' = false := by decide
      exact absurd (hrest ▸ List.mem_cons_self) (hname.not_mem hbrace)
    · next h =>
      cases h
      rw [if_pos hall, ← hrest, String.ofList_toList]
    · next h => exact absurd rfl (h c rest)
  · obtain ⟨c, rest, hrest⟩ := List.exists_cons_of_ne_nil
      (List.reverse_eq_nil_iff.not.2 (String.toList_eq_nil_iff.not.2 hne))
    have hlist : ("$\x7b" ++ name ++ "\x7d").toList =
        '$' :: '\x7b' :: (name.toList ++ ['\x7d']) := by
      simp
    have hinner : (name.toList ++ ['\x7d']).reverse = '\x7d' :: c :: rest := by simp [hrest]
    rw [reference?, hlist]
    simp only [hinner]
    rw [← hrest, List.reverse_reverse, String.ofList_toList]

/-- At most one variable is looked up. -/
theorem LooksUp.unique {other : String} (h : LooksUp s name) (hother : LooksUp s other) :
    name = other := by
  have heq := (reference?_eq_some_iff.2 h).symm.trans (reference?_eq_some_iff.2 hother)
  exact Option.some.inj heq

/-- Of the variables that are looked up, those with the name of a variable are referred to. -/
theorem refersTo_iff : RefersTo s name ↔ LooksUp s name ∧ IsName name := by
  constructor
  · rintro (h | h)
    · exact ⟨.bare h, h⟩
    · exact ⟨.braced h.nonempty, h⟩
  · rintro ⟨_ | _, hname⟩
    · exact .bare hname
    · exact .braced hname

/-! ## What a text is read as

Reading is the same for all types of settings: first the text is replaced by what it stands for, and
then that is parsed.  So a statement about reading is one about the replacement, for every way to
parse. -/

/-- What is said of a reference to a variable that is not there. -/
def unset (name s : String) : Fault :=
  .refused ("Environment variable '" ++ name ++ "' not found (referenced as '" ++ s ++ "')")

variable {α : Type} {env : Environment} {parse : String → Except Fault α} {site : Site} {d : Doc}

/-- A document that holds a text is read as what the text stands for. -/
theorem read_of_readString (h : readString site d = .ok s) :
    read env parse site d = expand env s >>= parse := by
  rw [read, readText, h]
  rfl

/-- What is read of a text for which a variable is looked up. -/
theorem read_of_looksUp (h : readString site d = .ok s) (hlooks : LooksUp s name) :
    read env parse site d =
      match env.get? name with
      | some value => parse value
      | none => .error (unset name s) := by
  rw [read_of_readString h, expand, reference?_eq_some_iff.2 hlooks]
  cases hvalue : env.get? name with
  | none => simp only [hvalue]; rfl
  | some value => simp only [hvalue]; rfl

/-- A text for which nothing is looked up is its own value, whatever the environment. -/
theorem read_of_not_looksUp (h : readString site d = .ok s) (hnone : ∀ name, ¬ LooksUp s name) :
    read env parse site d = parse s := by
  have href : reference? s = none := by
    rw [Option.eq_none_iff_forall_ne_some]
    exact fun name hname => hnone name (reference?_eq_some_iff.1 hname)
  rw [read_of_readString h, expand, href]
  rfl

/-- A variable with a name of letters, digits and underscores is found as it was set. -/
theorem get?_of_isName (h : IsName name) : env.get? name = env name := by
  rw [Environment.get?, Text.splitFirst_of_not_mem (h.not_mem (by decide))]

theorem get?_of_empty : Environment.get? (fun _ => none) name = none := by
  rw [Environment.get?]
  split <;> rfl

/-- The text is read as the grammar of references has it. -/
structure ReadAs (env : Environment) (parse : String → Except Fault α) (s : String)
    (result : Except Fault α) : Prop where
  /-- A reference stands for the value of its variable, which is parsed as it is. -/
  found {name value : String} : RefersTo s name → env name = some value → result = parse value
  /-- A reference to a variable that is not there is refused. -/
  unset {name : String} : RefersTo s name → env name = none → result = .error (unset name s)
  /-- Any other text is its own value. -/
  literal : (∀ name, ¬ RefersTo s name) → result = parse s

/-- **Reading references.**  A text is read as the grammar has it, in every environment and for every
type of setting, just if what stands between its braces is a name, should it have the form of a
braced reference.  Every text is read as the value of the variable that is looked up for it, or else
as itself. -/
theorem references_read_iff (s : String) :
    ((∀ (α : Type) (env : Environment) (parse : String → Except Fault α) (site : Site) (d : Doc),
        readString site d = .ok s → ReadAs env parse s (read env parse site d)) ↔
      ∀ name, name ≠ "" → s = "$\x7b" ++ name ++ "\x7d" → IsName name) ∧
    ∀ (α : Type) (env : Environment) (parse : String → Except Fault α) (site : Site) (d : Doc),
      readString site d = .ok s →
        (∀ name, LooksUp s name →
          read env parse site d =
            match env.get? name with
            | some value => parse value
            | none => .error (unset name s)) ∧
        ((∀ name, ¬ LooksUp s name) → read env parse site d = parse s) := by
  refine ⟨⟨?_, ?_⟩, fun α env parse site d h =>
    ⟨fun name => read_of_looksUp h, read_of_not_looksUp h⟩⟩
  · rintro hread name hne rfl
    by_contra hname
    -- Nothing is set, and the text is refused though it refers to nothing.
    have hlooks : LooksUp ("$\x7b" ++ name ++ "\x7d") name := .braced hne
    have hplain : ∀ other, ¬ RefersTo ("$\x7b" ++ name ++ "\x7d") other := by
      intro other hother
      obtain ⟨hlooks', hother⟩ := refersTo_iff.1 hother
      exact hname (hlooks.unique hlooks' ▸ hother)
    have hdoc := readString_ofString .start ("$\x7b" ++ name ++ "\x7d")
    have hliteral := (hread String (fun _ => none) text .start _ hdoc).literal hplain
    rw [read_of_looksUp hdoc hlooks, get?_of_empty] at hliteral
    cases hliteral
  · intro hnames α env parse site d h
    have hrefers : ∀ name, LooksUp s name → RefersTo s name := by
      rintro name (hname | hne)
      · exact .bare hname
      · exact .braced (hnames name hne rfl)
    refine ⟨?_, ?_, ?_⟩
    · intro name value hname hvalue
      obtain ⟨hlooks, hname⟩ := refersTo_iff.1 hname
      rw [read_of_looksUp h hlooks, get?_of_isName hname, hvalue]
    · intro name hname hvalue
      obtain ⟨hlooks, hname⟩ := refersTo_iff.1 hname
      rw [read_of_looksUp h hlooks, get?_of_isName hname, hvalue]
    · intro hplain
      exact read_of_not_looksUp h fun name hlooks => hplain name (hrefers name hlooks)

/-- The value of a variable is not looked through again. -/
theorem references_read_iff_once :
    readString .start (.ofString "$\x7bX\x7d") = .ok "$\x7bX\x7d" ∧
      read (fun name => if name = "X" then some "$Y" else some "z") text .start
        (.ofString "$\x7bX\x7d") = .ok "$Y" := by
  have hdoc := readString_ofString .start "$\x7bX\x7d"
  have hX : IsName "X" := isName_iff.2 (by decide)
  have hnames : ∀ name, name ≠ "" → "$\x7bX\x7d" = "$\x7b" ++ name ++ "\x7d" → IsName name := by
    intro name hne heq
    have hlooks : LooksUp "$\x7bX\x7d" name := heq ▸ .braced hne
    exact (LooksUp.braced hX.nonempty).unique hlooks ▸ hX
  have hread := (references_read_iff "$\x7bX\x7d").1.2 hnames String
    (fun name => if name = "X" then some "$Y" else some "z") text .start _ hdoc
  exact ⟨hdoc, hread.found (.braced hX) rfl⟩

/-- Not every text is read as the grammar has it: a dash between the braces is let pass. -/
theorem dashed_reference_looked_up :
    ¬ ∀ (s : String) (α : Type) (env : Environment) (parse : String → Except Fault α) (site : Site)
        (d : Doc), readString site d = .ok s → ReadAs env parse s (read env parse site d) := by
  intro hread
  have hlooks : LooksUp ("$\x7b" ++ "not-a-var" ++ "\x7d") "not-a-var" := .braced (by decide)
  have hplain : ∀ name, ¬ RefersTo ("$\x7b" ++ "not-a-var" ++ "\x7d") name := by
    intro name hname
    obtain ⟨hlooks', hname⟩ := refersTo_iff.1 hname
    obtain rfl := hlooks.unique hlooks'
    exact hname.not_mem (by decide : isNameChar '-' = false) (by decide)
  have hdoc := readString_ofString .start ("$\x7b" ++ "not-a-var" ++ "\x7d")
  have hliteral := (hread _ _ (fun name => if name = "not-a-var" then some "dash" else none) text
    .start _ hdoc).literal hplain
  rw [read_of_looksUp hdoc hlooks] at hliteral
  revert hliteral
  decide

end Tollbooth.Setting
