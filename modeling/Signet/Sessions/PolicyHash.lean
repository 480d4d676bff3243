import Signet.Lib.JsonText
import Signet.Schemas.SealJson
import Mathlib.Data.List.Perm.Basic
import Mathlib.Data.List.Sort

/-!
# Policy hashes

`sessions/src/policy-hash.ts`: the hash under which `issueCredential` looks for an
active credential with the same policy. The hashed text is the JSON text of the scope
set and the chats, with sorted keys and with every array sorted by the text of its
items.

The canonical text determines the lists up to their order
(`samePolicy_of_canonicalizePolicy`): quoted strings and arrays of them are
self-delimiting, the text between them is fixed, and sorting permutes. So does the hash,
for an injective `Bun.hash` (`samePolicy_of_computePolicyHash`).

`localeCompare` and `Bun.hash` are parameters. Nothing is assumed of the comparison: two
orders of the same lists may even get different hashes, which costs a deduplication and
nothing else.
-/

namespace Signet

open Lib

/-! ### JSON text -/

/-- `JSON.stringify` of a string. -/
def quote (s : String) : List Char :=
  quoteString (ofText s.toList)

/-- The values that are hashed. -/
inductive PolicyValue where
  | string (value : String)
  | array (items : List PolicyValue)
  | record (fields : List (String × PolicyValue))

mutual

/-- `JSON.stringify`. -/
def PolicyValue.stringify : PolicyValue → List Char
  | .string value => quote value
  | .array items => '[' :: ([','].intercalate (stringifyItems items) ++ [']'])
  | .record fields =>
    openBrace :: ([','].intercalate (stringifyFields fields) ++ [closeBrace])

def PolicyValue.stringifyItems : List PolicyValue → List (List Char)
  | [] => []
  | item :: items => item.stringify :: stringifyItems items

def PolicyValue.stringifyFields : List (String × PolicyValue) → List (List Char)
  | [] => []
  | (key, value) :: fields => (quote key ++ ':' :: value.stringify) :: stringifyFields fields

end

/-! ### The hash -/

section Hash

-- `localeCompare` is at most zero, `Bun.hash`
variable (localeLE : List Char → List Char → Bool) (bunHash : String → Nat)

mutual

def PolicyValue.normalize : PolicyValue → PolicyValue
  | .string value => .string value
  | .array items =>
    .array ((normalizeItems items).insertionSort fun left right =>
      localeLE left.stringify right.stringify = true)
  | .record fields =>
    .record ((normalizeFields fields).insertionSort fun left right => left.1 ≤ right.1)

def PolicyValue.normalizeItems : List PolicyValue → List PolicyValue
  | [] => []
  | item :: items => item.normalize :: normalizeItems items

def PolicyValue.normalizeFields : List (String × PolicyValue) → List (String × PolicyValue)
  | [] => []
  | (key, value) :: fields => (key, value.normalize) :: normalizeFields fields

end

/-- `canonicalize`. -/
def canonicalizePolicy (value : PolicyValue) : String :=
  String.ofList (value.normalize localeLE).stringify

/-- An array of strings. -/
def PolicyValue.strings (l : List String) : PolicyValue :=
  .array (l.map .string)

/-- The value `computePolicyHash` canonicalizes. -/
def policyValue (scopes : ScopeSet) (chatIds : List String) : PolicyValue :=
  .record
    [("scopes", .record
      [("allow", .strings (scopes.allow.map (·.name))),
        ("deny", .strings (scopes.deny.map (·.name)))]),
      ("chatIds", .strings chatIds)]

/-- `computePolicyHash`: the hash in base 16. -/
def computePolicyHash (scopes : ScopeSet) (chatIds : List String) : String :=
  String.ofList
    (Nat.toDigits 16 (bunHash (canonicalizePolicy localeLE (policyValue scopes chatIds))))

end Hash

/-! ### Reading the text back -/

/-- Quoted strings are self-delimiting: they are read back behind their opening mark. -/
theorem selfDelimiting_quote : SelfDelimiting quote := by
  have hunits : SelfDelimiting quoteString := by
    refine SelfDelimiting.of_decoder (fun text => readString text.tail) fun s rest => ?_
    show readString ((escapeUnits s ++ [quotation]) ++ rest) = some (s, rest)
    rw [List.append_assoc, List.singleton_append, readString_quote]
  have htext : Function.Injective fun s : String => ofText s.toList := by
    intro s s' heq
    have hback := congrArg toText heq
    dsimp only at hback
    rw [toText_ofText, toText_ofText] at hback
    exact String.toList_injective hback
  exact hunits.comp htext

theorem stringifyItems_map (l : List String) :
    PolicyValue.stringifyItems (l.map .string) = l.map quote := by
  induction l with
  | nil => rw [List.map_nil, List.map_nil, PolicyValue.stringifyItems]
  | cons s l ih =>
    rw [List.map_cons, List.map_cons, PolicyValue.stringifyItems, PolicyValue.stringify, ih]

theorem selfDelimiting_strings :
    SelfDelimiting fun l : List String => (PolicyValue.strings l).stringify := by
  have hstart : SelfDelimiting.NeverStarts quote ']' := by
    intro s x y heq
    exact absurd (List.cons.inj heq).1 (by decide)
  have hne : ',' ≠ ']' := by decide
  have hseq := selfDelimiting_quote.separated hne hstart
  intro l l' x x' heq
  simp only [PolicyValue.strings, PolicyValue.stringify, stringifyItems_map] at heq
  exact hseq l l' x x' (List.cons.inj heq).2

/-! ### What the hash determines -/

section Determined

variable {localeLE : List Char → List Char → Bool} {bunHash : String → Nat}

theorem normalizeItems_map (l : List String) :
    PolicyValue.normalizeItems localeLE (l.map .string) = l.map .string := by
  induction l with
  | nil => rw [List.map_nil, PolicyValue.normalizeItems]
  | cons s l ih => rw [List.map_cons, PolicyValue.normalizeItems, PolicyValue.normalize, ih]

/-- The strings of an array in the order of their texts. -/
def sortedStrings (localeLE : List Char → List Char → Bool) (l : List String) : List String :=
  l.insertionSort fun left right => localeLE (quote left) (quote right) = true

/-- An array of strings is normalized by sorting it. -/
theorem normalize_strings (l : List String) :
    (PolicyValue.strings l).normalize localeLE = .strings (sortedStrings localeLE l) := by
  unfold PolicyValue.strings sortedStrings
  rw [PolicyValue.normalize, normalizeItems_map]
  congr 1
  refine (List.map_insertionSort _ _ PolicyValue.string l fun a _ b _ => ?_).symm
  rw [PolicyValue.stringify, PolicyValue.stringify]

theorem perm_of_sortedStrings {l l' : List String}
    (h : sortedStrings localeLE l = sortedStrings localeLE l') : l.Perm l' := by
  have hl : (sortedStrings localeLE l).Perm l := List.perm_insertionSort _ l
  have hl' : (sortedStrings localeLE l').Perm l' := List.perm_insertionSort _ l'
  rw [h] at hl
  exact hl.symm.trans hl'

/-- A policy is normalized by sorting its keys and its three lists. -/
theorem normalize_policyValue (scopes : ScopeSet) (chatIds : List String) :
    (policyValue scopes chatIds).normalize localeLE =
      .record
        [("chatIds", .strings (sortedStrings localeLE chatIds)),
          ("scopes", .record
            [("allow", .strings (sortedStrings localeLE (scopes.allow.map (·.name)))),
              ("deny", .strings (sortedStrings localeLE (scopes.deny.map (·.name))))])] := by
  have hkeys : ¬ "scopes" ≤ "chatIds" := by decide
  have hlists : "allow" ≤ "deny" := by decide
  simp only [policyValue, PolicyValue.normalize, PolicyValue.normalizeFields, normalize_strings,
    List.insertionSort_cons, List.insertionSort_nil, List.orderedInsert, hkeys, hlists, if_true,
    if_false]

/-- Two policies that list the same scopes and chats, in any order. -/
structure SamePolicy (scopes : ScopeSet) (chatIds : List String) (scopes' : ScopeSet)
    (chatIds' : List String) : Prop where
  allow : scopes.allow.Perm scopes'.allow
  deny : scopes.deny.Perm scopes'.deny
  chatIds : chatIds.Perm chatIds'

/-- **The canonical text determines the policy** up to the order of its lists. -/
theorem samePolicy_of_canonicalizePolicy {scopes scopes' : ScopeSet}
    {chatIds chatIds' : List String}
    (h : canonicalizePolicy localeLE (policyValue scopes chatIds) =
      canonicalizePolicy localeLE (policyValue scopes' chatIds')) :
    SamePolicy scopes chatIds scopes' chatIds' := by
  unfold canonicalizePolicy at h
  have htext := String.ofList_injective h
  rw [normalize_policyValue, normalize_policyValue] at htext
  simp only [PolicyValue.stringify.eq_3, PolicyValue.stringifyFields, List.intercalate_cons_cons,
    List.intercalate_singleton, List.append_assoc, List.cons_append, List.nil_append] at htext
  -- each list behind the fixed text before it
  have hchatsText := (List.cons.inj (List.append_cancel_left (List.cons.inj htext).2)).2
  obtain ⟨hchats, hrest⟩ := selfDelimiting_strings _ _ _ _ hchatsText
  have hscopesText := (List.cons.inj (List.append_cancel_left (List.cons.inj hrest).2)).2
  have hallowText := (List.cons.inj (List.append_cancel_left (List.cons.inj hscopesText).2)).2
  obtain ⟨hallow, hrest⟩ := selfDelimiting_strings _ _ _ _ hallowText
  have hdenyText := (List.cons.inj (List.append_cancel_left (List.cons.inj hrest).2)).2
  obtain ⟨hdeny, -⟩ := selfDelimiting_strings _ _ _ _ hdenyText
  exact ⟨(List.map_perm_map_iff PermissionScope.name_injective).1 (perm_of_sortedStrings hallow),
    (List.map_perm_map_iff PermissionScope.name_injective).1 (perm_of_sortedStrings hdeny),
    perm_of_sortedStrings hchats⟩

theorem toDigits_injective : Function.Injective (Nat.toDigits 16) := by
  intro n
  induction n using Nat.strong_induction_on with
  | _ n ih =>
    intro n' heq
    have hdigit : ∀ a < 16, ∀ b < 16, Nat.digitChar a = Nat.digitChar b → a = b := by decide
    rw [Nat.toDigits_eq_if (by decide), Nat.toDigits_eq_if (b := 16) (n := n') (by decide)] at heq
    split at heq
    · next hsmall =>
      split at heq
      · next hsmall' => exact hdigit n hsmall n' hsmall' (List.cons.inj heq).1
      · -- one digit against two
        have hlength := congrArg List.length heq
        rw [List.length_append, List.length_singleton, List.length_singleton] at hlength
        have hpos := Nat.length_toDigits_pos (b := 16) (n := n' / 16)
        omega
    · next hlarge =>
      split at heq
      · have hlength := congrArg List.length heq
        rw [List.length_append, List.length_singleton, List.length_singleton] at hlength
        have hpos := Nat.length_toDigits_pos (b := 16) (n := n / 16)
        omega
      · obtain ⟨hhigh, hlow⟩ := List.append_inj' heq rfl
        have hdiv := ih (n / 16) (by omega) hhigh
        have hmod := hdigit (n % 16) (Nat.mod_lt _ (by decide)) (n' % 16)
          (Nat.mod_lt _ (by decide)) (List.cons.inj hlow).1
        omega

/-- **So does the policy hash**, for an injective `Bun.hash`. -/
theorem samePolicy_of_computePolicyHash (hbun : Function.Injective bunHash)
    {scopes scopes' : ScopeSet} {chatIds chatIds' : List String}
    (h : computePolicyHash localeLE bunHash scopes chatIds =
      computePolicyHash localeLE bunHash scopes' chatIds') :
    SamePolicy scopes chatIds scopes' chatIds' :=
  samePolicy_of_canonicalizePolicy (hbun (toDigits_injective (String.ofList_injective h)))

end Determined

end Signet
