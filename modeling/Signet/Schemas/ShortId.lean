import Signet.Schemas.ResourceId

/-!
# Parsing and resolving resource ids

`parseResourceId` and `resolveShortId` of `resource-id.ts`. Both look for the first prefix the input
starts with; since no prefix is a beginning of another one (`type_unique`), this is the only type
the input can name, and the loops over `ALL_PREFIXES` may be read as one lookup (`namedType_eq`).

What a short id denotes is said apart from the code (`Denotes`): a full id denotes itself, and hex
digits, with or without a prefix in front of them, denote the ids whose own digits begin with them.
A short id needs at least one digit; an input without any denotes nothing.
-/

namespace Signet

/-- The types in the order of `ALL_PREFIXES`. -/
def allResourceTypes : List ResourceType :=
  [.operator, .inbox, .conversation, .policy, .credential, .seal, .key, .message, .network]

theorem mem_allResourceTypes (type : ResourceType) : type ∈ allResourceTypes := by
  cases type <;> decide

/-- `AnyResourceId.safeParse(value).success`. -/
def anyResourceId (value : String) : Bool :=
  allResourceTypes.any fun type => isResourceId type value

/-- `SHORT_ID_HEX.test(...)`. -/
def shortIdHex (value : List Char) : Bool :=
  value.length == resourceIdHexLength && value.all isLowerHex

/-- `value.startsWith(prefix)`, for the prefix of a type. -/
def startsWithType (type : ResourceType) (value : String) : Bool :=
  (resourcePrefix type).toList.isPrefixOf value.toList

/-- `value.slice(prefix.length)`. -/
def sliceType (type : ResourceType) (value : String) : List Char :=
  value.toList.drop (resourcePrefix type).toList.length

/-- The type of the first prefix that the value starts with. -/
def namedType (value : String) : Option ResourceType :=
  allResourceTypes.find? fun type => startsWithType type value

structure ParsedResourceId where
  type : ResourceType
  idPrefix : String
  shortId : String
  fullId : String
  deriving DecidableEq

/-- `parseResourceId`: an error is thrown. -/
def parseResourceId (id : String) : Except SignetError ParsedResourceId :=
  match namedType id with
  | some type =>
    let shortId := sliceType type id
    if shortIdHex shortId = false then
      .error (.validationError "resourceId" ("Resource IDs with prefix \"" ++ resourcePrefix type ++
        "\" must end with 16 lowercase hex characters"))
    else
      .ok { type, idPrefix := resourcePrefix type, shortId := String.ofList shortId, fullId := id }
  | none =>
    .error (.validationError "resourceId" ("Unrecognized resource ID prefix: \"" ++ id ++ "\""))

def extractHex (id : String) : Option (List Char) :=
  match namedType id with
  | some type => if shortIdHex (sliceType type id) then some (sliceType type id) else none
  | none => none

/-- The errors of `resolveShortId`, with the context of a `ValidationError`. -/
inductive ShortIdError where
  | validationError (field reason shortId : String) (suggestions : Option (List String))
  | notFoundError (resourceType resourceId : String)
  deriving DecidableEq

/-- A candidate is pushed to `matches`. -/
def matchesShortId (named : Option ResourceType) (hexPrefix : List Char) (candidate : String) :
    Bool :=
  (match named with
    | some type => startsWithType type candidate
    | none => true) &&
  (match extractHex candidate with
    | some hex => hexPrefix.isPrefixOf hex
    | none => false)

/-- The part of a short id after the prefix it names, or all of it. -/
def hexPrefixOf (shortId : String) : List Char :=
  match namedType shortId with
  | some type => sliceType type shortId
  | none => shortId.toList

/-- `ValidationError.create("shortId", "Ambiguous short ID", ...)`. -/
def ambiguousShortId (shortId : String) (suggestions : List String) : ShortIdError :=
  .validationError "shortId" "Ambiguous short ID" shortId (some suggestions)

def resolveShortId (shortId : String) (candidates : List String) : Except ShortIdError String :=
  if anyResourceId shortId then
    if candidates.contains shortId then .ok shortId
    else .error (.notFoundError "resource" shortId)
  else
    let hexPrefix := hexPrefixOf shortId
    if hexPrefix.length = 0 ∨ hexPrefix.all isLowerHex = false then
      .error (.validationError "shortId" "Short ID must be lowercase hex or a full resource ID"
        shortId none)
    else
      match candidates.filter (matchesShortId (namedType shortId) hexPrefix) with
      | [] => .error (.notFoundError "resource" shortId)
      | [match₁] => .ok match₁
      | match₁ :: match₂ :: rest => .error (ambiguousShortId shortId (match₁ :: match₂ :: rest))

/-! ### What an id and a short id are -/

/-- The well-formed id of a type with the given digits. -/
structure IsIdOf (type : ResourceType) (hex : List Char) (id : String) : Prop where
  toList_eq : id.toList = (resourcePrefix type).toList ++ hex
  length_eq : hex.length = resourceIdHexLength
  lowerHex : ∀ c ∈ hex, isLowerHex c = true

/-- A well-formed id that an input denotes: the input is the id, or the first digits of it, behind
the prefix of the id's type if the input names a type. -/
def Denotes (input id : String) : Prop :=
  ∃ type hex, IsIdOf type hex id ∧
    (input = id ∨
      ∃ part, part ≠ [] ∧ part <+: hex ∧
        (input.toList = (resourcePrefix type).toList ++ part ∨ input.toList = part))

def NamesType (input : String) (type : ResourceType) : Prop :=
  (resourcePrefix type).toList <+: input.toList

/-! ### The prefixes -/

/-- No prefix is the beginning of another one. -/
theorem eq_of_prefix_isPrefixOf {type type' : ResourceType}
    (h : (resourcePrefix type).toList.isPrefixOf (resourcePrefix type').toList = true) :
    type = type' := by
  cases type <;> cases type' <;> first | rfl | exact absurd h (by decide)

/-- **A string names at most one type.** -/
theorem type_unique {input : String} {type type' : ResourceType} (h : NamesType input type)
    (h' : NamesType input type') : type = type' := by
  rcases List.prefix_or_prefix_of_prefix h h' with hle | hge
  · exact eq_of_prefix_isPrefixOf (List.isPrefixOf_iff_prefix.2 hle)
  · exact (eq_of_prefix_isPrefixOf (List.isPrefixOf_iff_prefix.2 hge)).symm

theorem startsWithType_iff {type : ResourceType} {value : String} :
    startsWithType type value = true ↔ NamesType value type :=
  List.isPrefixOf_iff_prefix

theorem namedType_eq {type : ResourceType} {value : String} (h : NamesType value type) :
    namedType value = some type := by
  unfold namedType
  cases hfind : allResourceTypes.find? fun type => startsWithType type value with
  | none =>
    have hnot := List.find?_eq_none.1 hfind type (mem_allResourceTypes type)
    exact absurd (startsWithType_iff.2 h) hnot
  | some type' =>
    have hstarts := List.find?_some (p := fun type => startsWithType type value) hfind
    -- no id names two types, so the first one found is the one
    rw [type_unique (startsWithType_iff.1 hstarts) h]

theorem namesType_of_namedType {type : ResourceType} {value : String}
    (h : namedType value = some type) : NamesType value type :=
  startsWithType_iff.1 (List.find?_some (p := fun type => startsWithType type value) h)

theorem toList_eq_of_namesType {type : ResourceType} {value : String} (h : NamesType value type) :
    value.toList = (resourcePrefix type).toList ++ sliceType type value := by
  obtain ⟨rest, hrest⟩ := h
  unfold sliceType
  rw [← hrest, List.drop_left]

theorem sliceType_eq {type : ResourceType} {value : String} {rest : List Char}
    (h : value.toList = (resourcePrefix type).toList ++ rest) : sliceType type value = rest := by
  unfold sliceType
  rw [h, List.drop_left]

/-- Every prefix has a character that is no hex digit. -/
theorem not_namesType_of_lowerHex {value : String} (h : ∀ c ∈ value.toList, isLowerHex c = true)
    (type : ResourceType) : ¬ NamesType value type := by
  intro hnames
  have hmem : '_' ∈ (resourcePrefix type).toList := by cases type <;> decide
  have hhex := h '_' (hnames.subset hmem)
  exact absurd hhex (by decide)

theorem namedType_of_lowerHex {value : String} (h : ∀ c ∈ value.toList, isLowerHex c = true) :
    namedType value = none := by
  cases hnamed : namedType value with
  | none => rfl
  | some type => exact absurd (namesType_of_namedType hnamed) (not_namesType_of_lowerHex h type)

/-! ### Well-formed ids -/

theorem shortIdHex_iff {hex : List Char} :
    shortIdHex hex = true ↔ hex.length = resourceIdHexLength ∧ ∀ c ∈ hex, isLowerHex c = true := by
  unfold shortIdHex
  rw [Bool.and_eq_true, beq_iff_eq, List.all_eq_true]

theorem IsIdOf.namesType {type : ResourceType} {hex : List Char} {id : String}
    (h : IsIdOf type hex id) : NamesType id type :=
  ⟨hex, h.toList_eq.symm⟩

theorem isResourceId_iff {type : ResourceType} {value : String} :
    isResourceId type value = true ↔ ∃ hex, IsIdOf type hex value := by
  have hsplit : isResourceId type value =
      (startsWithType type value && shortIdHex (sliceType type value)) := by
    unfold isResourceId startsWithType shortIdHex sliceType
    exact Bool.and_assoc _ _ _
  rw [hsplit, Bool.and_eq_true, startsWithType_iff, shortIdHex_iff]
  constructor
  · rintro ⟨hnames, hlength, hhex⟩
    exact ⟨sliceType type value, toList_eq_of_namesType hnames, hlength, hhex⟩
  · rintro ⟨hex, hid⟩
    rw [sliceType_eq hid.toList_eq]
    exact ⟨hid.namesType, hid.length_eq, hid.lowerHex⟩

theorem anyResourceId_iff {value : String} :
    anyResourceId value = true ↔ ∃ type hex, IsIdOf type hex value := by
  unfold anyResourceId
  rw [List.any_eq_true]
  constructor
  · rintro ⟨type, -, hvalue⟩
    exact ⟨type, isResourceId_iff.1 hvalue⟩
  · rintro ⟨type, hid⟩
    exact ⟨type, mem_allResourceTypes type, isResourceId_iff.2 hid⟩

theorem extractHex_eq_some_iff {id : String} {hex : List Char} :
    extractHex id = some hex ↔ ∃ type, IsIdOf type hex id := by
  unfold extractHex
  constructor
  · intro h
    split at h
    · next type hnamed =>
      split at h
      · next hhex =>
        obtain rfl := Option.some.inj h
        obtain ⟨hlength, hlower⟩ := shortIdHex_iff.1 hhex
        exact ⟨type, toList_eq_of_namesType (namesType_of_namedType hnamed), hlength, hlower⟩
      · cases h
    · cases h
  · rintro ⟨type, hid⟩
    -- an id names its type, and behind the prefix stand its digits
    rw [namedType_eq hid.namesType]
    dsimp only
    rw [sliceType_eq hid.toList_eq, if_pos (shortIdHex_iff.2 ⟨hid.length_eq, hid.lowerHex⟩)]

/-! ### Parsing -/

theorem parseResourceId_eq {type : ResourceType} {hex : List Char} {id : String}
    (h : IsIdOf type hex id) :
    parseResourceId id =
      .ok { type, idPrefix := resourcePrefix type, shortId := String.ofList hex,
            fullId := id } := by
  have hhex : ¬ shortIdHex hex = false := by
    rw [shortIdHex_iff.2 ⟨h.length_eq, h.lowerHex⟩]
    decide
  unfold parseResourceId
  rw [namedType_eq h.namesType]
  dsimp only
  rw [sliceType_eq h.toList_eq, if_neg hhex]

theorem isIdOf_of_parseResourceId {id : String} {parsed : ParsedResourceId}
    (h : parseResourceId id = .ok parsed) : ∃ hex, IsIdOf parsed.type hex id := by
  unfold parseResourceId at h
  split at h
  · next type hnamed =>
    dsimp only at h
    split at h
    · cases h
    · next hhex =>
      cases h
      obtain ⟨hlength, hlower⟩ := shortIdHex_iff.1 (by simpa using hhex)
      exact ⟨sliceType type id, toList_eq_of_namesType (namesType_of_namedType hnamed), hlength,
        hlower⟩
  · cases h

/-! ### Resolving -/

theorem hexPrefixOf_of_denotes {input id : String} (h : Denotes input id) :
    hexPrefixOf input ≠ [] ∧ ∀ c ∈ hexPrefixOf input, isLowerHex c = true := by
  obtain ⟨type, hex, hid, hor⟩ := h
  have hhex : hex ≠ [] := by
    intro hnil
    have hlength := hid.length_eq
    rw [hnil] at hlength
    cases hlength
  unfold hexPrefixOf
  -- the input is the id, a prefixed part of it, or bare digits
  rcases hor with rfl | ⟨part, hpart, hbegin, hnamed | hbare⟩
  · rw [namedType_eq hid.namesType]
    dsimp only
    rw [sliceType_eq hid.toList_eq]
    exact ⟨hhex, hid.lowerHex⟩
  · have hnames : NamesType input type := ⟨part, hnamed.symm⟩
    rw [namedType_eq hnames]
    dsimp only
    rw [sliceType_eq hnamed]
    exact ⟨hpart, fun c hmem => hid.lowerHex c (hbegin.subset hmem)⟩
  · have hlower : ∀ c ∈ input.toList, isLowerHex c = true := by
      rw [hbare]
      exact fun c hmem => hid.lowerHex c (hbegin.subset hmem)
    rw [namedType_of_lowerHex hlower, hbare]
    exact ⟨hpart, hbare ▸ hlower⟩

/-- **The candidates that are matched are those the input denotes.** -/
theorem matchesShortId_iff {input id : String} (hne : hexPrefixOf input ≠ []) :
    matchesShortId (namedType input) (hexPrefixOf input) id = true ↔ Denotes input id := by
  -- a candidate has digits exactly if it is an id
  have hextract : ∀ part : List Char, (match extractHex id with
      | some hex => part.isPrefixOf hex
      | none => false) = true ↔ ∃ type hex, IsIdOf type hex id ∧ part <+: hex := by
    intro part
    cases hhex : extractHex id with
    | none =>
      refine ⟨fun hfalse => absurd hfalse Bool.false_ne_true, ?_⟩
      rintro ⟨type, hex, hid, -⟩
      rw [extractHex_eq_some_iff.2 ⟨type, hid⟩] at hhex
      cases hhex
    | some hex =>
      constructor
      · intro hpart
        obtain ⟨type, hid⟩ := extractHex_eq_some_iff.1 hhex
        exact ⟨type, hex, hid, List.isPrefixOf_iff_prefix.1 hpart⟩
      · rintro ⟨type, hex', hid, hpart⟩
        have hsame := extractHex_eq_some_iff.2 ⟨type, hid⟩
        rw [hhex] at hsame
        obtain rfl := Option.some.inj hsame
        exact List.isPrefixOf_iff_prefix.2 hpart
  unfold matchesShortId
  rw [Bool.and_eq_true, hextract]
  unfold hexPrefixOf at hne ⊢
  cases hnamed : namedType input with
  | some type =>
    have hnames := namesType_of_namedType hnamed
    have hinput := toList_eq_of_namesType hnames
    rw [hnamed] at hne
    dsimp only at hne ⊢
    rw [startsWithType_iff]
    constructor
    · rintro ⟨hcandidate, type', hex, hid, hpart⟩
      obtain rfl := type_unique hid.namesType hcandidate
      exact ⟨type', hex, hid, .inr ⟨_, hne, hpart, .inl hinput⟩⟩
    · rintro ⟨type', hex, hid, hor⟩
      rcases hor with rfl | ⟨part, -, hpart, hfull | hbare⟩
      · obtain rfl := type_unique hid.namesType hnames
        rw [sliceType_eq hid.toList_eq]
        exact ⟨hid.namesType, type', hex, hid, List.prefix_refl _⟩
      · obtain rfl := type_unique ⟨part, hfull.symm⟩ hnames
        rw [sliceType_eq hfull]
        exact ⟨hid.namesType, type', hex, hid, hpart⟩
      · -- bare digits name no type
        have hlower : ∀ c ∈ input.toList, isLowerHex c = true := by
          rw [hbare]
          exact fun c hmem => hid.lowerHex c (hpart.subset hmem)
        exact absurd hnames (not_namesType_of_lowerHex hlower type)
  | none =>
    have hnot : ∀ type, ¬ NamesType input type := by
      intro type hnames
      rw [namedType_eq hnames] at hnamed
      cases hnamed
    rw [hnamed] at hne
    dsimp only at hne ⊢
    constructor
    · rintro ⟨-, type, hex, hid, hpart⟩
      exact ⟨type, hex, hid, .inr ⟨_, hne, hpart, .inr rfl⟩⟩
    · rintro ⟨type, hex, hid, hor⟩
      refine ⟨rfl, type, hex, hid, ?_⟩
      rcases hor with rfl | ⟨part, -, hpart, hfull | hbare⟩
      · exact absurd hid.namesType (hnot type)
      · exact absurd ⟨part, hfull.symm⟩ (hnot type)
      · rw [hbare]
        exact hpart

/-- A full id denotes itself and nothing else. -/
theorem denotes_iff_of_isIdOf {type : ResourceType} {hex : List Char} {input id : String}
    (h : IsIdOf type hex input) : Denotes input id ↔ id = input := by
  constructor
  · rintro ⟨type', hex', hid, hor⟩
    rcases hor with rfl | ⟨part, -, hpart, hfull | hbare⟩
    · rfl
    · -- all sixteen digits are given
      have hnames : NamesType input type' := ⟨part, hfull.symm⟩
      obtain rfl := type_unique hnames h.namesType
      have hsame : part = hex := List.append_cancel_left (hfull.symm.trans h.toList_eq)
      have hlength : part.length = hex'.length := by rw [hsame, h.length_eq, hid.length_eq]
      have hwhole : part = hex' := hpart.eq_of_length hlength
      refine String.toList_inj.1 ?_
      rw [hid.toList_eq, h.toList_eq, ← hwhole, hsame]
    · have hlower : ∀ c ∈ input.toList, isLowerHex c = true := by
        rw [hbare]
        exact fun c hmem => hid.lowerHex c (hpart.subset hmem)
      exact absurd h.namesType (not_namesType_of_lowerHex hlower type)
  · rintro rfl
    exact ⟨type, hex, h, .inl rfl⟩

theorem isResourceId_of_denotes {input id : String} {type : ResourceType} (h : Denotes input id)
    (hnames : NamesType input type) : isResourceId type id = true := by
  obtain ⟨type', hex, hid, hor⟩ := h
  rcases hor with rfl | ⟨part, -, hpart, hfull | hbare⟩
  · obtain rfl := type_unique hid.namesType hnames
    exact isResourceId_iff.2 ⟨hex, hid⟩
  · obtain rfl := type_unique ⟨part, hfull.symm⟩ hnames
    exact isResourceId_iff.2 ⟨hex, hid⟩
  · have hlower : ∀ c ∈ input.toList, isLowerHex c = true := by
      rw [hbare]
      exact fun c hmem => hid.lowerHex c (hpart.subset hmem)
    exact absurd hnames (not_namesType_of_lowerHex hlower type)

/-- What the result of `resolveShortId` says about the candidates. -/
inductive ShortIdResolution (shortId : String) (candidates : List String) :
    Except ShortIdError String → Prop where
  | one {id : String} (hmem : id ∈ candidates) (hdenotes : Denotes shortId id)
      (honly : ∀ other ∈ candidates, Denotes shortId other → other = id) :
      ShortIdResolution shortId candidates (.ok id)
  | several {suggestions : List String} (hsublist : suggestions.Sublist candidates)
      (hexact : ∀ id, id ∈ suggestions ↔ id ∈ candidates ∧ Denotes shortId id)
      (htwo : ∃ id ∈ suggestions, ∃ other ∈ suggestions, id ≠ other) :
      ShortIdResolution shortId candidates (.error (ambiguousShortId shortId suggestions))
  | none {error : ShortIdError}
      (hother : ∀ suggestions, error ≠ ambiguousShortId shortId suggestions)
      (hnone : ∀ id ∈ candidates, ¬ Denotes shortId id) :
      ShortIdResolution shortId candidates (.error error)

theorem resolution_resolveShortId (shortId : String) {candidates : List String}
    (hnodup : candidates.Nodup) :
    ShortIdResolution shortId candidates (resolveShortId shortId candidates) := by
  unfold resolveShortId
  by_cases hany : anyResourceId shortId = true
  · obtain ⟨type, hex, hid⟩ := anyResourceId_iff.1 hany
    rw [if_pos hany]
    -- a full id is looked up as it is
    by_cases hmem : shortId ∈ candidates
    · rw [if_pos (List.contains_iff_mem.2 hmem)]
      exact .one hmem ((denotes_iff_of_isIdOf hid).2 rfl) fun other _ hdenotes =>
        (denotes_iff_of_isIdOf hid).1 hdenotes
    · rw [if_neg fun hcontains => hmem (List.contains_iff_mem.1 hcontains)]
      refine .none (fun _ heq => by cases heq) fun id hcandidate hdenotes => hmem ?_
      rw [← (denotes_iff_of_isIdOf hid).1 hdenotes]
      exact hcandidate
  · rw [if_neg hany]
    dsimp only
    by_cases hmalformed :
        (hexPrefixOf shortId).length = 0 ∨ (hexPrefixOf shortId).all isLowerHex = false
    · rw [if_pos hmalformed]
      -- what is not hex digits denotes nothing, and has another error than an ambiguous one
      refine .none (fun _ heq => by simp [ambiguousShortId] at heq) fun id _ hdenotes => ?_
      obtain ⟨hne, hlower⟩ := hexPrefixOf_of_denotes hdenotes
      rcases hmalformed with hempty | hnot
      · exact hne (List.length_eq_zero_iff.1 hempty)
      · rw [List.all_eq_true.2 hlower] at hnot
        cases hnot
    · rw [if_neg hmalformed]
      have hne : hexPrefixOf shortId ≠ [] := fun hnil =>
        hmalformed (.inl (List.length_eq_zero_iff.2 hnil))
      -- otherwise the candidates that match are those that the input denotes
      have hfilter : ∀ id, id ∈ candidates.filter
          (matchesShortId (namedType shortId) (hexPrefixOf shortId)) ↔
          id ∈ candidates ∧ Denotes shortId id := by
        intro id
        rw [List.mem_filter, matchesShortId_iff hne]
      have hsublist : (candidates.filter
          (matchesShortId (namedType shortId) (hexPrefixOf shortId))).Sublist candidates :=
        List.filter_sublist
      generalize candidates.filter (matchesShortId (namedType shortId) (hexPrefixOf shortId)) =
        found at hfilter hsublist
      match found with
      | [] =>
        refine .none (fun _ heq => by cases heq) fun id hmem hdenotes => ?_
        exact List.not_mem_nil ((hfilter id).2 ⟨hmem, hdenotes⟩)
      | [id] =>
        obtain ⟨hmem, hdenotes⟩ := (hfilter id).1 List.mem_cons_self
        exact .one hmem hdenotes fun other hother hden =>
          List.mem_singleton.1 ((hfilter other).2 ⟨hother, hden⟩)
      | id :: other :: rest =>
        have hdistinct : id ≠ other := by
          rintro rfl
          exact (List.nodup_cons.1 (hsublist.nodup hnodup)).1 List.mem_cons_self
        exact .several hsublist hfilter ⟨id, List.mem_cons_self, other,
          List.mem_cons_of_mem _ List.mem_cons_self, hdistinct⟩

/-- **Short ids are resolved exactly, and ids are parsed exactly.** -/
theorem resolveShortId_exact (shortId : String) (candidates : List String)
    (hnodup : candidates.Nodup) :
    (∀ id, resolveShortId shortId candidates = .ok id ↔
      id ∈ candidates ∧ Denotes shortId id ∧
        ∀ other ∈ candidates, Denotes shortId other → other = id) ∧
    ((∃ id ∈ candidates, ∃ other ∈ candidates,
        id ≠ other ∧ Denotes shortId id ∧ Denotes shortId other) ↔
      ∃ suggestions, resolveShortId shortId candidates =
        .error (ambiguousShortId shortId suggestions)) ∧
    (∀ suggestions,
      resolveShortId shortId candidates = .error (ambiguousShortId shortId suggestions) →
        suggestions.Sublist candidates ∧
          ∀ id, id ∈ suggestions ↔ id ∈ candidates ∧ Denotes shortId id) ∧
    (∀ id type, resolveShortId shortId candidates = .ok id → NamesType shortId type →
      isResourceId type id = true) ∧
    (∀ id, (∃ parsed, parseResourceId id = .ok parsed) ↔ anyResourceId id = true) ∧
    ∀ id parsed, parseResourceId id = .ok parsed →
      ∀ type, isResourceId type id = true ↔ type = parsed.type := by
  have hresolution := resolution_resolveShortId shortId hnodup
  have hone : ∀ id, resolveShortId shortId candidates = .ok id →
      id ∈ candidates ∧ Denotes shortId id ∧
        ∀ other ∈ candidates, Denotes shortId other → other = id := by
    intro id hok
    rw [hok] at hresolution
    cases hresolution with
    | one hmem hdenotes honly => exact ⟨hmem, hdenotes, honly⟩
  refine ⟨fun id => ⟨hone id, ?_⟩, ⟨?_, ?_⟩, ?_, ?_, ?_, ?_⟩
  · rintro ⟨hmem, hdenotes, honly⟩
    generalize resolveShortId shortId candidates = result at hresolution
    cases hresolution with
    | one hmem' hdenotes' _ => rw [honly _ hmem' hdenotes']
    | several _ hexact htwo =>
      obtain ⟨first, hfirst, second, hsecond, hdistinct⟩ := htwo
      refine absurd ?_ hdistinct
      rw [honly first ((hexact first).1 hfirst).1 ((hexact first).1 hfirst).2,
        honly second ((hexact second).1 hsecond).1 ((hexact second).1 hsecond).2]
    | none _ hnone => exact absurd hdenotes (hnone id hmem)
  · rintro ⟨id, hmem, other, hother, hdistinct, hdenotes, hden⟩
    generalize resolveShortId shortId candidates = result at hresolution
    cases hresolution with
    | one _ _ honly =>
      refine absurd ?_ hdistinct
      rw [honly id hmem hdenotes, honly other hother hden]
    | several _ _ _ => exact ⟨_, rfl⟩
    | none _ hnone => exact absurd hdenotes (hnone id hmem)
  · rintro ⟨suggestions, herror⟩
    rw [herror] at hresolution
    generalize hresult : Except.error (ambiguousShortId shortId suggestions) = result
      at hresolution
    cases hresolution with
    | one _ _ _ => cases hresult
    | several _ hexact htwo =>
      obtain ⟨first, hfirst, second, hsecond, hdistinct⟩ := htwo
      obtain ⟨hmem, hdenotes⟩ := (hexact first).1 hfirst
      obtain ⟨hother, hden⟩ := (hexact second).1 hsecond
      exact ⟨first, hmem, second, hother, hdistinct, hdenotes, hden⟩
    | none hnot _ => exact absurd (Except.error.inj hresult).symm (hnot suggestions)
  · intro suggestions herror
    rw [herror] at hresolution
    generalize hresult : Except.error (ambiguousShortId shortId suggestions) = result
      at hresolution
    cases hresolution with
    | one _ _ _ => cases hresult
    | several hsublist hexact _ =>
      cases hresult
      exact ⟨hsublist, hexact⟩
    | none hnot _ => exact absurd (Except.error.inj hresult).symm (hnot suggestions)
  · intro id type hok hnames
    exact isResourceId_of_denotes (hone id hok).2.1 hnames
  · intro id
    rw [anyResourceId_iff]
    constructor
    · rintro ⟨parsed, hparsed⟩
      exact ⟨parsed.type, isIdOf_of_parseResourceId hparsed⟩
    · rintro ⟨type, hex, hid⟩
      exact ⟨_, parseResourceId_eq hid⟩
  · intro id parsed hparsed type
    obtain ⟨hex, hid⟩ := isIdOf_of_parseResourceId hparsed
    constructor
    · intro hresource
      obtain ⟨hex', hid'⟩ := isResourceId_iff.1 hresource
      exact type_unique hid'.namesType hid.namesType
    · rintro rfl
      exact isResourceId_iff.2 ⟨hex, hid⟩

/-- A prefix tells two ids with the same digits apart. -/
theorem resolveShortId_exact_prefixed :
    resolveShortId "op_01" ["op_0123456789abcdef", "seal_0123456789abcdef"] =
        .ok "op_0123456789abcdef" ∧
      Denotes "op_01" "op_0123456789abcdef" ∧ ¬ Denotes "op_01" "seal_0123456789abcdef" := by
  have hok : resolveShortId "op_01" ["op_0123456789abcdef", "seal_0123456789abcdef"] =
      .ok "op_0123456789abcdef" := by decide
  obtain ⟨-, hdenotes, honly⟩ := ((resolveShortId_exact "op_01"
    ["op_0123456789abcdef", "seal_0123456789abcdef"] (by decide)).1 _).1 hok
  refine ⟨hok, hdenotes, fun hseal => ?_⟩
  exact absurd (honly _ (by decide) hseal) (by decide)

end Signet
