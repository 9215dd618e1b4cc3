import TemplateMarkup.Proofs.Assembly.Attachment
import TemplateMarkup.Proofs.Assembly.Attributes

namespace TemplateMarkup

namespace Attribute

variable {attr : Attribute} {rest : List Attribute} {key : String}

-- Whether something has to become of an attribute. It has a name, it is no white space setting,
-- and it is no name of the template language with a blank value.
def counts (attr : Attribute) : Bool :=
  !Text.isBlank attr.name && !attr.isSpaceSetting &&
    !((["id", "type", "mixins"].any fun key => attr.isNamed key) && Text.isBlank attr.value)

-- Whether the attributes behind an id or a list of mixins give the element another one.
def isDisplaced (rest : List Attribute) (attr : Attribute) : Bool :=
  ["id", "mixins"].any fun key => attr.isNamed key && rest.any (isNamed key)

-- The attributes that others of the same name take the place of.
def displaced : List Attribute → List Attribute
  | [] => []
  | attr :: rest =>
    if attr.counts && attr.isDisplaced rest then attr :: displaced rest else displaced rest

end Attribute

namespace Component

open Attribute

variable {attr : Attribute} {location : Location} {component next final : Component}
  {hasType : Bool} {attributes rest : List Attribute} {kind : AttributeRole} {key : String}

-- The name that gives an attribute its role.
def AttributeRole.key? : AttributeRole → Option String
  | .id => some "id"
  | .componentType => some "type"
  | .mixins => some "mixins"
  | .ignored | .passed => none

theorem key?_componentType : AttributeRole.componentType.key? = some "type" := rfl

theorem isNamed_of_role (hkey : kind.key? = some key) (h : role hasType attr = kind) :
    attr.isNamed key = true := by
  subst h
  cases hid : attr.isNamed "id" with
  | true => rw [role_of_id hid] at hkey; cases hkey; exact hid
  | false =>
      cases htype : attr.isNamed "type" with
      | true =>
          rw [role_of_type htype] at hkey
          cases hasType <;> cases hkey
          exact htype
      | false =>
          cases hmixins : attr.isNamed "mixins" with
          | true => rw [role_of_mixins hmixins] at hkey; cases hkey; exact hmixins
          | false =>
              rw [role_of_other hid htype hmixins] at hkey
              split at hkey <;> cases hkey

-- An id and a list of mixins are always taken for what they are.
theorem role_of_isNamed (hkey : kind.key? = some key) (hkind : kind ≠ .componentType)
    (h : attr.isNamed key = true) : role hasType attr = kind := by
  cases kind with
  | id => cases hkey; exact role_of_id h
  | mixins => cases hkey; exact role_of_mixins h
  | componentType => contradiction
  | ignored | passed => cases hkey

theorem isNamed_of_passed (h : role hasType attr = .passed) :
    attr.isNamed "id" = false ∧ attr.isNamed "mixins" = false := by
  constructor
  · by_contra hid
    rw [role_of_id (by simpa using hid)] at h
    cases h
  · by_contra hmixins
    rw [role_of_mixins (by simpa using hmixins)] at h
    cases h

theorem isDisplaced_of_isNamed (hkey : kind.key? = some key) (hkind : kind ≠ .componentType)
    (h : attr.isNamed key = true) : attr.isDisplaced rest = rest.any (isNamed key) := by
  cases kind with
  | id =>
      cases hkey
      simp [isDisplaced, h, isNamed_eq_false h (show Text.sameWord _ "mixins" = false by decide)]
  | mixins =>
      cases hkey
      simp [isDisplaced, h, isNamed_eq_false h (show Text.sameWord _ "id" = false by decide)]
  | componentType => contradiction
  | ignored | passed => cases hkey

theorem isDisplaced_of_type (h : attr.isNamed "type" = true) : attr.isDisplaced rest = false := by
  simp [isDisplaced, isNamed_eq_false h (show Text.sameWord _ "id" = false by decide),
    isNamed_eq_false h (show Text.sameWord _ "mixins" = false by decide)]

-- What an element has from the attributes of a role.
def part (component : Component) : AttributeRole → Option String
  | .id => component.id
  | .componentType => component.componentType
  | .mixins => component.mixins
  | .ignored | .passed => none

def attributeToken (location : Location) (attr : Attribute) : Token :=
  ⟨.attribute attr.uri attr.name attr.value, location⟩

theorem part_of_read (hkey : kind.key? = some key)
    (h : component.read location attr = .ok next) :
    next.part kind =
      if role component.componentType.isSome attr = kind then Text.unlessBlank attr.value
      else component.part kind := by
  unfold read at h
  split at h <;> rename_i hrole
  · cases h; rw [hrole, if_neg (by rintro rfl; cases hkey)]
  · split at h
    · rename_i hblank
      cases h; cases kind <;> simp [hrole, part, hblank]
    · split at h
      · rename_i hvalue _
        cases h; cases kind <;> simp [hrole, part, hvalue]
      · cases h
  · cases h; cases kind <;> simp [hrole, part]
  · cases h; cases kind <;> simp [hrole, part]
  · cases h
    rw [hrole, if_neg (by rintro rfl; cases hkey)]
    cases kind <;> rfl

theorem passed_of_read (h : component.read location attr = .ok next) :
    next.passed = component.passed ++
      if role component.componentType.isSome attr = .passed then #[attributeToken location attr]
      else #[] := by
  unfold read at h
  split at h <;> rename_i hrole
  · cases h; simp [hrole]
  · split at h
    · cases h; simp [hrole]
    · split at h
      · cases h; simp [hrole]
      · cases h
  · cases h; simp [hrole]
  · cases h; simp [hrole]
  · cases h; simp [hrole, attributeToken]

-- What becomes of an attribute in front of others.
def fate (hasType : Bool) (rest : List Attribute) (attr : Attribute) : AttributeRole :=
  let kind := role hasType attr
  if kind ≠ .passed && (Text.isBlank attr.value || attr.isDisplaced rest) then .ignored else kind

theorem fate_eq_iff (hkey : kind.key? = some key) :
    fate hasType rest attr = kind ↔ role hasType attr = kind ∧
      Text.isBlank attr.value = false ∧ attr.isDisplaced rest = false := by
  have hkind : kind ≠ .ignored ∧ kind ≠ .passed := by
    constructor <;> (rintro rfl; cases hkey)
  simp only [fate]
  split
  · rename_i hlost
    simp only [Bool.and_eq_true, Bool.or_eq_true] at hlost
    grind
  · rename_i hkept
    simp only [Bool.and_eq_true, Bool.or_eq_true] at hkept
    grind

theorem fate_eq_passed_iff :
    fate hasType rest attr = .passed ↔ role hasType attr = .passed := by
  simp only [fate]
  split <;> simp_all

-- Attributes, each with what becomes of it.
abbrev Account := List (Attribute × AttributeRole)

-- What becomes of the attributes of an element one after the other.
def account (hasType : Bool) : List Attribute → Account
  | [] => []
  | attr :: rest =>
    (attr, fate hasType rest attr) ::
      account (hasType || fate hasType rest attr = .componentType) rest

-- The attributes of an account that have a certain role.
def Account.under (entries : Account) (kind : AttributeRole) : List Attribute :=
  (entries.filter fun entry => entry.2 = kind).map Prod.fst

@[simp] theorem Account.under_cons (entry : Attribute × AttributeRole) (entries : Account) :
    Account.under (entry :: entries) kind =
      if entry.2 = kind then entry.1 :: entries.under kind else entries.under kind := by
  simp only [under, List.filter_cons, decide_eq_true_eq]
  split <;> rfl

theorem isSome_componentType_of_read (h : component.read location attr = .ok next) :
    next.componentType.isSome = (component.componentType.isSome ||
      fate component.componentType.isSome rest attr = .componentType) := by
  have hpart : next.componentType = _ := part_of_read key?_componentType h
  rw [hpart, Bool.eq_iff_iff]
  simp only [Bool.or_eq_true, decide_eq_true_eq, fate_eq_iff key?_componentType]
  by_cases hrole : role component.componentType.isSome attr = .componentType
  · obtain ⟨hnone, htype⟩ := role_eq_componentType_iff.mp hrole
    rw [if_pos hrole, hnone, Text.unlessBlank, isDisplaced_of_type htype]
    rw [hnone] at hrole
    cases Text.isBlank attr.value <;> simp [hrole]
  · simp [hrole, part]

theorem account_cons_of_read (h : component.read location attr = .ok next) (rest : List Attribute) :
    account component.componentType.isSome (attr :: rest) =
      (attr, fate component.componentType.isSome rest attr) ::
        account next.componentType.isSome rest := by
  rw [account, isSome_componentType_of_read h]

theorem readAll_cons_ok (h : component.readAll location (attr :: rest) = .ok final) :
    ∃ next, component.read location attr = .ok next ∧ next.readAll location rest = .ok final := by
  rw [readAll_cons] at h
  cases hread : component.read location attr with
  | error fault => rw [hread] at h; cases h
  | ok next => rw [hread] at h; exact ⟨next, rfl, h⟩

-- The attributes that are passed on become the tokens, each where it stands.
theorem passed_of_readAll (h : component.readAll location attributes = .ok final) :
    final.passed = component.passed ++
      (((account component.componentType.isSome attributes).under .passed).map
        (attributeToken location)).toArray := by
  induction attributes generalizing component with
  | nil => cases h; simp [account, Account.under]
  | cons attr rest ih =>
      obtain ⟨next, hread, h⟩ := readAll_cons_ok h
      rw [ih h, passed_of_read hread, account_cons_of_read hread, Account.under_cons,
        Array.append_assoc]
      simp only [fate_eq_passed_iff]
      split <;> simp

-- The last attribute of its name says what the id or the list of mixins is.
theorem values_of_readAll (hkey : kind.key? = some key) (hkind : kind ≠ .componentType)
    (h : component.readAll location attributes = .ok final) :
    ((account component.componentType.isSome attributes).under kind).map (·.value) =
        (if attributes.any (isNamed key) then final.part kind else none).toList ∧
      (attributes.any (isNamed key) = false → final.part kind = component.part kind) := by
  induction attributes generalizing component with
  | nil => cases h; simp [account, Account.under]
  | cons attr rest ih =>
      obtain ⟨next, hread, h⟩ := readAll_cons_ok h
      obtain ⟨hvalues, hsame⟩ := ih h
      have hpart := part_of_read hkey hread
      rw [account_cons_of_read hread, Account.under_cons, List.any_cons]
      simp only [fate_eq_iff hkey]
      cases hnamed : attr.isNamed key with
      | true =>
          have hrole : role component.componentType.isSome attr = kind :=
            role_of_isNamed hkey hkind hnamed
          rw [if_pos hrole] at hpart
          refine ⟨?_, by simp⟩
          simp only [hrole, isDisplaced_of_isNamed hkey hkind hnamed, true_and, Bool.true_or,
            if_true]
          cases hmore : rest.any (isNamed key) with
          | true => simpa [hmore] using hvalues
          | false =>
              rw [hsame hmore, hpart]
              simp only [hmore, Bool.false_eq_true, if_false, Option.toList_none,
                List.map_eq_nil_iff] at hvalues
              simp only [hvalues, Text.unlessBlank]
              cases Text.isBlank attr.value <;> simp
      | false =>
          have hrole : role component.componentType.isSome attr ≠ kind := fun hrole => by
            rw [isNamed_of_role hkey hrole] at hnamed
            cases hnamed
          rw [if_neg hrole] at hpart
          simp only [hrole, false_and, if_false, Bool.false_or, ← hpart]
          exact ⟨hvalues, hsame⟩

-- The first type that is not blank counts, where the name of the element gives none.
theorem types_of_readAll (h : component.readAll location attributes = .ok final) :
    ((account component.componentType.isSome attributes).under .componentType).map (·.value) =
        (if component.componentType.isSome then none else final.componentType).toList ∧
      (component.componentType.isSome = true → final.componentType = component.componentType) := by
  induction attributes generalizing component with
  | nil => cases h; simp [account, Account.under]
  | cons attr rest ih =>
      obtain ⟨next, hread, h⟩ := readAll_cons_ok h
      obtain ⟨hvalues, hsame⟩ := ih h
      have hpart : next.componentType = _ := part_of_read key?_componentType hread
      rw [account_cons_of_read hread, Account.under_cons]
      simp only [fate_eq_iff key?_componentType]
      by_cases hrole : role component.componentType.isSome attr = .componentType
      · obtain ⟨hnone, htype⟩ := role_eq_componentType_iff.mp hrole
        rw [if_pos hrole] at hpart
        rw [hnone] at hrole
        simp only [hnone, hrole, isDisplaced_of_type htype, Text.unlessBlank] at hpart ⊢
        cases hblank : Text.isBlank attr.value with
        | true =>
            simp only [hblank, if_true] at hpart
            simpa [hpart] using hvalues
        | false =>
            simp only [hblank, Bool.false_eq_true, if_false] at hpart
            have hfinal := hsame (by rw [hpart]; rfl)
            simpa [hfinal, hpart] using hvalues
      · rw [if_neg hrole] at hpart
        simp only [hrole, false_and, if_false]
        change next.componentType = component.componentType at hpart
        rw [hpart] at hvalues hsame
        rw [hpart]
        exact ⟨hvalues, hsame⟩

theorem role_ne_ignored (h : attr.counts = true) : role hasType attr ≠ .ignored := by
  simp only [counts, Bool.and_eq_true, Bool.not_eq_true'] at h
  simp only [role, h.1.1, h.1.2]
  grind

theorem counts_of_isNamed (hkey : kind.key? = some key) (h : attr.isNamed key = true) :
    attr.counts = !Text.isBlank attr.value := by
  have hany : (["id", "type", "mixins"].any fun key => attr.isNamed key) = true := by
    cases kind <;> cases hkey <;> simp [h]
  rw [isNamed, Bool.and_eq_true] at h
  have hname : Text.isBlank attr.name = false :=
    (Text.isBlank_congr h.2).trans (by cases kind <;> cases hkey <;> decide)
  rw [counts, hany, hname, isSpaceSetting_of_isReserved h.1]
  rfl

-- Of the attributes that count, just those are lost that others take the place of.
theorem fate_eq_ignored_iff (h : attr.counts = true) :
    fate hasType rest attr = .ignored ↔ attr.isDisplaced rest = true := by
  have htaken : ∀ kind key, kind.key? = some key → role hasType attr = kind →
      (fate hasType rest attr = .ignored ↔ attr.isDisplaced rest = true) := by
    intro kind key hkey hrole
    rw [counts_of_isNamed hkey (isNamed_of_role hkey hrole), Bool.not_eq_true'] at h
    cases kind <;> cases hkey <;> simp [fate, hrole, h]
  cases hrole : role hasType attr with
  | ignored => exact absurd hrole (role_ne_ignored h)
  | id => exact htaken _ _ rfl hrole
  | componentType => exact htaken _ _ rfl hrole
  | mixins => exact htaken _ _ rfl hrole
  | passed =>
      obtain ⟨hid, hmixins⟩ := isNamed_of_passed hrole
      simp [fate, hrole, isDisplaced, hid, hmixins]

-- The attributes that count and that nothing becomes of.
def Account.lost (entries : Account) : List Attribute :=
  (entries.filter fun entry => entry.1.counts && entry.2 = .ignored).map Prod.fst

theorem lost_account (hasType : Bool) (attributes : List Attribute) :
    (account hasType attributes).lost = displaced attributes := by
  induction attributes generalizing hasType with
  | nil => rfl
  | cons attr rest ih =>
      specialize ih (hasType || fate hasType rest attr = .componentType)
      simp only [Account.lost] at ih ⊢
      rw [account, List.filter_cons, displaced]
      cases hcounts : attr.counts with
      | false => simpa using ih
      | true => simp [fate_eq_ignored_iff hcounts, apply_ite, ih]

-- Each attribute that counts is taken for the id, or there is one for it behind it.
theorem countP_isNamed (hkey : kind.key? = some key) (hkind : kind ≠ .componentType)
    (hasType : Bool) (attributes : List Attribute) :
    attributes.countP (fun attr => attr.isNamed key && attr.counts) =
      ((account hasType attributes).under kind).length +
        (displaced attributes).countP (isNamed key) := by
  induction attributes generalizing hasType with
  | nil => rfl
  | cons attr rest ih =>
      rw [account, Account.under_cons, displaced, List.countP_cons,
        ih (hasType || fate hasType rest attr = .componentType)]
      simp only [fate_eq_iff hkey]
      cases hnamed : attr.isNamed key with
      | true =>
          have hrole : role hasType attr = kind := role_of_isNamed hkey hkind hnamed
          simp only [hrole, counts_of_isNamed hkey hnamed]
          cases Text.isBlank attr.value <;> cases attr.isDisplaced rest <;>
            simp [hnamed] <;> omega
      | false =>
          have hrole : role hasType attr ≠ kind := fun hrole => by
            rw [isNamed_of_role hkey hrole] at hnamed
            cases hnamed
          simp only [hrole, false_and, if_false, Bool.false_and, Bool.false_eq_true, Nat.add_zero]
          split <;> simp [hnamed]

theorem exists_role_of_mem_account {entry : Attribute × AttributeRole}
    (h : entry ∈ account hasType attributes) :
    ∃ hasType rest, entry.2 = fate hasType rest entry.1 := by
  induction attributes generalizing hasType with
  | nil => cases h
  | cons attr rest ih =>
      rcases List.mem_cons.mp h with rfl | h
      · exact ⟨hasType, rest, rfl⟩
      · exact ih h

theorem exists_role_of_mem_passed (h : attr ∈ (account hasType attributes).under .passed) :
    ∃ hasType, role hasType attr = .passed := by
  obtain ⟨entry, hm, rfl⟩ := List.mem_map.mp h
  obtain ⟨hentry, hpassed⟩ := List.mem_filter.mp hm
  obtain ⟨hasType, rest, hfate⟩ := exists_role_of_mem_account hentry
  exact ⟨hasType, fate_eq_passed_iff.mp (hfate.symm.trans (of_decide_eq_true hpassed))⟩

theorem map_fst_account (hasType : Bool) (attributes : List Attribute) :
    (account hasType attributes).map Prod.fst = attributes := by
  induction attributes generalizing hasType with
  | nil => rfl
  | cons attr rest ih => rw [account, List.map_cons, ih]

end Component

-- What a start token says about the id, the type and the mixins of its component.
def TokenForm.part : TokenForm → Component.AttributeRole → Option String
  | .startComponent _ id _ _, .id => id
  | .startComponent _ _ componentType _, .componentType => componentType
  | .startComponent _ _ _ mixins, .mixins => mixins
  | _, _ => none

namespace Component

open Attribute

variable {attr : Attribute} {location : Location} {component : Component}
  {nameType : Option String} {attributes : List Attribute} {kind : AttributeRole}
  {key : String} {start : TokenForm} {shown : Array Token} {entries : Account}

namespace Account

-- An account has all attributes in their order, and what it takes an attribute for shows: one of
-- its name and with its value in the start token, or an attribute token of its own. Neither the
-- start token, but for a type that the name of the element gives, nor the attribute tokens show
-- more than that.
structure Explains (entries : Account) (nameType : Option String) (attributes : List Attribute)
    (location : Location) (start : TokenForm) (shown : Array Token) : Prop where
  attributes : entries.map Prod.fst = attributes
  names : ∀ entry ∈ entries, ∀ key, entry.2.key? = some key → entry.1.isNamed key = true
  values : ∀ kind key, kind.key? = some key →
    (entries.under kind).map (·.value) =
      (if kind = .componentType ∧ nameType.isSome then none else start.part kind).toList
  given : nameType.isSome = true → start.part .componentType = nameType
  tokens : shown = ((entries.under .passed).map (attributeToken location)).toArray

end Account

-- The parts of a component show in its start token. Mixins alone make no component.
theorem part_startForm (uri element : Option String)
    (hmixins : (component.mixins.isSome && !component.isComponent) = false) :
    (component.startForm uri element).part = component.part := by
  funext kind
  rw [startForm]
  cases hpart : component.isComponent with
  | true => cases kind <;> rfl
  | false =>
      have hnone : component.mixins = none := by simpa [hpart] using hmixins
      simp only [isComponent, Bool.or_eq_false_iff, Option.isSome_eq_false_iff,
        Option.isNone_iff_eq_none] at hpart
      cases kind <;> simp [TokenForm.part, part, hnone, hpart]

theorem explains_account {componentType : Option String} (uri element : Option String)
    (hread : (ofType componentType).readAll location attributes = .ok component)
    (hmixins : (component.mixins.isSome && !component.isComponent) = false) :
    (account componentType.isSome attributes).Explains componentType attributes location
      (component.startForm uri element) component.passed where
  attributes := map_fst_account _ _
  names entry hm key hkey := by
    obtain ⟨hasType, rest, hfate⟩ := exists_role_of_mem_account hm
    exact isNamed_of_role hkey ((fate_eq_iff hkey).mp hfate.symm).1
  values kind key hkey := by
    rw [part_startForm uri element hmixins]
    by_cases hkind : kind = .componentType
    · subst hkind
      simp only [true_and]
      exact (types_of_readAll hread).1
    · obtain ⟨hvalues, hsame⟩ := values_of_readAll hkey hkind hread
      rw [if_neg (by simp [hkind])]
      refine hvalues.trans ?_
      cases hany : attributes.any (isNamed key) with
      | true => simp
      | false =>
          rw [hsame hany]
          cases kind <;> simp_all [part, ofType]
  given := by
    rw [part_startForm uri element hmixins]
    exact (types_of_readAll hread).2
  tokens := by
    rw [passed_of_readAll hread]
    exact Array.empty_append

theorem attributeToken_injective (location : Location) :
    Function.Injective (attributeToken location) := by
  intro first second h
  cases first
  cases second
  simpa [attributeToken] using h

-- The attribute tokens tell which attributes they are of.
theorem Account.Explains.under_passed {others : Account}
    (h : entries.Explains nameType attributes location start shown)
    (hothers : others.Explains nameType attributes location start shown) :
    entries.under .passed = others.under .passed := by
  have htokens := congrArg Array.toList (h.tokens.symm.trans hothers.tokens)
  exact (attributeToken_injective location).list_map htokens

theorem isNamed_of_mem_displaced (h : attr ∈ displaced attributes) :
    attr.isNamed "id" = true ∨ attr.isNamed "mixins" = true := by
  induction attributes with
  | nil => cases h
  | cons first rest ih =>
      rw [displaced] at h
      split at h
      · rename_i hdisplaced
        rcases List.mem_cons.mp h with rfl | h
        · simp only [isDisplaced, Bool.and_eq_true, List.any_cons, List.any_nil, Bool.or_false,
            Bool.or_eq_true] at hdisplaced
          exact hdisplaced.2.imp And.left And.left
        · exact ih h
      · exact ih h

theorem kind_eq_of_isNamed {other : AttributeRole} {word : String} (hkey : kind.key? = some key)
    (hother : other.key? = some word) (h : attr.isNamed key = true)
    (hword : attr.isNamed word = true) : other = kind := by
  by_contra hne
  have hwords : Text.sameWord key word = false := by
    cases kind <;> cases hkey <;> cases other <;> cases hother <;>
      first | exact absurd rfl hne | decide
  rw [isNamed_eq_false h hwords] at hword
  cases hword

-- An account in which nothing is lost takes each attribute for what its name says.
theorem Account.Explains.kind_eq (h : entries.Explains nameType attributes location start shown)
    (hlost : entries.lost = [])
    (haccount : (account nameType.isSome attributes).Explains nameType attributes location start
      shown)
    (hkey : kind.key? = some key) (hkind : kind ≠ .componentType)
    {entry : Attribute × AttributeRole} (hm : entry ∈ entries)
    (hnamed : entry.1.isNamed key = true) (hcounts : entry.1.counts = true) :
    entry.2 = kind := by
  cases hother : entry.2 with
  | ignored =>
      have hmem : entry.1 ∈ entries.lost :=
        List.mem_map_of_mem (List.mem_filter.mpr ⟨hm, by simp [hcounts, hother]⟩)
      rw [hlost] at hmem
      cases hmem
  | passed =>
      have hmem : entry.1 ∈ entries.under .passed :=
        List.mem_map_of_mem (List.mem_filter.mpr ⟨hm, decide_eq_true hother⟩)
      rw [h.under_passed haccount] at hmem
      obtain ⟨hasType, hrole⟩ := exists_role_of_mem_passed hmem
      have hnone : AttributeRole.passed = kind :=
        hrole.symm.trans (role_of_isNamed hkey hkind hnamed)
      rw [← hnone] at hkey
      cases hkey
  | id | componentType | mixins =>
      rw [← hother]
      exact kind_eq_of_isNamed hkey (congrArg AttributeRole.key? hother) hnamed
        (h.names entry hm _ (congrArg AttributeRole.key? hother))

-- Where others take the place of an attribute, no account has them all.
theorem exists_explains_iff
    (h : (account nameType.isSome attributes).Explains nameType attributes location start shown) :
    (∃ entries : Account, entries.Explains nameType attributes location start shown ∧
      entries.lost = []) ↔ displaced attributes = [] := by
  constructor
  · rintro ⟨entries, hentries, hlost⟩
    have hzero : ∀ (kind : AttributeRole) key, kind.key? = some key → kind ≠ .componentType →
        (displaced attributes).countP (isNamed key) = 0 := by
      intro kind key hkey hkind
      have hcount := countP_isNamed hkey hkind nameType.isSome attributes
      have hlength := congrArg List.length
        ((hentries.values kind key hkey).trans (h.values kind key hkey).symm)
      rw [List.length_map, List.length_map] at hlength
      have hle : attributes.countP (fun attr => attr.isNamed key && attr.counts) ≤
          (entries.under kind).length := by
        rw [← hentries.attributes, List.countP_map, Account.under, List.length_map,
          ← List.countP_eq_length_filter]
        refine List.countP_mono_left fun entry hm hnamed => ?_
        simp only [Function.comp_apply, Bool.and_eq_true] at hnamed
        exact decide_eq_true (hentries.kind_eq hlost h hkey hkind hm hnamed.1 hnamed.2)
      omega
    refine List.eq_nil_iff_forall_not_mem.mpr fun attr hm => ?_
    rcases isNamed_of_mem_displaced hm with hid | hmixins
    · exact List.countP_eq_zero.mp (hzero .id "id" rfl (by simp)) attr hm hid
    · exact List.countP_eq_zero.mp (hzero .mixins "mixins" rfl (by simp)) attr hm hmixins
  · intro hnone
    exact ⟨_, h, (lost_account _ attributes).trans hnone⟩

-- A token of an attribute that does not count shows a blank type, of an element with a type.
theorem isNamed_of_mem_passed (h : attr ∈ (account nameType.isSome attributes).under .passed)
    (hcounts : attr.counts = false) : attr.isNamed "type" = true := by
  obtain ⟨hasType, hrole⟩ := exists_role_of_mem_passed h
  by_contra htype
  rw [Bool.not_eq_true] at htype
  obtain ⟨hid, hmixins⟩ := isNamed_of_passed hrole
  rw [role_of_other hid htype hmixins] at hrole
  simp_all [counts]

end Component

namespace Assembly

open Component (Account)

variable {assembly next : Assembly} {uri element componentType : Option String} {name : String}
  {attributes : List Attribute} {line : Option Nat} {location : Location}

-- Only bindings ever wait for a start token.
theorem isBinding_of_reachable (h : assembly.Reachable) :
    ∀ token ∈ assembly.bindings, token.isBinding = true := by
  refine h.induction (motive := fun assembly => ∀ token ∈ assembly.bindings, token.isBinding = true)
    ?_ ?_ ?_
  · simp [start]
  · intro before hbefore
    rwa [settled_bindings]
  · intro before placed hbefore hmove
    cases hstart : before.startsOutput placed with
    | true =>
        obtain ⟨-, -, -, -, -, -, -, -, -, -, hnone, -⟩ := hmove.of_startsOutput hstart
        simp [hnone]
    | false =>
        rcases hmove.bindings_eq hstart with hsame | ⟨label, uri, -, hmore⟩
        · rwa [hsame]
        · simp only [hmore, Array.mem_append, Array.mem_singleton]
          rintro token (hm | rfl)
          · exact hbefore token hm
          · rfl

theorem openRead_ok {component : Component} {compress : Bool}
    (h : assembly.openRead uri element component compress location = .ok next) :
    (component.mixins.isSome && !component.isComponent) = false ∧
      next.tokens = assembly.tokens ++
        startTokens component uri element assembly.bindings location := by
  unfold openRead at h
  split at h
  · cases h
  · rename_i hmixins
    refine ⟨by simpa using hmixins, ?_⟩
    cases hregister : assembly.register component.id location with
    | error fault => rw [hregister] at h; cases h
    | ok noted =>
        rw [hregister] at h
        cases h
        rw [register_ok hregister]

theorem openByRole_of_output
    (hrole : (ElementRole.ofName uri name).output? name = some (element, componentType)) :
    assembly.openByRole uri name attributes location =
      assembly.openOutput uri element componentType attributes
        ((Attribute.compression? attributes).getD assembly.compressing) location := by
  rw [openByRole_eq]
  cases hname : ElementRole.ofName uri name <;> rw [hname] at hrole <;> cases hrole <;> rfl

-- An output element that is accepted leaves the tokens of what its attributes say.
theorem exists_component_of_accepted (hidle : assembly.isIdle = false)
    (hrole : (ElementRole.ofName uri name).output? name = some (element, componentType))
    (haccepted : (assembly.elementStart uri name attributes location).fault = none) :
    ∃ component, (Component.ofType componentType).readAll location attributes = .ok component ∧
      (component.mixins.isSome && !component.isComponent) = false ∧
      (assembly.elementStart uri name attributes location).next.tokens =
        assembly.settled.tokens ++
          startTokens component uri element assembly.bindings location := by
  cases hplace : assembly.placementFault? uri name with
  | some rule =>
      rw [elementStart_of_misplaced hidle hplace] at haccepted
      cases haccepted
  | none =>
      rw [elementStart_of_placed hidle hplace, openByRole_of_output hrole,
        openOutput_eq_bind] at haccepted ⊢
      cases hread : (Component.ofType componentType).readAll location attributes with
      | error fault => rw [hread] at haccepted; cases haccepted
      | ok component =>
          rw [hread] at haccepted
          dsimp only [Except.bind] at haccepted ⊢
          cases hopen : assembly.settled.openRead uri element component
              ((Attribute.compression? attributes).getD assembly.settled.compressing) location with
          | error fault => rw [hopen] at haccepted; cases haccepted
          | ok next =>
              obtain ⟨hmixins, htokens⟩ := openRead_ok hopen
              rw [settled_bindings] at htokens
              exact ⟨component, rfl, hmixins, htokens⟩

-- Wherever elements count, the start of an output element leaves its start token, the bindings
-- that waited and the tokens of attributes. Each attribute with a token of its own or in the start
-- token is accounted for once, and an id or a list of mixins that another one takes the place of
-- is lost. So an account of all attributes that count is there where no name is displaced, and
-- only there. All tokens are those of attributes that count, but for blank types of an element
-- that has a type.
theorem step_explained (hreach : assembly.Reachable) (hidle : assembly.isIdle = false)
    (hrole : (ElementRole.ofName uri name).output? name = some (element, componentType))
    (haccepted : (assembly.step ⟨line, .elementStart uri name attributes⟩).fault = none) :
    ∃ start shown, ∃ entries : Account,
      start.isStart = true ∧ (∀ token ∈ assembly.bindings, token.isBinding = true) ∧
      (assembly.step ⟨line, .elementStart uri name attributes⟩).next.tokens =
        assembly.settled.tokens ++ #[⟨start, assembly.place line⟩] ++ assembly.bindings ++ shown ∧
      entries.Explains componentType attributes (assembly.place line) start shown ∧
      entries.lost = Attribute.displaced attributes ∧
      (∀ attr ∈ entries.under .passed, attr.counts = false → attr.isNamed "type" = true) ∧
      ((∃ others : Account,
          others.Explains componentType attributes (assembly.place line) start shown ∧
            others.lost = []) ↔
        Attribute.displaced attributes = []) := by
  obtain ⟨component, hread, hmixins, htokens⟩ :=
    exists_component_of_accepted hidle hrole haccepted
  have hexplains := Component.explains_account uri element hread hmixins
  refine ⟨component.startForm uri element, component.passed, _,
    component.isStart_startForm uri element, isBinding_of_reachable hreach, ?_, hexplains,
    Component.lost_account _ _, fun attr hm => Component.isNamed_of_mem_passed hm,
    Component.exists_explains_iff hexplains⟩
  simp only [startTokens, Array.append_assoc] at htokens ⊢
  exact htokens

-- A table whose id, type and mixins are all there twice.
def rivalAttributes : List Attribute := [
  ⟨none, "class", "wide"⟩, ⟨some Naming.templateUri51, "id", "grid"⟩,
  ⟨some Naming.templateUri51, "type", "Grid"⟩, ⟨some Naming.templateUri50, "ID", "list"⟩,
  ⟨some Naming.templateUri50, "rows", "3"⟩, ⟨some Naming.templateUri50, "Type", "List"⟩,
  ⟨some Naming.xmlUri, "space", "preserve"⟩, ⟨some Naming.templateUri51, "mixins", " "⟩,
  ⟨some Naming.templateUri50, "mixins", "Zebra"⟩]

theorem step_explained_rivals :
    Reachable (start "T.tml" true) ∧ (start "T.tml" true).isIdle = false ∧
      (ElementRole.ofName none "table").output? "table" = some (some "table", none) ∧
      let reaction := (start "T.tml" true).step ⟨some 2, .elementStart none "table" rivalAttributes⟩
      let location := (start "T.tml" true).place (some 2)
      reaction.fault = none ∧
        ∃ start shown, ∃ entries : Account,
          start.isStart = true ∧ (∀ token ∈ #[], Token.isBinding token = true) ∧
          reaction.next.tokens = #[] ++ #[⟨start, location⟩] ++ #[] ++ shown ∧
          entries.Explains none rivalAttributes location start shown ∧
          entries.lost = [⟨some Naming.templateUri51, "id", "grid"⟩] ∧
          (∀ attr ∈ entries.under .passed, attr.counts = false → attr.isNamed "type" = true) ∧
          ((∃ others : Account, others.Explains none rivalAttributes location start shown ∧
              others.lost = []) ↔
            Attribute.displaced rivalAttributes = []) := by
  have hreach : Reachable (start "T.tml" true) := ⟨_, _, [], rfl⟩
  exact ⟨hreach, rfl, rfl, rfl, step_explained hreach rfl rfl rfl⟩

-- A grid whose blank second id takes away the first one.
def blankedId : List Attribute :=
  [⟨some Naming.templateUri51, "id", "grid"⟩, ⟨some Naming.templateUri51, "ID", ""⟩]

theorem not_explained_blankedId :
    ¬ ∀ (assembly : Assembly) (uri element componentType : Option String) (name : String)
        (attributes : List Attribute) (line : Option Nat), assembly.Reachable →
      assembly.isIdle = false →
      (ElementRole.ofName uri name).output? name = some (element, componentType) →
      (assembly.step ⟨line, .elementStart uri name attributes⟩).fault = none →
      ∃ start shown, ∃ entries : Account,
        (assembly.step ⟨line, .elementStart uri name attributes⟩).next.tokens =
          assembly.settled.tokens ++ #[⟨start, assembly.place line⟩] ++ assembly.bindings ++ shown ∧
        entries.Explains componentType attributes (assembly.place line) start shown ∧
        entries.lost = [] := by
  intro h
  obtain ⟨form, shown, entries, htokens, hentries, hlost⟩ := h (start "T.tml" true) none
    (some "p") none "p" blankedId (some 1) ⟨_, _, [], rfl⟩ rfl rfl rfl
  have hplain : (#[⟨.startElement none (some "p"), ⟨"T.tml", some 1⟩⟩] : Array Token) =
      #[] ++ #[⟨form, ⟨"T.tml", some 1⟩⟩] ++ #[] ++ shown := htokens
  obtain ⟨rfl, rfl⟩ : .startElement none (some "p") = form ∧ shown = #[] := by
    simpa using congrArg Array.toList hplain
  have hread : (Component.ofType none).readAll ⟨"T.tml", some 1⟩ blankedId =
      .ok ⟨none, none, none, #[]⟩ := rfl
  have hexplains := Component.explains_account none (some "p") hread rfl
  have hnone : Attribute.displaced blankedId = [] :=
    (Component.exists_explains_iff hexplains).mp ⟨entries, hentries, hlost⟩
  exact absurd hnone (by decide)

end Assembly

end TemplateMarkup
