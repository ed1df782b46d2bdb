import FilterSync.Filter.Options

/-!
# Resource types

A rule may be restricted to some categories of requests. The options of a filter name
them; options that name none, domain restrictions among them, are passed over.

A set of resource types is its sorted list of members. The list is determined by the
members, so two sets with the same members are equal.
-/

namespace FilterSync.Filter

open FilterSync.Text

/-- The categories of requests, in their fixed order. -/
inductive ResourceType
  | image | script | stylesheet | font | media | xmlHttpRequest | subFrame | mainFrame
  deriving DecidableEq, Repr

namespace ResourceType

/-- Every resource type, in order. -/
def all : List ResourceType :=
  [image, script, stylesheet, font, media, xmlHttpRequest, subFrame, mainFrame]

theorem mem_all (t : ResourceType) : t ∈ all := by cases t <;> decide

/-- The name in rules. -/
def name : ResourceType → String
  | image => "image"
  | script => "script"
  | stylesheet => "stylesheet"
  | font => "font"
  | media => "media"
  | xmlHttpRequest => "xmlhttprequest"
  | subFrame => "sub_frame"
  | mainFrame => "main_frame"

/-- The type of a given name. -/
def ofName? (s : String) : Option ResourceType :=
  all.find? (·.name = s)

theorem ofName?_name (t : ResourceType) : ofName? t.name = some t := by cases t <;> decide

/-- The option tokens that name a type, with the type. -/
def optionNames : List (String × ResourceType) :=
  [("image", image), ("script", script), ("stylesheet", stylesheet), ("font", font),
    ("media", media), ("xmlhttprequest", xmlHttpRequest), ("xhr", xmlHttpRequest),
    ("subdocument", subFrame), ("popup", mainFrame), ("document", mainFrame)]

/-- The type that an option token names, if any. -/
def ofOption? (token : List Char) : Option ResourceType :=
  (optionNames.find? fun entry => entry.1.toList = token).map (·.2)

end ResourceType

/-- A set of resource types. -/
structure TypeSet where
  /-- The members in order. -/
  toList : List ResourceType
  /-- The list is the one that its members determine. -/
  sorted : ResourceType.all.filter (toList.contains ·) = toList
  deriving DecidableEq, Repr

namespace TypeSet

/-- The set of the types in a list. -/
def ofList (types : List ResourceType) : TypeSet where
  toList := ResourceType.all.filter (types.contains ·)
  sorted := by
    apply List.filter_congr
    intro t _
    simp [ResourceType.mem_all]

instance : Membership ResourceType TypeSet := ⟨fun s t => t ∈ s.toList⟩

instance (t : ResourceType) (s : TypeSet) : Decidable (t ∈ s) :=
  inferInstanceAs (Decidable (t ∈ s.toList))

theorem mem_def {t : ResourceType} {s : TypeSet} : t ∈ s ↔ t ∈ s.toList := Iff.rfl

@[simp] theorem mem_ofList {t : ResourceType} {types : List ResourceType} :
    t ∈ ofList types ↔ t ∈ types := by
  simp [mem_def, ofList, ResourceType.mem_all]

/-- Sets with the same members are equal. -/
theorem ext {s u : TypeSet} (h : ∀ t, t ∈ s ↔ t ∈ u) : s = u := by
  have hl : s.toList = u.toList := by
    rw [← s.sorted, ← u.sorted]
    apply List.filter_congr
    intro t _
    have := h t
    simp only [mem_def] at this
    simp [this]
  cases s; cases u; cases hl; rfl

@[simp] theorem ofList_toList (s : TypeSet) : ofList s.toList = s :=
  ext fun _ => mem_ofList

/-- Whether the set has no member. -/
def isEmpty (s : TypeSet) : Bool := s.toList.isEmpty

end TypeSet

/-- Whether an option restricts a filter to some domains. -/
def isDomainOption (token : List Char) : Bool :=
  "domain=".toList.isPrefixOf token

/-- The resource types that the options of a filter name. -/
def namedTypes (options : Option (List Char)) : TypeSet :=
  match options with
  | none => TypeSet.ofList []
  | some text =>
    let tokens := ((pieces ',' text).map trim).filter (!isDomainOption ·)
    TypeSet.ofList (tokens.filterMap ResourceType.ofOption?)

end FilterSync.Filter
