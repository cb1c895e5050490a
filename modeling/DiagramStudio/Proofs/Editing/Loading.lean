import DiagramStudio.Proofs.Editing.Recorded

/-!
What a session begins with. A link that can be decoded settles source, title and view mode, and storage is not
even looked at (`load_of_link`). Without one each of source and title comes from its own slot or is its own
default, whatever else is stored and whatever the address carries (`load_takes`, `load_congr_of_offers`). Loading
writes nothing.
-/

namespace DiagramStudio

/-- The state that an address carries, if it carries one. -/
def Location.shared? (l : Location) : Option SharedState :=
  l.fragment.bind fun fragment => SharedState.decode? fragment.toList

namespace Session

variable {σ τ : Type}

/-- The same session over other storage. -/
def withStorage (s : Session σ) (storage : τ) : Session τ := { s with storage := storage }

variable [Storage σ] [Storage τ]

/-! ## One slot -/

/-- The slot can be read, and what it holds is a text that is not empty. -/
def Offers (storage : σ) (key text : String) : Prop :=
  Storage.get storage key = .ok (some text) ∧ text ≠ ""

/-- What becomes of a slot, and whether that was in the slot: it is the text that the slot offers, or the default
    where the slot is empty, missing or cannot be read. -/
inductive Takes (storage : σ) (key default : String) : String → Bool → Prop where
  | slot {text : String} (offers : Offers storage key text) : Takes storage key default text true
  | default (nothing : ∀ text, ¬Offers storage key text) : Takes storage key default default false

theorem slot?_eq_some_iff {storage : σ} {key text : String} :
    slot? storage key = some text ↔ Offers storage key text := by
  rcases read : Storage.get storage key with fault | _ | held
  · simp [slot?, Offers, read]
  · simp [slot?, Offers, read]
  · by_cases empty : held = ""
    · simp only [slot?, Offers, read, empty]
      constructor
      · nofun
      · rintro ⟨same, some_⟩
        cases same
        exact absurd rfl some_
    · have kept : slot? storage key = some held := by simp [slot?, read, empty]
      rw [kept, Offers, read]
      constructor
      · rintro ⟨rfl⟩
        exact ⟨rfl, empty⟩
      · rintro ⟨same, _⟩
        cases same
        rfl

/-- What is looked at of a slot is what it offers, whatever stands in the way where it offers nothing. -/
theorem slot?_congr {storage : σ} {storage' : τ} {key : String}
    (alike : ∀ text, Offers storage key text ↔ Offers storage' key text) :
    slot? storage key = slot? storage' key := by
  ext text
  rw [slot?_eq_some_iff, slot?_eq_some_iff, alike]

theorem takes_slot? (storage : σ) (key default : String) :
    Takes storage key default ((slot? storage key).getD default) (slot? storage key).isSome := by
  cases taken : slot? storage key with
  | none =>
    refine .default fun text offers => ?_
    rw [slot?_eq_some_iff.mpr offers] at taken
    cases taken
  | some text => exact .slot (slot?_eq_some_iff.mp taken)

theorem Takes.eq_of_offers {storage : σ} {key default text text' : String} {ofSlot : Bool}
    (taken : Takes storage key default text ofSlot) (offers : Offers storage key text') :
    text = text' ∧ ofSlot = true := by
  cases taken with
  | slot offers' => exact ⟨Option.some.inj (Except.ok.inj (offers'.1.symm.trans offers.1)), rfl⟩
  | default nothing => exact absurd offers (nothing text')

/-! ## Loading -/

section

variable (config : Config) (storage : σ) {location : Location} (time : Nat)

/-- A link is all that is looked at. -/
theorem load_of_link {shared : SharedState} (link : location.shared? = some shared) (storage' : τ) :
    let s := load config storage location time
    s.shared = shared ∧ s.origin = .link ∧ load config storage' location time = s.withStorage storage' := by
  have begins {ρ : Type} [Storage ρ] (storage : ρ) : initial config.storage storage location = (shared, .link) := by
    rw [initial, show (location.fragment.bind _) = some shared from link]
  simp only [load, begins]
  exact ⟨rfl, rfl, rfl⟩

theorem load_of_noLink (noLink : location.shared? = none) :
    let s := load config storage location time
    let source := slot? storage config.storage.codeKey
    let title := slot? storage config.storage.titleKey
    s.mode = .editor ∧ s.source = source.getD defaultSource ∧ s.title = title.getD defaultTitle ∧
      s.origin = if source.isSome || title.isSome then .storage else .defaults := by
  have begins : location.fragment.bind (fun fragment => SharedState.decode? fragment.toList) = none := noLink
  simp only [load, initial, begins, sync, and_self]

/-- Without a link, source and title are each taken from their own slot. -/
theorem load_takes (noLink : location.shared? = none) :
    let s := load config storage location time
    ∃ ofSource ofTitle, Takes storage config.storage.codeKey defaultSource s.source ofSource ∧
      Takes storage config.storage.titleKey defaultTitle s.title ofTitle ∧
      s.origin = if ofSource || ofTitle then .storage else .defaults := by
  obtain ⟨_, source, title, origin⟩ := load_of_noLink config storage time noLink
  exact ⟨_, _, source ▸ takes_slot? .., title ▸ takes_slot? .., origin⟩

/-- Without a link the source is what the slot under its key offers and nothing else, and so is the title. -/
theorem load_congr_of_offers (noLink : location.shared? = none) (config' : Config) (storage' : τ)
    {location' : Location} (noLink' : location'.shared? = none) (time' : Nat) :
    let s := load config storage location time
    let s' := load config' storage' location' time'
    (config'.storage.codeKey = config.storage.codeKey →
      (∀ text, Offers storage' config.storage.codeKey text ↔ Offers storage config.storage.codeKey text) →
      s'.source = s.source) ∧
    (config'.storage.titleKey = config.storage.titleKey →
      (∀ text, Offers storage' config.storage.titleKey text ↔ Offers storage config.storage.titleKey text) →
      s'.title = s.title) := by
  obtain ⟨_, source, title, _⟩ := load_of_noLink config storage time noLink
  obtain ⟨_, source', title', _⟩ := load_of_noLink config' storage' time' noLink'
  refine ⟨fun key alike => ?_, fun key alike => ?_⟩
  · rw [source, source', key, slot?_congr alike]
  · rw [title, title', key, slot?_congr alike]

end

/-- A session over any storage and address. What an address carries is what the session begins with, and then the
    storage makes no difference. If it carries nothing, the editor is open, and source and title are each taken from
    their own slot or are their own default; for either of them no other slot makes a difference, nor what the address
    holds instead, nor the rest of the configuration. In both cases nothing is written, nothing has to be saved or is
    due to be, and there is nothing to go back to or to come forward to. -/
theorem loaded_from_link_or_slots (config : Config) (storage : σ) (location : Location) (time : Nat) :
    let s := load config storage location time
    (∀ shared, location.shared? = some shared →
      s.source = shared.source ∧ s.title = shared.title ∧ s.mode = shared.mode ∧ s.origin = .link ∧
      ∀ (ρ : Type) [Storage ρ] (storage' : ρ), load config storage' location time = s.withStorage storage') ∧
    (location.shared? = none →
      s.mode = .editor ∧
      (∃ ofSource ofTitle, Takes storage config.storage.codeKey defaultSource s.source ofSource ∧
        Takes storage config.storage.titleKey defaultTitle s.title ofTitle ∧
        s.origin = if ofSource || ofTitle then .storage else .defaults) ∧
      ∀ (ρ : Type) [Storage ρ] (config' : Config) (storage' : ρ) (location' : Location) (time' : Nat),
        location'.shared? = none →
        let s' := load config' storage' location' time'
        (config'.storage.codeKey = config.storage.codeKey →
          (∀ text, Offers storage' config.storage.codeKey text ↔ Offers storage config.storage.codeKey text) →
          s'.source = s.source) ∧
        (config'.storage.titleKey = config.storage.titleKey →
          (∀ text, Offers storage' config.storage.titleKey text ↔ Offers storage config.storage.titleKey text) →
          s'.title = s.title)) ∧
    s.storage = storage ∧
    (load config (⟨storage, []⟩ : Recorded σ) location time).storage.attempts = [] ∧
    s.status = .saved ∧ s.history.snapshots = [] ∧ s.history.later = [] ∧ s.autosave.deadline = none := by
  intro s
  refine ⟨fun shared link => ?_, fun noLink => ⟨?_, ?_, ?_⟩, rfl, rfl, rfl, rfl, rfl, rfl⟩
  · obtain ⟨parts, origin, _⟩ := load_of_link config storage time link storage
    have parts : (⟨s.source, s.title, s.mode⟩ : SharedState) = shared := parts
    subst parts
    exact ⟨rfl, rfl, rfl, origin, fun ρ _ storage' => (load_of_link config storage time link storage').2.2⟩
  · exact (load_of_noLink config storage time noLink).1
  · exact load_takes config storage time noLink
  · intro ρ _ config' storage' location' time' noLink'
    exact load_congr_of_offers config storage time noLink config' storage' noLink' time'

/-- A link over a slot that cannot be read; and no link over that slot and over an empty one, with a title beside it. -/
theorem loaded_from_link_or_slots_unreadable :
    let corrupt : MemoryStorage :=
      ⟨[("mermaid-go-code", "gantt"), ("mermaid-go-title", "Shares")], 0, [("mermaid-go-code", .format "corrupt")], []⟩
    let empty : MemoryStorage := ⟨[("mermaid-go-code", "")], 0, [], []⟩
    let link : Location := .withFragment "#eyJjIjoicGllIiwidCI6IiIsIm0iOiJ2aWV3ZXIifQ"
    let linked := load {} corrupt link 0
    let s := load {} corrupt (.withFragment "Shares") 0
    (linked.source = "pie" ∧ linked.title = "" ∧ linked.mode = .viewer ∧
      load {} empty link 0 = linked.withStorage empty) ∧
    (s.mode = .editor ∧ s.title = "Shares" ∧ s.origin = .storage) ∧
    (load {} empty {} 7).source = s.source := by
  intro corrupt empty link linked s
  have carried : link.shared? = some ⟨"pie", "", .viewer⟩ := by decide +kernel
  have noLink : (Location.withFragment "Shares").shared? = none := by decide +kernel
  obtain ⟨source, title, mode, _, same⟩ := (loaded_from_link_or_slots {} corrupt link 0).1 _ carried
  obtain ⟨_, without, _⟩ := loaded_from_link_or_slots {} corrupt (.withFragment "Shares") 0
  obtain ⟨editor, ⟨ofSource, ofTitle, _, taken, origin⟩, alone⟩ := without noLink
  have offered : Offers corrupt "mermaid-go-title" "Shares" := ⟨rfl, by decide⟩
  obtain ⟨shown, rfl⟩ := taken.eq_of_offers offered
  rw [Bool.or_true] at origin
  refine ⟨⟨source, title, mode, same _ empty⟩, ⟨editor, shown, origin⟩, ?_⟩
  refine (alone _ {} empty {} 7 rfl).1 rfl fun text => ?_
  rw [← slot?_eq_some_iff, ← slot?_eq_some_iff]
  rfl

end Session

end DiagramStudio
