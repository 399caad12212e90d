import AppLauncher.Model.Basic
import AppLauncher.Proofs.Json.Typed

/-!
What a model holds of the object that it was read from. Each level takes the fields that it knows, which may be given
once only, and keeps the others as they are.
-/
namespace AppLauncher

theorem Json.ofMap_injective : Function.Injective Json.ofMap :=
  fun _ _ same => KeyMap.ext (Json.object.inj same)

theorem Json.string_injective : Function.Injective Json.string := fun _ _ same => Json.string.inj same

namespace Model

open Json (Outline)
open Json.Outline (GivesOnce givenTo Held Means takes_text takes_bag json?_of_open? open?_eq_some_iff gives_givenTo
  required_eq_some_iff orElse_eq_some_iff maybe_eq_some_iff valid_of_required valid_of_orElse)

/-! ### Levels -/

structure Meta.Agrees (m : Meta) (value : Json) : Prop where
  capabilities : (value.field? "capabilities").getD (.object []) = .ofMap m.capabilities
  kept : value.Keeps ["capabilities"] m.kept

structure Info.Agrees (info : Info) (value : Json) : Prop where
  about : Held Meta.Agrees info.about (value.field? "meta")
  kept : value.Keeps ["meta"] info.kept

/-- Whether a model holds what an object tells about it: the fields that it knows, or their defaults, and all others
at their own level. -/
structure Agrees (model : Model) (value : Json) : Prop where
  id : value.field? "id" = some (.string model.id)
  name : (value.field? "name").getD (.string "") = .string model.name
  info : Held Info.Agrees model.info (value.field? "info")
  kept : value.Keeps ["id", "name", "info"] model.kept

def Meta.Once (outline : Outline) : Prop := GivesOnce ["capabilities"] outline

structure Info.Once (outline : Outline) : Prop where
  here : GivesOnce ["meta"] outline
  about : ∀ item, givenTo ["meta"] outline "meta" = some item → Meta.Once item

/-- Whether an object gives each name that a model knows once, at each level. -/
structure Once (outline : Outline) : Prop where
  here : GivesOnce ["id", "name", "info"] outline
  info : ∀ item, givenTo ["id", "name", "info"] outline "info" = some item → Info.Once item

/-! ### Reading -/

theorem Meta.means : Means ofOutline? Once Agrees := by
  intro outline m
  constructor
  · intro read
    simp only [ofOutline?, Option.bind_eq_bind, Option.bind_eq_some_iff, Option.pure_def, Option.some_inj] at read
    obtain ⟨opened, opens, capabilities, taken, rfl⟩ := read
    obtain ⟨value, valid⟩ := json?_of_open? opens (by simpa using valid_of_orElse takes_bag.validates taken)
    obtain ⟨once, given, keeps⟩ := (open?_eq_some_iff valid).mp opens
    rw [given, orElse_eq_some_iff takes_bag Json.ofMap_injective (gives_givenTo valid (by simp))] at taken
    exact ⟨once, value, valid, taken, keeps⟩
  · rintro ⟨once, value, valid, agrees⟩
    have opens : outline.open? ["capabilities"] = some ⟨givenTo ["capabilities"] outline, m.kept⟩ :=
      (open?_eq_some_iff valid).mpr ⟨once, rfl, agrees.kept⟩
    have capabilities : Outline.orElse {} Outline.bag? (givenTo ["capabilities"] outline "capabilities") =
        some m.capabilities :=
      (orElse_eq_some_iff takes_bag Json.ofMap_injective (gives_givenTo valid (by simp)) _ _).mpr agrees.capabilities
    simp [ofOutline?, opens, capabilities]

theorem Meta.not_agrees_null (m : Meta) : ¬m.Agrees .null := fun agrees => Json.not_keeps_null agrees.kept

theorem Meta.once_null : Once .null := fun _ _ => Nat.zero_le _

theorem Info.means : Means ofOutline? Once Agrees := by
  intro outline info
  constructor
  · intro read
    simp only [ofOutline?, Option.bind_eq_bind, Option.bind_eq_some_iff, Option.pure_def, Option.some_inj] at read
    obtain ⟨opened, opens, about, taken, rfl⟩ := read
    obtain ⟨value, valid⟩ := json?_of_open? opens
      (by simpa using valid_of_orElse Meta.means.validates.optional taken)
    obtain ⟨once, given, keeps⟩ := (open?_eq_some_iff valid).mp opens
    rw [given, maybe_eq_some_iff Meta.means Meta.once_null Meta.not_agrees_null
      (gives_givenTo valid (by simp))] at taken
    exact ⟨⟨once, taken.1⟩, value, valid, taken.2, keeps⟩
  · rintro ⟨once, value, valid, agrees⟩
    have opens : outline.open? ["meta"] = some ⟨givenTo ["meta"] outline, info.kept⟩ :=
      (open?_eq_some_iff valid).mpr ⟨once.here, rfl, agrees.kept⟩
    have about : Outline.maybe Meta.ofOutline? (givenTo ["meta"] outline "meta") = some info.about :=
      (maybe_eq_some_iff Meta.means Meta.once_null Meta.not_agrees_null (gives_givenTo valid (by simp)) _).mpr
        ⟨once.about, agrees.about⟩
    simp [ofOutline?, opens, about]

theorem Info.not_agrees_null (info : Info) : ¬info.Agrees .null := fun agrees => Json.not_keeps_null agrees.kept

theorem Info.once_null : Once .null := ⟨fun _ _ => Nat.zero_le _, by simp [givenTo, Outline.last?, Outline.valuesOf]⟩

/-- A model is read from every object that is a value, gives its known names once and agrees with it. -/
theorem means : Means ofOutline? Once Agrees := by
  intro outline model
  constructor
  · intro read
    simp only [ofOutline?, Option.bind_eq_bind, Option.bind_eq_some_iff, Option.pure_def, Option.some_inj] at read
    obtain ⟨opened, opens, id, takenId, name, takenName, info, takenInfo, rfl⟩ := read
    obtain ⟨value, valid⟩ := json?_of_open? opens (by
      simpa using ⟨valid_of_required takes_text.validates takenId, valid_of_orElse takes_text.validates takenName,
        valid_of_orElse Info.means.validates.optional takenInfo⟩)
    obtain ⟨once, given, keeps⟩ := (open?_eq_some_iff valid).mp opens
    rw [given, required_eq_some_iff takes_text (gives_givenTo valid (by simp))] at takenId
    rw [given, orElse_eq_some_iff takes_text Json.string_injective (gives_givenTo valid (by simp))] at takenName
    rw [given, maybe_eq_some_iff Info.means Info.once_null Info.not_agrees_null
      (gives_givenTo valid (by simp))] at takenInfo
    exact ⟨⟨once, takenInfo.1⟩, value, valid, takenId, takenName, takenInfo.2, keeps⟩
  · rintro ⟨once, value, valid, agrees⟩
    let given := givenTo ["id", "name", "info"] outline
    have opens : outline.open? ["id", "name", "info"] = some ⟨given, model.kept⟩ :=
      (open?_eq_some_iff valid).mpr ⟨once.here, rfl, agrees.kept⟩
    have id : Outline.required Outline.text? (given "id") = some model.id :=
      (required_eq_some_iff takes_text (gives_givenTo valid (by simp)) _).mpr agrees.id
    have name : Outline.orElse "" Outline.text? (given "name") = some model.name :=
      (orElse_eq_some_iff takes_text Json.string_injective (gives_givenTo valid (by simp)) _ _).mpr agrees.name
    have info : Outline.maybe Info.ofOutline? (given "info") = some model.info :=
      (maybe_eq_some_iff Info.means Info.once_null Info.not_agrees_null (gives_givenTo valid (by simp)) _).mpr
        ⟨once.info, agrees.info⟩
    simp [ofOutline?, opens, id, name, info]

end Model

end AppLauncher
